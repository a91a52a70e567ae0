import PageContracts.Settings.Document.Token

/-! # Scalars as written

The three ways to write a text in a settings document: between quotes, as a block below an
indicator, and plain. Line ends inside a text are folded into spaces, except in a literal block.
-/
namespace PageContracts.Document.Scalar

open Reader

/-- Read line ends, passing over the blanks between them. A document separator must not stand at
the start of any of the lines. The fuel is the number of characters ahead. -/
def quotedBreaks : Nat → Reader (List Char)
  | 0 => return []
  | fuel + 1 => do
    require (!(← get).atSeparator)
    skipWhile isSpace
    match ← lineBreak with
    | [] => return []
    | text => return text ++ (← quotedBreaks fuel)

/-- A folded line end: a single one becomes a space, one followed by others vanishes. -/
def foldBreak (first others : List Char) : List Char :=
  if first ≠ ['\n'] then first ++ others
  else if others.isEmpty then [' ']
  else others

/-- Read blanks and line ends between the words of a quoted text. -/
def quotedSpaces (fuel : Nat) : Reader (List Char) := do
  let blanks ← takeWhile isSpace
  require (← peek).isSome
  match ← lineBreak with
  | [] => return blanks
  | first => return foldBreak first (← quotedBreaks fuel)

/-- The character that a letter behind a backslash stands for. -/
def escapes : List (Char × Nat) :=
  [('0', 0), ('a', 7), ('b', 8), ('t', 9), ('\t', 9), ('n', 10), ('v', 11), ('f', 12), ('r', 13),
    ('e', 0x1B), (' ', 0x20), ('"', 0x22), ('\\', 0x5C), ('/', 0x2F), ('N', 0x85), ('_', 0xA0),
    ('L', 0x2028), ('P', 0x2029)]

/-- The number of hexadecimal digits behind a letter behind a backslash. -/
def codeLengths : List (Char × Nat) :=
  [('x', 2), ('u', 4), ('U', 8)]

/-- The character of a code point. A surrogate stands for nothing on its own and is replaced. -/
def characterOf (code : Nat) : Except Defect Char :=
  if code.isValidChar then .ok (Char.ofNat code)
  else if code < 0x110000 then .ok (Char.ofNat 0xFFFD)
  else .error (if code < Nat.pow 2 31 then .unreadable else .tooLarge)

/-- The number that hexadecimal digits at the start of a text spell. -/
def hexNumber? (length : Nat) (text : List Char) : Option Nat :=
  let digits := (text.take length).map Token.unescape.hexDigit?
  if digits.length = length && digits.all Option.isSome then
    some (digits.foldl (fun n d => 16 * n + d.getD 0) 0)
  else none

/-- The character whose second half is given by an escape at the start of a text, when `first` is
the first half of one. -/
def joinedHalves? (first : Nat) (text : List Char) : Option Char := do
  let second ← if text.take 2 = ['\\', 'u'] then hexNumber? 4 (text.drop 2) else none
  guard (0xD800 ≤ first && first < 0xDC00 && 0xDC00 ≤ second && second < 0xE000)
  return Char.ofNat (0x10000 + 0x400 * (first - 0xD800) + (second - 0xDC00))

/-- Read a character given by its code point, or by those of its two halves. -/
def codePoint (length : Nat) : Reader (List Char) := do
  let ahead := (← get).rest
  match hexNumber? length ahead with
  | none => fail
  | some code =>
    match joinedHalves? code (ahead.drop length) with
    | some character =>
      skip (length + 6)
      return [character]
    | none =>
      let character ← characterOf code
      skip length
      return [character]

/-- Read what follows a backslash. -/
def escaped (fuel : Nat) : Reader (List Char) := do
  match ← peek with
  | none => fail
  | some c =>
    match escapes.lookup c, codeLengths.lookup c with
    | some code, _ =>
      skip 1
      return [Char.ofNat code]
    | none, some length =>
      skip 1
      codePoint length
    | none, none =>
      require (isBreak c)
      let _ ← lineBreak
      quotedBreaks fuel

/-- Whether a character of a quoted text has to be looked at on its own. -/
def isQuotedStop (c : Char) : Bool :=
  c = '\'' || c = '"' || c = '\\' || isSpace c || isBreak c

/-- Read the words of a quoted text up to a blank, a line end or the closing quote. -/
def quotedWord (quote : Char) : Nat → Reader (List Char)
  | 0 => fail
  | fuel + 1 => do
    let word ← takeWhile fun c => !isQuotedStop c
    let cursor ← get
    match cursor.peek 0 with
    | none => return word
    | some c =>
      if quote = '\'' && c = '\'' && cursor.peek 1 = some '\'' then
        skip 2
        return word ++ '\'' :: (← quotedWord quote fuel)
      else if c ≠ quote && (c = '\'' || c = '"' || (quote = '\'' && c = '\\')) then
        skip 1
        return word ++ c :: (← quotedWord quote fuel)
      else if quote = '"' && c = '\\' then
        skip 1
        let text ← escaped fuel
        return word ++ text ++ (← quotedWord quote fuel)
      else return word

/-- Read a quoted text up to its closing quote. -/
def quotedRest (quote : Char) : Nat → Reader (List Char)
  | 0 => fail
  | fuel + 1 => do
    let word ← quotedWord quote (fuel + 1)
    if (← get).atChar quote then
      skip 1
      return word
    let spaces ← quotedSpaces fuel
    return word ++ spaces ++ (← quotedRest quote fuel)

/-- Read a quoted text. -/
def quoted (quote : Char) : Reader Token := do
  skip 1
  let text ← quotedRest quote ((← get).ahead + 1)
  return .scalar (String.ofList text) false

/-- What stands behind the indicator of a block: whether its last line ends are all kept or all
dropped, and its indentation. -/
structure BlockHeader where
  keeps : Option Bool := none
  indent : Option Nat := none
  deriving DecidableEq, Repr, Inhabited

/-- Read the sign that tells what happens to the last line ends. -/
def keepSign : Reader (Option Bool) := do
  let sign ← peek
  if sign = some '+' then
    skip 1
    return some true
  else if sign = some '-' then
    skip 1
    return some false
  else return none

/-- Read the digit that gives the indentation, which must not be zero. -/
def indentDigit : Reader (Option Nat) := do
  match ← peek with
  | none => return none
  | some c =>
    if Characters.isAsciiDigit c then
      require (c ≠ '0')
      skip 1
      return some (c.toNat - '0'.toNat)
    else return none

/-- Read the header of a block: the sign and the digit in either order. -/
def blockHeader : Reader BlockHeader := do
  let before ← keepSign
  let indent ← indentDigit
  let keeps ← if before.isNone && indent.isSome then keepSign else pure before
  require (endsIndicator (← peek))
  restOfLine
  return { keeps, indent }

/-- Read the empty lines at the start of a block, which tell its indentation. -/
def blockStart : Nat → Nat → Reader (List Char × Nat)
  | 0, widest => return ([], widest)
  | fuel + 1, widest => do
    let cursor ← get
    match cursor.peek 0 with
    | none => return ([], widest)
    | some c =>
      if c = ' ' then
        skip 1
        blockStart fuel (max widest (← get).column)
      else if isBreak c then
        let text ← lineBreak
        let (others, widest) ← blockStart fuel widest
        return (text ++ others, widest)
      else return ([], widest)

/-- Pass over spaces up to an indentation. -/
def skipIndent (indent : Nat) : Reader Unit := do
  let cursor ← get
  let spaces := (cursor.rest.takeWhile (· = ' ')).length
  skip (min spaces (indent - cursor.column))

/-- Read the empty lines inside a block. -/
def blockBreaks (indent : Nat) : Nat → Reader (List Char)
  | 0 => return []
  | fuel + 1 => do
    skipIndent indent
    match ← lineBreak with
    | [] => return []
    | text => return text ++ (← blockBreaks indent fuel)

/-- What is left of a block when its lines have been read: its text, its last line end and the
empty lines behind it. -/
structure BlockBody where
  text : List Char := []
  lastBreak : List Char := []
  trailing : List Char := []
  deriving DecidableEq, Repr, Inhabited

/-- Read the lines of a block; `pending` are the empty lines read already. -/
def blockLines (folded : Bool) (indent : Nat) : Nat → List Char → Reader BlockBody
  | 0, pending => return { trailing := pending }
  | fuel + 1, pending => do
    let cursor ← get
    if cursor.column ≠ indent || cursor.rest.isEmpty then return { trailing := pending }
    let startsPlain := !((cursor.peek 0).map isSpace).getD false
    let line ← takeWhile fun c => !isBreak c
    let lineEnd ← lineBreak
    let breaks ← blockBreaks indent (cursor.ahead + 1)
    let after ← get
    if after.column ≠ indent || after.rest.isEmpty then
      return { text := pending ++ line, lastBreak := lineEnd, trailing := breaks }
    let nextPlain := !((after.peek 0).map isSpace).getD false
    let joint :=
      if folded && lineEnd = ['\n'] && startsPlain && nextPlain then
        if breaks.isEmpty then [' '] else []
      else lineEnd
    let body ← blockLines folded indent fuel breaks
    return { body with text := pending ++ line ++ joint ++ body.text }

/-- Read a block. It is indented deeper than `outer`, the indentation around it. -/
def block (outer : Int) : Reader Token := do
  let folded := (← get).atChar '>'
  skip 1
  let header ← blockHeader
  let least := max (outer + 1).toNat 1
  let fuel := (← get).ahead + 1
  let (pending, indent) ←
    match header.indent with
    | some given => do
      let indent := least + given - 1
      pure (← blockBreaks indent fuel, indent)
    | none => do
      let (breaks, widest) ← blockStart fuel 0
      pure (breaks, max least widest)
  let body ← blockLines folded indent fuel pending
  let text := body.text ++ (if header.keeps = some false then [] else body.lastBreak) ++
    (if header.keeps = some true then body.trailing else [])
  return .scalar (String.ofList text) false

/-- Whether a plain text inside brackets ends before a character. -/
def endsPlainInFlow (c : Char) : Bool :=
  c = ',' || c = '?' || c = '[' || c = ']' || c = '\x7b' || c = '\x7d'

/-- Whether a colon in a plain text is followed by something that makes it an indicator. -/
def marksValue (inFlow : Bool) (after : Option Char) : Bool :=
  endsWord after ||
    (inFlow && (after.map fun c => ",[]\x7b\x7d".toList.contains c).getD false)

/-- The characters of a plain text up to a blank, a line end or an indicator. -/
def plainWord (inFlow : Bool) : List Char → List Char
  | [] => []
  | c :: rest =>
    if isSpace c || isBreak c || (c = ':' && marksValue inFlow rest.head?) ||
        (inFlow && endsPlainInFlow c) then []
    else c :: plainWord inFlow rest

/-- Read the line ends and spaces behind the first line end of a plain text; `none` when a
document separator follows. -/
def plainBreaks : Nat → Reader (Option (List Char))
  | 0 => return some []
  | fuel + 1 => do
    if (← get).atSeparator then return none
    skipWhile (· = ' ')
    match ← lineBreak with
    | [] => return some []
    | text => return (← plainBreaks fuel).map (text ++ ·)

/-- Blanks inside a plain text: what they stand for, and whether a line ended among them. -/
structure PlainSpaces where
  text : List Char := []
  crossedLine : Bool := false
  deriving DecidableEq, Repr, Inhabited

/-- Read the blanks behind a word of a plain text. -/
def plainSpaces : Reader PlainSpaces := do
  let fuel := (← get).ahead + 1
  let blanks ← takeWhile (· = ' ')
  match ← lineBreak with
  | [] => return { text := blanks }
  | first =>
    match ← plainBreaks fuel with
    | none => return { crossedLine := true }
    | some others => return { text := foldBreak first others, crossedLine := true }

/-- Read a plain text; `spaces` are the blanks in front of the next word. The result also tells
whether the text ended behind a line end. -/
def plainRest (inFlow : Bool) (indent : Int) : Nat → List Char → Bool →
    Reader (List Char × Bool)
  | 0, _, crossed => return ([], crossed)
  | fuel + 1, spaces, crossed => do
    let cursor ← get
    let word := if cursor.atChar '#' then [] else plainWord inFlow cursor.rest
    if word.isEmpty then return ([], crossed)
    skip word.length
    let behind ← plainSpaces
    let text := spaces ++ word
    let cursor ← get
    if behind.text.isEmpty || cursor.atChar '#' ||
        (!inFlow && (cursor.column : Int) < indent) then
      return (text, behind.crossedLine)
    let (rest, crossed) ← plainRest inFlow indent fuel behind.text behind.crossedLine
    return (text ++ rest, crossed)

/-- Read a plain text. -/
def plain (inFlow : Bool) (outer : Int) : Reader (Token × Bool) := do
  let (text, crossed) ← plainRest inFlow (outer + 1) ((← get).ahead + 1) [] false
  return (.scalar (String.ofList text) true, crossed)

end PageContracts.Document.Scalar
