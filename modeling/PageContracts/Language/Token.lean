import PageContracts.Text.Escapes
import PageContracts.Text.Names
import PageContracts.Value

/-! # Tokens

The smallest parts of an expression: names, words of the language, numbers, texts between quotes,
and signs.
-/
namespace PageContracts.Language

open Characters

/-- A part of a text that is filled in: written out, or an expression still to be read, with the
way to convert it and the way to lay it out. -/
inductive TemplatePart where
  | text (text : String)
  | field (expression : String) (conversion : Option Char) (layout : Option (List TemplatePart))
  deriving Repr, Inhabited

/-- A token. Names are in their normal form. -/
inductive Token where
  | name (name : String)
  | word (word : String)
  | number (value : Value)
  /-- A multiple of the imaginary unit. -/
  | imaginary (x : Binary64)
  | quotation (text : String)
  | template (parts : List TemplatePart)
  | bytes (bytes : List UInt8)
  | sign (sign : String)
  deriving Repr, Inhabited

namespace Token

/-- Whether a token is a given sign. -/
def isSign (sign : String) : Token → Bool
  | .sign s => s = sign
  | _ => false

/-- Whether a token is a given word of the language. -/
def isWord (word : String) : Token → Bool
  | .word w => w = word
  | _ => false

/-- The signs, longer ones before those they begin with. -/
def signs : List String :=
  ["...", "**", "//", "<<", ">>", "<=", ">=", "==", "!=", "->", ":=", "+", "-", "*", "/", "%", "@",
    "&", "|", "^", "~", "<", ">", "(", ")", "[", "]", "\x7b", "\x7d", ",", ":", ".", ";", "="]

/-- The sign a text starts with. -/
def sign? (text : List Char) : Option String :=
  signs.find? fun sign => sign.toList.isPrefixOf text

/-- The digits of a base at the start of a text, and what follows. Single underscores may stand
between digits; there must be one digit at least. -/
def digits? (base : Nat) (text : List Char) : Option (List Char × List Char) :=
  let taken := text.takeWhile fun c => c = '_' || Reading.isDigitOf base c
  let groups := splitOn '_' taken
  if groups.all fun group => !group.isEmpty then some (groups.flatten, text.drop taken.length)
  else none

/-- The digits of a base behind its mark; one underscore may stand between them. -/
def markedInteger? (base : Nat) (text : List Char) : Option (Value × List Char) := do
  let (digits, rest) ← digits? base (if text.head? = some '_' then text.tail else text)
  return (.int (Reading.digitsValue base 0 digits), rest)

/-- The digits of an exponent at the start of a text, with its mark and sign. -/
def exponent? (text : List Char) : Option (List Char × List Char) :=
  match text with
  | mark :: rest =>
    if asciiLower mark ≠ 'e' then none
    else
      let sign := rest.takeWhile fun c => c = '+' || c = '-'
      if 1 < sign.length then none
      else (digits? 10 (rest.drop sign.length)).map fun (digits, left) =>
        ('e' :: sign ++ digits, left)
  | [] => none

/-- The fraction and the exponent behind the whole part of a number. -/
def fraction (text : List Char) : List Char × List Char :=
  let (point, rest) :=
    match text with
    | '.' :: rest =>
      match digits? 10 rest with
      | some (digits, left) => ('.' :: digits, left)
      | none => (['.'], rest)
    | _ => ([], text)
  match exponent? rest with
  | some (exponent, left) => (point ++ exponent, left)
  | none => (point, rest)

/-- A decimal number. An integer has no zeros in front and not too many digits. -/
def decimal? (text : List Char) : Option (Token × List Char) := do
  let (whole, rest) ← if text.head? = some '.' then some ([], text) else digits? 10 text
  let (behind, left) := fraction rest
  if left.head?.map asciiLower = some 'j' then
    return (.imaginary (← Reading.double? (String.ofList (whole ++ behind))), left.tail)
  else if behind.isEmpty then
    guard (whole.head? ≠ some '0' || whole.all (· = '0'))
    return (.number (.int (← Reading.natural? whole)), left)
  else return (.number (.float (← Reading.double? (String.ofList (whole ++ behind)))), left)

/-- The words that may stand right behind a number. -/
def wordsBehindNumbers : List String := ["and", "else", "for", "if", "in", "is", "not", "or"]

/-- Read a number. No name may start right behind it, but some words may. -/
def number? (text : List Char) : Option (Token × List Char) := do
  let (token, rest) ←
    match text with
    | '0' :: mark :: rest =>
      match [2, 8, 16].find? fun base => Reading.baseMark? base = some (asciiLower mark) with
      | some base => (markedInteger? base rest).map fun (value, rest) => (.number value, rest)
      | none => decimal? text
    | _ => decimal? text
  guard (!((rest.head?.map Names.isPart).getD false) ||
    wordsBehindNumbers.any fun word => word.toList.isPrefixOf rest)
  return (token, rest)

/-- What the letters in front of a text between quotes tell: that backslashes stand for
themselves, that the text is one of bytes, and that braces in it hold what is filled in. -/
structure QuoteStyle where
  raw : Bool := false
  inBytes : Bool := false
  fills : Bool := false
  deriving DecidableEq, Repr, Inhabited

/-- The letters that may stand in front of a text between quotes. -/
def quotePrefixes : List (String × QuoteStyle) :=
  [("", {}), ("u", {}), ("r", { raw := true }), ("b", { inBytes := true }),
    ("rb", { raw := true, inBytes := true }), ("br", { raw := true, inBytes := true }),
    ("f", { fills := true }), ("rf", { raw := true, fills := true }),
    ("fr", { raw := true, fills := true })]

/-- The text up to the closing quotes, its escapes left as they are, and what follows the quotes. -/
def upToQuotes? (closing : List Char) : Nat → List Char → Option (List Char × List Char)
  | 0, _ => none
  | fuel + 1, text =>
    if closing.isPrefixOf text then some ([], text.drop closing.length)
    else
      match text with
      | [] => none
      | '\\' :: c :: after =>
        (upToQuotes? closing fuel after).map fun (read, rest) => ('\\' :: c :: read, rest)
      | c :: after =>
        if c = '\n' && closing.length = 1 then none
        else (upToQuotes? closing fuel after).map fun (read, rest) => (c :: read, rest)

/-- What a style makes of the text between quotes. -/
def plainText? (style : QuoteStyle) (text : List Char) : Option (List Char) :=
  if style.raw then some text else Escapes.unescaped? style.inBytes (text.length + 1) text

/-- What is written out between the parts that are filled in, from its characters backwards. A backslash
in front of a brace stands for itself. -/
def written? (style : QuoteStyle) (before : List Char) : Option (List TemplatePart) :=
  let slashes := before.takeWhile (· = '\\')
  let before := if !style.raw && slashes.length % 2 = 1 then '\\' :: before else before
  (plainText? style before.reverse).map fun text =>
    if text.isEmpty then [] else [.text (String.ofList text)]

/-- The text of an expression that is filled in, up to what ends it: a mark of conversion, a colon
or a closing brace that stands in no brackets and no quotes. Neither a backslash nor a comment may
stand in it. The fuel is the length of the text. -/
def fieldText? : Nat → Nat → Option Char → List Char → Option (List Char × List Char)
  | 0, _, _, _ => none
  | _ + 1, _, _, [] => none
  | fuel + 1, depth, some quote, c :: rest => do
    guard (c ≠ '\\')
    let (read, left) ← fieldText? fuel depth (if c = quote then none else some quote) rest
    return (c :: read, left)
  | fuel + 1, depth, none, c :: rest => do
    guard (c ≠ '\\' && c ≠ '#')
    let on (depth : Nat) (quote : Option Char) : Option (List Char × List Char) :=
      (fieldText? fuel depth quote rest).map fun (read, left) => (c :: read, left)
    if c = '\'' || c = '"' then on depth (some c)
    else if c = '(' || c = '[' || c = '\x7b' then on (depth + 1) none
    else if depth ≠ 0 then on (if c = ')' || c = ']' || c = '\x7d' then depth - 1 else depth) none
    else if ['!', '=', '<', '>'].contains c && rest.head? = some '=' then
      (fieldText? fuel depth none rest.tail).map fun (read, left) => (c :: '=' :: read, left)
    else if c = '!' || c = ':' || c = '\x7d' || c = '=' then some ([], c :: rest)
    else if c = ')' || c = ']' then none
    else on depth none

/-- The mark of conversion behind an expression that is filled in. -/
def conversion? (text : List Char) : Option (Option Char × List Char) :=
  match text with
  | '!' :: c :: rest => if ['s', 'r', 'a'].contains c then some (some c, rest) else none
  | '!' :: [] => none
  | text => some (none, text)

mutual

/-- The parts of a text that is filled in. Within a layout they end at a closing brace, which is
left where it is; a layout holds no layouts of its own. The fuel is the length of the text. -/
def parts? (style : QuoteStyle) (level : Nat) :
    Nat → List Char → List Char → Option (List TemplatePart × List Char)
  | 0, _, _ => none
  | fuel + 1, before, text => do
    match text with
    | [] => if level = 0 then return (← written? style before, []) else none
    | '\\' :: 'N' :: '\x7b' :: rest =>
      if style.raw then parts? style level fuel ('N' :: '\\' :: before) ('\x7b' :: rest)
      else
        let name := rest.takeWhile (· ≠ '\x7d')
        let taken := '\x7d' :: name.reverse ++ ['\x7b', 'N', '\\']
        parts? style level fuel (taken ++ before) (rest.drop (name.length + 1))
    | '\\' :: c :: rest =>
      if c = '\x7b' || c = '\x7d' then parts? style level fuel ('\\' :: before) (c :: rest)
      else parts? style level fuel (c :: '\\' :: before) rest
    | '\x7b' :: '\x7b' :: rest =>
      if level = 0 then parts? style level fuel ('\x7b' :: before) rest
      else field? style level fuel (← written? style before) ('\x7b' :: rest)
    | '\x7b' :: rest => field? style level fuel (← written? style before) rest
    | '\x7d' :: '\x7d' :: rest =>
      if level = 0 then parts? style level fuel ('\x7d' :: before) rest
      else return (← written? style before, text)
    | '\x7d' :: _ => if level = 0 then none else return (← written? style before, text)
    | c :: rest => parts? style level fuel (c :: before) rest

/-- An expression that is filled in, behind its opening brace, and the parts that follow it. -/
def field? (style : QuoteStyle) (level : Nat) :
    Nat → List TemplatePart → List Char → Option (List TemplatePart × List Char)
  | 0, _, _ => none
  | fuel + 1, front, text => do
    guard (level < 2)
    let (expression, rest) ← fieldText? (text.length + 1) 0 none text
    guard (expression.any fun c => !isBlank c)
    let (label, rest) :=
      match rest with
      | '=' :: rest =>
        let gap := rest.takeWhile isBlank
        (some (expression ++ '=' :: gap), rest.drop gap.length)
      | rest => (none, rest)
    let (conversion, rest) ← conversion? rest
    let (layout, rest) ←
      match rest with
      | ':' :: rest =>
        (parts? style (level + 1) fuel [] rest).map fun (layout, rest) => (some layout, rest)
      | rest => some (none, rest)
    guard (rest.head? = some '\x7d')
    let conversion :=
      if label.isSome && conversion.isNone && layout.isNone then some 'r' else conversion
    let labelled : List TemplatePart :=
      match label with
      | some label => [.text (String.ofList label)]
      | none => []
    let (more, left) ← parts? style level fuel [] rest.tail
    return (front ++ labelled ++ .field (String.ofList expression) conversion layout :: more, left)

end

/-- Read a text between quotes behind the letters in front of it. -/
def quoted? (style : QuoteStyle) (text : List Char) : Option (Token × List Char) := do
  let quote ← text.head?
  guard (quote = '\'' || quote = '"')
  let closing :=
    if [quote, quote, quote].isPrefixOf text then [quote, quote, quote] else [quote]
  let (read, rest) ← upToQuotes? closing (text.length + 1) (text.drop closing.length)
  if style.fills then
    let (parts, _) ← parts? style 0 (2 * read.length + 2) [] read
    return (.template parts, rest)
  else if style.inBytes then
    guard (read.all fun c => c.toNat < 0x80)
    let read ← plainText? style read
    return (.bytes (read.map fun c => UInt8.ofNat c.toNat), rest)
  else return (.quotation (String.ofList (← plainText? style read)), rest)

/-- Read a name or a word, or a text between quotes whose letters in front look like a name. -/
def wordOrText? (text : List Char) : Option (Token × List Char) :=
  let word := text.takeWhile Names.isPart
  let rest := text.drop word.length
  let opensText := rest.head? = some '\'' || rest.head? = some '"'
  match quotePrefixes.lookup (lowerAscii (String.ofList word)) with
  | some style => if opensText then quoted? style rest else plain word rest
  | none => plain word rest
where
  /-- A name, or a word of the language; a constant is also meant by a name that only looks
  different. -/
  plain (word rest : List Char) : Option (Token × List Char) :=
    let name := Names.normalForm (String.ofList word)
    if !Names.isName word then none
    else if Names.reservedWords.contains (String.ofList word) ||
        ["None", "True", "False"].contains name then
      some (.word name, rest)
    else some (.name name, rest)

/-- Read a token. -/
def read? (text : List Char) : Option (Token × List Char) :=
  match text with
  | [] => none
  | c :: rest =>
    if isAsciiDigit c || (c = '.' && (rest.head?.map isAsciiDigit).getD false) then number? text
    else if Names.isStart c || c = '\'' || c = '"' then wordOrText? text
    else (sign? text).map fun sign => (.sign sign, text.drop sign.length)

/-- Whether a character parts tokens on a line. -/
def isGap (c : Char) : Bool :=
  c = ' ' || c = '\t' || c = '\x0c'

/-- The depth of brackets behind a token. -/
def depthBehind (depth : Nat) (token : Token) : Nat :=
  if ["(", "[", "\x7b"].any fun sign => token.isSign sign then depth + 1
  else if [")", "]", "\x7d"].any fun sign => token.isSign sign then depth - 1
  else depth

/-- The deepest that brackets may stand inside one another. -/
def deepest : Nat := 200

/-- A text behind the rest of its line. -/
def skipComment (text : List Char) : List Char :=
  text.dropWhile (· ≠ '\n')

/-- Whether nothing but empty lines and comments is left of a text. The fuel is its length. -/
def isBlank : Nat → List Char → Bool
  | 0, text => text.isEmpty
  | fuel + 1, text =>
    match text with
    | [] => true
    | '#' :: _ => isBlank fuel (skipComment text)
    | c :: rest => (isGap c || c = '\n') && isBlank fuel rest

/-- The tokens of a text from a place on: inside brackets line ends part tokens, and outside one
ends the text. The fuel is the length of the text. -/
def readAll? (depth : Nat) (lineStart : Bool) : Nat → List Char → Option (List Token)
  | 0, text => if text.isEmpty then some [] else none
  | fuel + 1, text =>
    match text with
    | [] => some []
    | '\\' :: '\n' :: rest => if rest.isEmpty then none else readAll? depth false fuel rest
    | '#' :: _ => readAll? depth lineStart fuel (skipComment text)
    | '\n' :: rest =>
      if depth ≠ 0 then readAll? depth false fuel rest
      else if lineStart then readAll? depth true fuel rest
      else if isBlank (rest.length + 1) rest then some []
      else none
    | c :: rest =>
      if isGap c then
        let gap := text.takeWhile isGap
        let behind := text.drop gap.length
        let isIndented := (gap.reverse.takeWhile (· ≠ '\x0c')) ≠ []
        if lineStart && isIndented &&
            !(behind.isEmpty || behind.head? = some '#' || behind.head? = some '\n') then
          none
        else readAll? depth (lineStart && c ≠ '\x0c') fuel rest
      else do
        let (token, rest) ← read? text
        let depth := depthBehind depth token
        guard (depth ≤ deepest)
        return token :: (← readAll? depth false fuel rest)

/-- The tokens of a text; `none` when it holds something that is none. -/
def row? (text : String) : Option (List Token) :=
  let characters := unifyLineEnds text.toList
  readAll? 0 true (characters.length + 1) characters

end Token
end PageContracts.Language
