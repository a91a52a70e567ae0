import PageContracts.Language.Arguments
import PageContracts.Language.Slice
import PageContracts.Text.Searching
import PageContracts.Value.Conversion
import PageContracts.Template.Fill

/-! # Methods of texts and bytes

What texts and bytes can be asked for. Bytes are taken as the characters with their numbers; those
beyond ASCII have neither case nor class, so they are moved out of the way while a method works.
-/
namespace PageContracts.Language.TextMethod

open Characters

/-- Where bytes beyond ASCII are moved to: characters for private use, which have no class. -/
def privateStart : Nat := 0xE000

/-- A byte as a character without class, unless it is an ASCII one. -/
def ofByte (byte : UInt8) : Char :=
  if byte < 0x80 then Char.ofNat byte.toNat else Char.ofNat (privateStart + byte.toNat)

/-- The byte that a character stands for. -/
def toByte (c : Char) : UInt8 :=
  UInt8.ofNat (if c.toNat < privateStart then c.toNat else c.toNat - privateStart)

/-- The characters of a text or of bytes. -/
def characters? (item : Meaning) : Option (Bool × List Char) :=
  match item.text?, item.bytes? with
  | some text, _ => some (false, text.toList)
  | none, some bytes => some (true, bytes.map ofByte)
  | none, none => none

/-- Characters as a text or as bytes. -/
def wrap (isBytes : Bool) (text : List Char) : Meaning :=
  if isBytes then .constant (.bytes (text.map toByte)) else .constant (.text (String.ofList text))

/-- The characters of something of the same kind. -/
def same (isBytes : Bool) (item : Meaning) : Except Failure (List Char) :=
  match characters? item with
  | some (kind, text) => if kind = isBytes then .ok text else Arguments.refused
  | none => Arguments.refused

/-- The characters to search for; in bytes also a single one by its number. -/
def sought (isBytes : Bool) (item : Meaning) : Except Failure (List Char) :=
  match isBytes, item.integer? with
  | true, some i =>
    if 0 ≤ i && i < 256 then .ok [ofByte (UInt8.ofNat i.toNat)]
    else .error (.valueBreach "byte must be in range(0, 256)")
  | _, _ => same isBytes item

/-- Whether a character is blank. -/
def isBlankIn (isBytes : Bool) (c : Char) : Bool :=
  if isBytes then c = ' ' || ('\t' ≤ c && c ≤ '\r') else isBlank c

/-- Whether a character ends a line. -/
def endsLineIn (isBytes : Bool) (c : Char) : Bool :=
  if isBytes then c = '\n' || c = '\r' else isLineEnd c

/-- A bound of the part of a text in which something is searched. -/
def bound (length : Nat) (standard : Nat) : Option Meaning → Except Failure Int
  | none => .ok standard
  | some item => do
    match ← boundOf item with
    | none => return standard
    | some i => return if i < 0 then max 0 (i + length) else i

/-- The part of a text in which something is searched, with its start; `none` when it starts behind
its end. -/
def region (text : List Char) (bounds : List Meaning) :
    Except Failure (Option (Nat × List Char)) := do
  let start ← bound text.length 0 bounds.head?
  let stop ← bound text.length text.length bounds.tail.head?
  let stop := min stop text.length
  if 2 < bounds.length then Arguments.refused
  if stop < start then return none
  return some (start.toNat, (text.take stop.toNat).drop start.toNat)

/-- The place of a part in a text. -/
def place (isBytes fromEnd : Bool) (text : List Char) :
    List Meaning → Except Failure (Option Nat)
  | [] => Arguments.refused
  | part :: bounds => do
    let part ← sought isBytes part
    match ← region text bounds with
    | none => return none
    | some (start, inside) =>
      let found := if fromEnd then lastPlace? part inside else place? part inside
      return found.map (start + ·)

/-- How often a part occurs in a text. -/
def count (isBytes : Bool) (text : List Char) : List Meaning → Except Failure Nat
  | [] => Arguments.refused
  | part :: bounds => do
    let part ← sought isBytes part
    return ((← region text bounds).map fun (_, inside) => occurrences part inside).getD 0

/-- Whether a text starts or ends with a part, or with one of several. -/
def borders (isBytes atEnd : Bool) (text : List Char) : List Meaning → Except Failure Bool
  | [] => Arguments.refused
  | part :: bounds => do
    let parts ←
      match part with
      | .tuple items => items.mapM (same isBytes)
      | item => (same isBytes item).map fun part => [part]
    match ← region text bounds with
    | none => return false
    | some (_, inside) =>
      return parts.any fun part =>
        if atEnd then part.isSuffixOf inside else part.isPrefixOf inside

/-- A limit: a negative one stands for none. -/
def limitOf (item : Option Meaning) : Except Failure (Option Nat) := do
  let i ← Arguments.integerOr (-1) item
  return if i < 0 then none else some i.toNat

/-- A text cut into pieces. -/
def split (isBytes fromEnd : Bool) (text : List Char) (given : Arguments) :
    Except Failure Meaning := do
  let given ← given.byName ["sep", "maxsplit"]
  let limit ← limitOf (given.lookup "maxsplit")
  let parts ←
    match given.lookup "sep" with
    | none | some (.constant .none) =>
      pure ((if fromEnd then wordsFromEnd else words) (isBlankIn isBytes) limit text)
    | some separator => do
      let separator ← same isBytes separator
      if separator.isEmpty then throw (.valueBreach "empty separator")
      pure ((if fromEnd then piecesFromEnd else pieces) separator limit text)
  return .list (parts.map (wrap isBytes))

/-- A text cut in three at a separator. -/
def partition (isBytes fromEnd : Bool) (text : List Char) :
    List Meaning → Except Failure Meaning
  | [separator] => do
    let separator ← same isBytes separator
    if separator.isEmpty then throw (.valueBreach "empty separator")
    let found := if fromEnd then lastPlace? separator text else place? separator text
    let parts :=
      match found with
      | some i => [text.take i, separator, text.drop (i + separator.length)]
      | none => if fromEnd then [[], [], text] else [text, [], []]
    return .tuple (parts.map (wrap isBytes))
  | _ => Arguments.refused

/-- A text without some characters at its ends. -/
def stripped (isBytes left right : Bool) (text : List Char) :
    List Meaning → Except Failure (List Char)
  | [] => .ok (cut (isBlankIn isBytes) text)
  | [.constant .none] => .ok (cut (isBlankIn isBytes) text)
  | [skipped] => do
    let skipped ← same isBytes skipped
    return cut (fun c => skipped.contains c) text
  | _ => Arguments.refused
where
  /-- A text without the characters of a class at its ends. -/
  cut (skip : Char → Bool) (text : List Char) : List Char :=
    let text := if left then text.dropWhile skip else text
    if right then (text.reverse.dropWhile skip).reverse else text

/-- A text in a field: its width, and the character that fills it up. -/
def field (isBytes : Bool) (name : String) (text : List Char) :
    List Meaning → Except Failure (List Char)
  | width :: filling => do
    let width ← Arguments.sized width
    let filler ←
      match filling with
      | [] => pure ' '
      | [item] => do
        match ← same isBytes item with
        | [c] => pure c
        | _ => Arguments.refused
      | _ => Arguments.refused
    Template.requireRoom width
    let width := width.toNat
    let room := List.replicate (width - text.length) filler
    return if name = "center" then centered width filler text
      else if name = "ljust" then text ++ room
      else room ++ text
  | _ => Arguments.refused

/-- What a character becomes by a table that goes by the numbers of characters. -/
def translated (entries : List (Meaning × Meaning)) (c : Char) : Except Failure (List Char) :=
  match Meaning.lookup? (Meaning.int c.toNat) entries with
  | none => .ok [c]
  | some (.constant .none) => .ok []
  | some item =>
    match item.text?, item.integer? with
    | some text, _ => .ok text.toList
    | none, some i =>
      if 0 ≤ i && i < 0x110000 then .ok [Char.ofNat i.toNat]
      else .error (.valueBreach "character mapping must be in range(0x110000)")
    | none, none => Arguments.refused

/-- A table for the characters of a text. -/
def table : List Meaning → Except Failure Meaning
  | [.map entries] => do
    let entries ← entries.mapM fun (key, value) =>
      match key.text?, key.integer? with
      | some text, _ =>
        match text.toList with
        | [c] => .ok (Meaning.int c.toNat, value)
        | _ => .error (.valueBreach "string keys in translate table must be of length 1")
      | none, some i => .ok (Meaning.int i, value)
      | none, none => Arguments.refused
    return .map (Meaning.keyedOnce entries)
  | old :: new :: dropped => do
    let old := (← Arguments.textual old).toList
    let new := (← Arguments.textual new).toList
    if old.length ≠ new.length then throw (.valueBreach "the arguments must have equal length")
    let dropped ←
      match dropped with
      | [] => pure []
      | [item] => (Arguments.textual item).map String.toList
      | _ => Arguments.refused
    let entries := (old.zip new).map fun (a, b) => (Meaning.int a.toNat, Meaning.int b.toNat)
    return .map (Meaning.keyedOnce
      (entries ++ dropped.map fun c => (Meaning.int c.toNat, Meaning.nothing)))
  | _ => Arguments.refused

/-- A text as bytes, or bytes as a text. -/
def recoded (isBytes : Bool) (item : Meaning) (given : Arguments) : Except Failure Meaning := do
  let given ← given.byName ["encoding", "errors"]
  Conversion.requireNames (given.map fun entry => (entry.1, entry.2.toValue))
  let isEmpty := item.bytes? matches some []
  let name := if isEmpty then none else given.lookup "encoding"
  let coding ← (name.map fun name => Conversion.coding name.toValue).getD (.ok .utf8)
  let errors ← ((given.lookup "errors").map fun name =>
    Conversion.codingErrors name.toValue).getD (.ok .strict)
  match isBytes, item.text?, item.bytes? with
  | false, some text, _ => return .constant (.bytes (← coding.encode errors text))
  | true, _, some bytes => return .constant (.text (← coding.decode errors bytes))
  | _, _, _ => Arguments.refused

/-- Bytes that give for every byte what it becomes. -/
def byteTable : List Meaning → Except Failure Meaning
  | [old, new] =>
    match old.bytes?, new.bytes? with
    | some old, some new =>
      if old.length ≠ new.length then
        .error (.valueBreach "maketrans arguments must have same length")
      else
        let all := (List.range 256).map UInt8.ofNat
        .ok (.constant (.bytes (all.map fun byte =>
          (((old.zip new).reverse.lookup byte)).getD byte)))
    | _, _ => Arguments.refused
  | _ => Arguments.refused

/-- Bytes translated by a table, without some of them. -/
def translatedBytes (text : List Char) (table : Meaning) (dropped : List UInt8) :
    Except Failure (List Char) :=
  let kept := (text.map toByte).filter fun byte => !dropped.contains byte
  match table, table.bytes? with
  | .constant .none, _ => .ok (kept.map ofByte)
  | _, some table =>
    if table.length ≠ 256 then .error (.valueBreach "translation table must be 256 characters long")
    else .ok (kept.map fun byte => ofByte (table[byte.toNat]?.getD byte))
  | _, none => Arguments.refused

/-- The classes of characters a text may be asked about, and whether it has to hold some. -/
def classOf? (name : String) : Option ((Char → Bool) × Bool) :=
  match name with
  | "isalpha" => some (isLetter, true)
  | "isalnum" => some (fun c => isLetter c || isNumeric c, true)
  | "isdecimal" => some (isDecimal, true)
  | "isdigit" => some (isDigit, true)
  | "isnumeric" => some (isNumeric, true)
  | "isprintable" => some (isPrintable, false)
  | _ => none

/-- A byte as a character that has a class and a case only if it is one of ASCII: any other is one for
private use. -/
def asPlain (c : Char) : Char :=
  if c.toNat < 0x80 then c else Char.ofNat (0xE000 + c.toNat)

/-- A byte as the character that it stands for. -/
def ofPlain (c : Char) : Char :=
  if c.toNat < 0xE000 then c else Char.ofNat (c.toNat - 0xE000)

/-- What a question about the characters of a text is answered with; `none` for other methods. -/
def asked? (isBytes : Bool) (name : String) (text : List Char) : Option Bool :=
  let plain := if isBytes then text.map asPlain else text
  match classOf? name, name with
  | some (holds, some'), _ => some (plain.all holds && (!some' || !text.isEmpty))
  | none, "isspace" => some (text.all (isBlankIn isBytes) && !text.isEmpty)
  | none, "isascii" => some (text.all fun c => c.toNat < 0x80)
  | none, "islower" =>
    some (plain.any isLowerCase && !plain.any fun c => isUpperCase c || isTitleCase c)
  | none, "isupper" =>
    some (plain.any isUpperCase && !plain.any fun c => isLowerCase c || isTitleCase c)
  | none, "istitle" => some (plain.any isCased && isTitled false plain)
  | none, "isidentifier" => some (Names.isName text)
  | none, _ => none

/-- A text in another case; `none` for other methods. -/
def recased? (name : String) (text : List Char) : Option (List Char) :=
  match name with
  | "upper" => some (text.flatMap upperForms)
  | "lower" => some (lower text)
  | "casefold" => some (text.flatMap foldForms)
  | "title" => some (titled text)
  | "capitalize" => some (capitalized text)
  | "swapcase" => some (swapped text)
  | _ => none

/-- A text or the characters of bytes in another case; `none` for other methods. -/
def recasedIn? (isBytes : Bool) (name : String) (text : List Char) : Option (List Char) :=
  if isBytes then (recased? name (text.map asPlain)).map fun done => done.map ofPlain
  else recased? name text

/-- What a method of a text or of bytes gives, when it is given arguments by position. -/
def positional (isBytes : Bool) (text : List Char) (name : String) (given : List Meaning) :
    Except Failure Meaning :=
  let wrapped := wrap isBytes
  let found (place : Option Nat) : Int := (place.map fun (i : Nat) => (i : Int)).getD (-1)
  let required (place : Option Nat) : Except Failure Meaning :=
    match place with
    | some i => .ok (Meaning.int i)
    | none => .error (.valueBreach "substring not found")
  match name, given with
  | "find", given => do return Meaning.int (found (← place isBytes false text given))
  | "rfind", given => do return Meaning.int (found (← place isBytes true text given))
  | "index", given => do required (← place isBytes false text given)
  | "rindex", given => do required (← place isBytes true text given)
  | "count", given => do return Meaning.int (← count isBytes text given)
  | "startswith", given => do return Meaning.bool (← borders isBytes false text given)
  | "endswith", given => do return Meaning.bool (← borders isBytes true text given)
  | "join", [items] => do
    let parts ← (← items.core.heldItems).mapM (same isBytes)
    return wrapped (joined text parts)
  | "partition", given => partition isBytes false text given
  | "rpartition", given => partition isBytes true text given
  | "strip", given => do return wrapped (← stripped isBytes true true text given)
  | "lstrip", given => do return wrapped (← stripped isBytes true false text given)
  | "rstrip", given => do return wrapped (← stripped isBytes false true text given)
  | "center", given => do return wrapped (← field isBytes name text given)
  | "ljust", given => do return wrapped (← field isBytes name text given)
  | "rjust", given => do return wrapped (← field isBytes name text given)
  | "zfill", [width] => do
    let width ← Arguments.sized width
    Template.requireRoom width
    return wrapped (zeroFilled width.toNat text)
  | "removeprefix", [part] => do
    let part ← same isBytes part
    return wrapped (if part.isPrefixOf text then text.drop part.length else text)
  | "removesuffix", [part] => do
    let part ← same isBytes part
    return wrapped
      (if part.isSuffixOf text then text.take (text.length - part.length) else text)
  | "replace", old :: new :: limit => do
    if 1 < limit.length then Arguments.refused
    let limit ← limitOf limit.head?
    return wrapped (replaced (← same isBytes old) (← same isBytes new) limit text)
  | "translate", [.map entries] => do
    if isBytes then Arguments.refused
    return wrapped (← text.mapM (translated entries)).flatten
  | "translate", [table] => do
    if isBytes then return wrapped (← translatedBytes text table []) else Arguments.refused
  | "translate", [table, dropped] => do
    match isBytes, dropped.bytes? with
    | true, some dropped => return wrapped (← translatedBytes text table dropped)
    | _, _ => Arguments.refused
  | name, [] =>
    match asked? isBytes name text, recasedIn? isBytes name text with
    | some holds, _ => .ok (Meaning.bool holds)
    | none, some text => .ok (wrapped text)
    | none, none => Arguments.refused
  | _, _ => Arguments.refused

/-- The pairs of digits of bytes in groups of a size, counted from the end or from the start. -/
def grouped (separator : String) (size : Int) (pairs : List String) : String :=
  let n := size.natAbs
  if n = 0 then String.join pairs
  else
    let first := if 0 < size then pairs.length % n else 0
    let groups := (List.range (pairs.length / n + 1)).map fun i =>
      String.join ((pairs.drop (first + i * n)).take n)
    let all := (String.join (pairs.take first) :: groups).filter fun group => !group.isEmpty
    String.intercalate separator all

/-- Bytes in pairs of hexadecimal digits, with a separator between groups of them if there is one. -/
def inHex (text : List Char) (given : Arguments) : Except Failure Meaning := do
  let given ← given.byName ["sep", "bytes_per_sep"]
  let size ← Arguments.integerOr 1 (given.lookup "bytes_per_sep")
  let separator ←
    match given.lookup "sep" with
    | none => pure ""
    | some item =>
      match characters? item with
      | some (_, [c]) =>
        if c.toNat < 0x80 then pure (String.ofList [c])
        else throw (.valueBreach "sep must be ASCII.")
      | some _ => throw (.valueBreach "sep must be length 1.")
      | none => Meaning.misuse "sep must be str or bytes."
  let pairs := text.map fun c => String.ofList (hexDigits 2 (toByte c).toNat)
  return Meaning.text (grouped separator (if (given.lookup "sep").isSome then size else 0) pairs)

/-- What a method of a text or of bytes gives. -/
def call (item : Meaning) (isBytes : Bool) (text : List Char) (name : String)
    (given : Arguments) : Except Failure Meaning := do
  match name with
  | "split" => split isBytes false text given
  | "rsplit" => split isBytes true text given
  | "splitlines" =>
    let given ← given.byName ["keepends"]
    let keep ← Arguments.integerOr 0 (given.lookup "keepends")
    return .list ((linesBy (endsLineIn isBytes) (keep ≠ 0) [] text).map (wrap isBytes))
  | "expandtabs" =>
    let given ← given.byName ["tabsize"]
    let size ← Arguments.integerOr 8 (given.lookup "tabsize")
    Template.requireRoom size
    return wrap isBytes (untabbed size.toNat 0 text)
  | "encode" => recoded isBytes item given
  | "hex" => inHex text given
  | "decode" => recoded isBytes item given
  | name => positional isBytes text name (← given.unnamed)

end PageContracts.Language.TextMethod
