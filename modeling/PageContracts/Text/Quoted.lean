import PageContracts.Text.Characters

/-! # Quoted text

The form in which messages show a piece of text: between quotes, with everything that would not
be visible escaped.
-/
namespace PageContracts.Quoted

open Characters

/-- The quote put around a text: a single quote, unless the text holds one and no double
quote. -/
def quoteFor (text : List Char) : Char :=
  if text.contains '\'' && !text.contains '"' then '"' else '\''

/-- The escape of a character by its code point, as short as its size allows. -/
def codeEscape (c : Char) : List Char :=
  if c.toNat < 0x100 then '\\' :: 'x' :: hexDigits 2 c.toNat
  else if c.toNat < 0x10000 then '\\' :: 'u' :: hexDigits 4 c.toNat
  else '\\' :: 'U' :: hexDigits 8 c.toNat

/-- How one character appears between the given quotes; `shown` tells which characters may
appear as themselves. -/
def escapeChar (shown : Char → Bool) (quote c : Char) : List Char :=
  if c = quote ∨ c = '\\' then ['\\', c]
  else if c = '\n' then ['\\', 'n']
  else if c = '\r' then ['\\', 'r']
  else if c = '\t' then ['\\', 't']
  else if shown c then [c]
  else codeEscape c

/-- A text between quotes, with the characters outside `shown` escaped. -/
def quotedBy (shown : Char → Bool) (text : String) : String :=
  let quote := quoteFor text.toList
  String.ofList (quote :: text.toList.flatMap (escapeChar shown quote) ++ [quote])

/-- A text as messages show it. -/
def quoted (text : String) : String :=
  quotedBy isPrintable text

/-- A text as messages restricted to ASCII show it. -/
def quotedAscii (text : String) : String :=
  quotedBy (fun c => c.toNat < 0x7F && isPrintable c) text

/-- A text with everything outside ASCII escaped. -/
def asciiOnly (text : String) : String :=
  String.ofList (text.toList.flatMap fun c => if c.toNat < 0x80 then [c] else codeEscape c)

/-- Bytes as messages show them: printable ASCII as itself, any other byte by its number. -/
def quotedBytes (bytes : List UInt8) : String :=
  let text := bytes.map fun byte => Char.ofNat byte.toNat
  let quote := quoteFor text
  let shown (c : Char) : Bool := 0x20 ≤ c.toNat && c.toNat < 0x7F
  String.ofList ('b' :: quote :: text.flatMap (escapeChar shown quote) ++ [quote])

/-- Bytes that may change as messages show them: a single quote in them is escaped whatever quotes stand
around them. -/
def quotedChanging (bytes : List UInt8) : String :=
  let text := bytes.map fun byte => Char.ofNat byte.toNat
  let quote := quoteFor text
  let shown (c : Char) : Bool := 0x20 ≤ c.toNat && c.toNat < 0x7F
  let escaped (c : Char) : List Char :=
    if c = '"' then [c] else escapeChar shown '\'' c
  String.ofList ('b' :: quote :: text.flatMap escaped ++ [quote])

/-- Several texts as a bracketed list. -/
def quotedList (texts : List String) : String :=
  "[" ++ String.intercalate ", " (texts.map quoted) ++ "]"

/-- Several texts as a parenthesised row; a row of one keeps its comma. -/
def quotedRow : List String → String
  | [text] => "(" ++ quoted text ++ ",)"
  | texts => "(" ++ String.intercalate ", " (texts.map quoted) ++ ")"

end PageContracts.Quoted
