import PageContracts.Text.Characters

/-! # Reading positions

A place in the text of a settings document, with the line and column that indentation is measured
by, and the classes of characters that end words and lines.
-/
namespace PageContracts.Document

/-- Whether a character ends a line. -/
def isBreak (c : Char) : Bool :=
  c = '\n' || c.toNat = 0x85 || c.toNat = 0x2028 || c.toNat = 0x2029

/-- Whether a character is a space or a tab. -/
def isSpace (c : Char) : Bool :=
  c = ' ' || c = '\t'

/-- Whether a word ends here: at a space, a line end or the end of the text. -/
def endsWord : Option Char → Bool
  | none => true
  | some c => isSpace c || isBreak c

/-- Whether a line ends here, be it with the text. -/
def endsLine : Option Char → Bool
  | none => true
  | some c => isBreak c

/-- Whether a plain word that allows no tab in it ends here. -/
def endsIndicator : Option Char → Bool
  | none => true
  | some c => c = ' ' || isBreak c

/-- Whether a character may stand in the name of an anchor, a directive or a tag handle. -/
def isNameChar (c : Char) : Bool :=
  Characters.isAsciiLetter c || Characters.isAsciiDigit c || c = '-' || c = '_'

/-- Whether a document may hold a character at all. -/
def isAllowed (c : Char) : Bool :=
  let n := c.toNat
  n = 0x09 || n = 0x0A || n = 0x0D || (0x20 ≤ n && n ≤ 0x7E) || n = 0x85 ||
    (0xA0 ≤ n && n ≤ 0xD7FF) || (0xE000 ≤ n && n ≤ 0xFFFD) || 0x10000 ≤ n

/-- A place in a text: what lies ahead, the size of the whole text, how many characters lie
behind, and the line and column counted from zero. -/
structure Cursor where
  rest : List Char
  size : Nat
  index : Nat := 0
  line : Nat := 0
  column : Nat := 0
  deriving DecidableEq, Repr, Inhabited

namespace Cursor

/-- The start of a text. -/
def start (text : List Char) : Cursor :=
  { rest := text, size := text.length }

/-- The number of characters ahead. -/
def ahead (cursor : Cursor) : Nat :=
  cursor.size - cursor.index

/-- The character some places ahead. -/
def peek (cursor : Cursor) (ahead : Nat) : Option Char :=
  cursor.rest[ahead]?

/-- Whether a given character is next. -/
def atChar (cursor : Cursor) (c : Char) : Bool :=
  cursor.rest.head? = some c

/-- The place one character further; a byte order mark takes no column. -/
def next (cursor : Cursor) : Cursor :=
  match cursor.rest with
  | [] => cursor
  | c :: rest =>
    if isBreak c then
      { cursor with rest, index := cursor.index + 1, line := cursor.line + 1, column := 0 }
    else
      { cursor with
        rest, index := cursor.index + 1
        column := if c.toNat = 0xFEFF then cursor.column else cursor.column + 1 }

/-- The place some characters further. -/
def forward (cursor : Cursor) : Nat → Cursor
  | 0 => cursor
  | count + 1 => cursor.next.forward count

/-- The place behind the characters ahead that belong to a class. -/
def skipWhile (cursor : Cursor) (p : Char → Bool) : Cursor :=
  cursor.forward (cursor.rest.takeWhile p).length

/-- Whether a marker of three equal characters stands here as a word of its own. -/
def atMarker (cursor : Cursor) (c : Char) : Bool :=
  cursor.rest.take 3 = [c, c, c] && endsWord (cursor.peek 3)

/-- Whether a marker stands here that separates documents. -/
def atSeparator (cursor : Cursor) : Bool :=
  cursor.atMarker '-' || cursor.atMarker '.'

end Cursor

/-- The text a line end stands for. -/
def breakText (c : Char) : Char :=
  if c.toNat = 0x85 then '\n' else c

end PageContracts.Document
