import PageContracts.Settings.Document.Cursor
import PageContracts.Settings.Document.Defect

/-! # Tokens

The smallest parts of a settings document, and how the ones that hold text are read.
-/
namespace PageContracts.Document

/-- A token. The tokens that open and close blocks are not written; they follow from the
indentation. -/
inductive Token where
  | streamEnd
  /-- A directive that gives the version of the language. -/
  | versionDirective (major : Nat)
  /-- A directive that gives a tag handle its meaning. -/
  | tagDirective (handle meaning : String)
  /-- Any other directive. -/
  | otherDirective
  | documentStart
  | documentEnd
  | blockSequenceStart
  | blockMappingStart
  | blockEnd
  | sequenceStart
  | sequenceEnd
  | mappingStart
  | mappingEnd
  | blockEntry
  | flowEntry
  | key
  | value
  | reference (name : String)
  | anchor (name : String)
  | tag (handle : Option String) (suffix : String)
  | scalar (text : String) (plain : Bool)
  deriving DecidableEq, Repr, Inhabited

/-- Whether a token is a directive. -/
def Token.isDirective : Token → Bool
  | .versionDirective _ => true
  | .tagDirective .. => true
  | .otherDirective => true
  | _ => false

/-- Reading from a cursor, which may fail. -/
abbrev Reader (α : Type) : Type :=
  StateT Cursor (Except Defect) α

namespace Reader

/-- Give up because the text is no document. -/
def fail {α : Type} : Reader α := fun _ => .error .malformed

/-- Go on only if a condition holds. -/
def require (condition : Bool) : Reader Unit :=
  if condition then pure () else fail

/-- The next character, left where it is. -/
def peek : Reader (Option Char) := do
  return (← get).peek 0

/-- Pass over characters. -/
def skip (count : Nat) : Reader Unit :=
  modify fun cursor => cursor.forward count

/-- Read the characters ahead that belong to a class. -/
def takeWhile (p : Char → Bool) : Reader (List Char) := do
  let taken := (← get).rest.takeWhile p
  skip taken.length
  return taken

/-- Pass over the characters ahead that belong to a class. -/
def skipWhile (p : Char → Bool) : Reader Unit := do
  let _ ← takeWhile p

/-- Read a line end, if one is next, as the text it stands for. -/
def lineBreak : Reader (List Char) := do
  match ← peek with
  | some c =>
    if isBreak c then
      skip 1
      return [breakText c]
    else return []
  | none => return []

/-- Pass over what may stand behind an indicator on its line: spaces and a comment. -/
def restOfLine : Reader Unit := do
  skipWhile (· = ' ')
  if (← get).atChar '#' then skipWhile fun c => !isBreak c
  require (endsLine (← peek))
  let _ ← lineBreak

/-- Read a name, which must not be empty. -/
def name : Reader String := do
  let taken ← takeWhile isNameChar
  require (!taken.isEmpty)
  return String.ofList taken

end Reader

namespace Token

open Reader

/-- Whether a character may stand right behind the name of an anchor. -/
def endsAnchor (c : Option Char) : Bool :=
  endsWord c || (c.map fun c => "?:,]\x7d%@`".toList.contains c).getD false

/-- Read the name of an anchor or of a reference to one, behind its indicator. -/
def anchorName : Reader String := do
  skip 1
  let name ← name
  require (endsAnchor (← peek))
  return name

/-- Whether a character may stand in the text of a tag. -/
def isTagChar (c : Char) : Bool :=
  Characters.isAsciiLetter c || Characters.isAsciiDigit c ||
    "-;/?:@&=+$,_.!~*'()[]%".toList.contains c

/-- The bytes that two hexadecimal digits behind each percent sign stand for, among the
characters they stand between. -/
def unescape : List Char → Option (List UInt8)
  | [] => some []
  | '%' :: high :: low :: rest => do
    let h ← hexDigit? high
    let l ← hexDigit? low
    return UInt8.ofNat (16 * h + l) :: (← unescape rest)
  | '%' :: _ => none
  | c :: rest => do
    return UInt8.ofNat c.toNat :: (← unescape rest)
where
  /-- The value of a hexadecimal digit. -/
  hexDigit? (c : Char) : Option Nat :=
    ("0123456789abcdef".toList).findIdx? (· = Characters.asciiLower c)

/-- Read the text of a tag. -/
def tagText : Reader String := do
  let taken ← takeWhile isTagChar
  require (!taken.isEmpty)
  match (unescape taken).bind fun bytes => String.fromUTF8? ⟨bytes.toArray⟩ with
  | some text => return text
  | none => fail

/-- Read a tag handle: one exclamation mark, or a name between two. -/
def tagHandle : Reader String := do
  require ((← get).atChar '!')
  skip 1
  if (← get).atChar ' ' then return "!"
  let named ← takeWhile isNameChar
  require ((← get).atChar '!')
  skip 1
  return String.ofList ('!' :: named ++ ['!'])

/-- Whether the word ahead holds a second exclamation mark. -/
def hasHandle (cursor : Cursor) : Bool :=
  ((cursor.rest.drop 1).takeWhile fun c => c ≠ ' ' && !isBreak c).contains '!'

/-- Read a tag in angle brackets. -/
def verbatimTag : Reader Token := do
  skip 2
  let suffix ← tagText
  require ((← get).atChar '>')
  skip 1
  return .tag none suffix

/-- Read a tag behind its handle. -/
def shorthandTag : Reader Token := do
  if hasHandle (← get) then
    let handle ← tagHandle
    return .tag (some handle) (← tagText)
  else
    skip 1
    return .tag (some "!") (← tagText)

/-- Read a tag. -/
def readTag : Reader Token := do
  let cursor ← get
  let token ←
    if cursor.peek 1 = some '<' then verbatimTag
    else if endsWord (cursor.peek 1) then do
      skip 1
      pure (.tag none "!")
    else shorthandTag
  require (endsIndicator (← peek))
  return token

/-- Read a decimal number. -/
def number : Reader Nat := do
  let digits ← takeWhile Characters.isAsciiDigit
  require (!digits.isEmpty)
  return digits.foldl (fun n c => 10 * n + (c.toNat - '0'.toNat)) 0

/-- Read the version behind its directive's name. -/
def versionValue : Reader Token := do
  skipWhile (· = ' ')
  let major ← number
  require ((← get).atChar '.')
  skip 1
  let _ ← number
  require (endsIndicator (← peek))
  return .versionDirective major

/-- Read the handle and the meaning behind a tag directive's name. -/
def tagValue : Reader Token := do
  skipWhile (· = ' ')
  let handle ← tagHandle
  require ((← get).atChar ' ')
  skipWhile (· = ' ')
  let meaning ← tagText
  require (endsIndicator (← peek))
  return .tagDirective handle meaning

/-- Read a directive, to the end of its line. -/
def readDirective : Reader Token := do
  skip 1
  let name ← name
  require (endsIndicator (← peek))
  let token ←
    if name = "YAML" then versionValue
    else if name = "TAG" then tagValue
    else do
      skipWhile fun c => !isBreak c
      pure .otherDirective
  restOfLine
  return token

end Token
end PageContracts.Document
