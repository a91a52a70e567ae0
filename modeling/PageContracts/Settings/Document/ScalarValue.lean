import PageContracts.Number.Reading
import PageContracts.Settings.Document.ByteText
import PageContracts.Settings.Document.Defect
import PageContracts.Settings.Document.NodeTag
import PageContracts.Value

/-! # The values of scalars

What the texts in a settings document are made into, each by its tag.
-/
namespace PageContracts.Document.ScalarValue

/-- The sign and the other characters of a number, without its underscores; there must have been
one character at least. -/
def splitNumber (text : String) : Except Defect (Bool × List Char) :=
  match text.toList.filter (· ≠ '_') with
  | [] => .error .emptyNumber
  | digits => .ok (Reading.splitSign digits)

/-- A number that may turn out to be unreadable. -/
def readable {α : Type} : Option α → Except Defect α
  | some number => .ok number
  | none => .error .unreadable

/-- The integer that its characters behind the sign spell: behind a zero it is in base two, sixteen
or eight, and colons part groups of sixty. -/
def unsignedInteger (digits : List Char) : Except Defect Int :=
  match digits with
  | [] => .error .emptyNumber
  | ['0'] => .ok 0
  | '0' :: 'b' :: rest => readable (Reading.integerIn? 2 rest)
  | '0' :: 'x' :: rest => readable (Reading.integerIn? 16 rest)
  | '0' :: _ => readable (Reading.integerIn? 8 digits)
  | _ =>
    let groups := (Characters.splitOn ':' digits).map String.ofList
    readable ((groups.mapM Reading.integer?).map fun values =>
      values.foldl (fun sum value => 60 * sum + value) 0)

/-- The integer a text spells. -/
def integer (text : String) : Except Defect Value := do
  let (negative, digits) ← splitNumber text
  let number ← unsignedInteger digits
  return .int (if negative then -number else number)

/-- The sum of groups of sixty, the least one first. Each is multiplied by its power of sixty and
added on its own, and no power may be beyond all doubles. -/
def sumSixties : List Binary64 → Nat → Binary64 → Except Defect Binary64
  | [], _, sum => .ok sum
  | group :: rest, power, sum =>
    match Binary64.ofInt? power with
    | none => .error .tooLarge
    | some factor => sumSixties rest (60 * power) (sum.add (group.mul factor))

/-- Whether a text spells the one value that is no number. Other texts that spell no number spell
a new one each time. -/
def isNotANumber (text : String) : Bool :=
  match splitNumber text with
  | .ok (_, digits) => digits.map Characters.asciiLower = ".nan".toList
  | .error _ => false

/-- The number that its characters behind the sign spell. -/
def unsignedDouble (digits : List Char) : Except Defect Binary64 :=
  if digits = ".inf".toList then .ok (.infinity false)
  else if digits = ".nan".toList then .ok .nan
  else if digits.contains ':' then do
    let groups := (Characters.splitOn ':' digits).map String.ofList
    let values ← readable (groups.mapM Reading.double?)
    sumSixties values.reverse 1 (.zero false)
  else readable (Reading.double? (String.ofList digits))

/-- The number a text spells. -/
def double (text : String) : Except Defect Value := do
  let (negative, digits) ← splitNumber text
  let number ← unsignedDouble (digits.map Characters.asciiLower)
  return .float (number.signed negative)

/-- The truth value a text spells, in any case. -/
def truth (text : String) : Except Defect Value :=
  let lower := Characters.lowerAscii text
  if ["yes", "true", "on"].contains lower then .ok (.bool true)
  else if ["no", "false", "off"].contains lower then .ok (.bool false)
  else .error .unknownTruth

/-- The bytes a text spells. -/
def bytes (text : String) : Except Defect Value :=
  match ByteText.read? text.toList with
  | some bytes => .ok (.bytes bytes)
  | none => .error .malformed

/-- The date or moment a text spells. -/
def moment (text : String) : Except Defect Value :=
  match MomentText.read? text.toList with
  | none => .error .unknownMoment
  | some parts =>
    match parts.time with
    | none => if parts.date.isReal then .ok (.date parts.date) else .error .unreadable
    | some time =>
      let moment := MomentText.moment parts.date time
      if moment.isReal then .ok (.moment moment) else .error .unreadable

/-- The value of a text under a tag. -/
def ofText (tag : NodeTag) (text : String) : Except Defect Value :=
  match tag with
  | .nothing => .ok .none
  | .truth => truth text
  | .integer => integer text
  | .double => double text
  | .text => .ok (.text text)
  | .bytes => bytes text
  | .moment => moment text
  | _ => .error .malformed

end PageContracts.Document.ScalarValue
