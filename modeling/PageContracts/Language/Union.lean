import PageContracts.Language.Meaning

/-! # Choices between types

Types joined by the sign for one or the other, and types made optional. What stands in the place of
a type is read first when it is a text.
-/
namespace PageContracts.Language.Meaning

/-- The members of a union or choice in the place of itself. -/
def flattened : Meaning → List Meaning
  | .union members => members
  | .choice members => members
  | .type (.optional of) => [.type of, nothingType]
  | item => [item]

/-- The expression a text spells where a type is wanted; a star in front of it takes the first item
of something. -/
def expressionOf (text : String) : Except Failure Expression :=
  match text.toList with
  | [] => .error (.breach .outOfBounds "string index out of range")
  | first :: _ =>
    let spelled := if first = '*' then "(" ++ text ++ ",)[0]" else text
    if spelled.toList.contains '\x00' then
      .error (.valueBreach "source code string cannot contain null bytes")
    else
      match Expression.ofText? spelled with
      | some expression => .ok expression
      | none => .error (.breach .malformed "Forward reference must be an expression")

/-- A meaning in the place of a type: a text is read, nothing stands for its type, and what can be
no type is refused. -/
def asType (item : Meaning) : Except Failure Meaning :=
  match item with
  | .constant .none => .ok nothingType
  | .former _ => misuse "Plain form is not valid as type argument"
  | .tuple _ => misuse "Forward references must evaluate to types."
  | item =>
    match item.text? with
    | some text => (expressionOf text).map (.later text)
    | none => .ok item

/-- One of several types. -/
def choose (items : List Meaning) : Except Failure Meaning := do
  let items := (← items.mapM asType).flatMap flattened
  if !areHashable items then misuse "unhashable type"
  match distinct items with
  | [only] => return only
  | members => return .choice members

/-- Whether a meaning may be joined with others by a sign. -/
def joins : Meaning → Bool
  | .type (.optional _) => false
  | .type _ => true
  | .constant .none => true
  | .generic .. => true
  | .union _ => true
  | _ => false

/-- Whether joining a meaning with others makes a choice. -/
def isChoosing : Meaning → Bool
  | .choice _ => true
  | .type (.optional _) => true
  | .former _ => true
  | .later .. => true
  | _ => false

/-- Two meanings joined by the sign for one or the other. -/
def join (left right : Meaning) : Except Failure Meaning :=
  if left.isChoosing || right.isChoosing then choose [left, right]
  else if left.joins && right.joins then
    match left, right with
    | .constant _, .constant _ => misuse "unsupported operand type(s) for |"
    | _, _ =>
      let typed (item : Meaning) : Meaning :=
        match item with
        | .constant _ => nothingType
        | other => other
      match distinct ((typed left).flattened ++ (typed right).flattened) with
      | [only] => .ok only
      | members => .ok (.union members)
  else misuse "unsupported operand type(s) for |"

/-- The types of the language that can be followed by others in brackets. -/
def genericNames : List String :=
  ["BaseExceptionGroup", "ExceptionGroup", "dict", "enumerate", "frozenset", "list", "set",
    "mappingproxy", "tuple", "type"]

/-- A type followed by others in brackets. -/
def applied (origin : TypeRef) (index : Meaning) : Meaning :=
  match index with
  | .tuple items => .generic origin items
  | item => .generic origin [item]

end PageContracts.Language.Meaning
