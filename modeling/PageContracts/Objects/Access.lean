import PageContracts.Objects.Creation

/-! # Reaching for attributes

Reading, setting and removing the attributes of an object by name. What the contract answers for
itself can be neither set nor removed, and neither can what every object has.
-/
namespace PageContracts.LiveObject

/-- The text that names an attribute. -/
def attributeName (name : Value) : Except Failure String :=
  match name.core with
  | .text name => .ok name
  | _ => .error (.typeBreach "attribute name must be string")

/-- What an object itself holds under a name, and whether it is a value that tells more than its
kind. -/
def own? (object : LiveObject) (name : String) : Option Value :=
  match name with
  | "session" => shown "DriverSession" object.session
  | "actions" => shown "PrimitiveActions" object.actions
  | "factory" => shown "PanelFactory" object.factory
  | "name" => object.name
  | "logger" => shown "Logger" object.logger
  | "scope_stack" => shown "ScopeStack" object.nesting
  | name => object.attributes.lookup name
where
  /-- What is held as a value. -/
  shown {α : Type} (typeName : String) : Held α → Option Value
    | .proper _ => some (.other typeName typeName)
    | .stray value => some value
    | .gone => none

/-- An object with something else under a name, or with nothing. -/
def withOwn (object : LiveObject) (name : String) (value : Option Value) : LiveObject :=
  match name with
  | "session" => { object with session := held value }
  | "actions" => { object with actions := held value }
  | "factory" => { object with factory := held value }
  | "name" => { object with name := value }
  | "logger" => { object with logger := held value }
  | "scope_stack" => { object with nesting := held value }
  | name =>
    let attributes :=
      match value with
      | some value => PageContracts.assign name value object.attributes
      | none => object.attributes.filter fun entry => entry.1 ≠ name
    { object with attributes }
where
  /-- What is held of a value. -/
  held {α : Type} : Option Value → Held α
    | some value => .stray value
    | none => .gone

/-- An object with no attributes but those of a map. -/
def withAll (object : LiveObject) (entries : List (Value × Value)) : LiveObject :=
  let bare : LiveObject :=
    { implementation := object.implementation, contents := object.contents }
  entries.foldl (fun object entry =>
    match entry.1.core with
    | .text name => object.withOwn name (some entry.2)
    | _ => object) bare

/-- An object with an attribute set. -/
def setAttribute (object : LiveObject) (table : ClassTable) (name value : Value) :
    Except Failure LiveObject := do
  let name ← attributeName name
  if object.leavesToContract name then
    if !(← table.storing (.defined object.contract) name value) then return object
  match name, value.core with
  | "__class__", _ => throw (.typeBreach "__class__ must be set to a class")
  | "__weakref__", _ => throw (.missing name)
  | "__dict__", .map entries => return object.withAll entries
  | "__dict__", _ => throw (.typeBreach "__dict__ must be set to a dictionary")
  | _, _ => return object.withOwn name (some value)

/-- An object with an attribute removed. -/
def removeAttribute (object : LiveObject) (table : ClassTable) (name : Value) :
    Except Failure LiveObject := do
  let name ← attributeName name
  if object.leavesToContract name then
    if !(← table.removing (.defined object.contract) name) then return object
  if name = "__class__" || name = "__dict__" then
    throw (.typeBreach "can't delete attribute")
  if (object.own? name).isNone then throw (.missing name)
  return object.withOwn name none

/-- The value an object has under a name: its own, or what its contract or every object has
there. -/
def readMember (object : LiveObject) (table : ClassTable) (name : Value) :
    Except Failure Value := do
  let name ← attributeName name
  let type : TypeRef := .defined object.contract
  let declared := table.member? type name
  let own := if object.answersFor table name then none else object.own? name
  match own, innate? name with
  | some value, _ => return value
  | none, some value => return value
  | none, none =>
    match declared with
    | some found =>
      if ClassTable.reserves found then throw (.missing name) else table.takenOnInstance found
    | none => throw (.missing name)
where
  /-- What every object has under a name. -/
  innate? (name : String) : Option Value :=
    match name with
    | "__class__" => some (.type (.other (some object.implementation.name) "" true))
    | "__contract__" => some (.type (.defined object.contract))
    | "__doc__" | "__weakref__" => some .none
    | "__module__" => some (.text object.contract.place)
    | _ => none

/-- The value an object has under a name, if only by the last resort of its author. -/
def attributeNow (object : LiveObject) (table : ClassTable) (name : String) : Except Failure Value :=
  match object.readMember table (.text name) with
  | .ok value => .ok value
  | .error failure => if failure.kind = .missingAttribute then object.fallback table name else .error failure

end PageContracts.LiveObject
