import PageContracts.Contract.Definition
import PageContracts.Language.Members

/-! # Models

Classes with annotated fields. Making a class a record type settles which fields it has, in which
order and with which defaults; marking it a model does so too, unless it is a record type already.
-/
namespace PageContracts
namespace ClassTable

/-- The names under which every class has something without declaring it; its kind is all that
is known of most of it. -/
def innateNames : List (String × String) :=
  [("__annotations__", "dict"), ("__dict__", "mappingproxy"), ("__base__", "type"),
    ("__bases__", "tuple"), ("__class__", "type"), ("__mro__", "tuple"), ("mro", "method")] ++
  ["__basicsize__", "__dictoffset__", "__flags__", "__itemsize__", "__weakrefoffset__"].map
    (fun name => (name, "int")) ++
  ["__call__", "__delattr__", "__dir__", "__eq__", "__format__", "__ge__", "__getattribute__",
    "__getstate__", "__gt__", "__hash__", "__init__", "__init_subclass__", "__instancecheck__",
    "__le__", "__lt__", "__ne__", "__new__", "__or__", "__prepare__", "__reduce__",
    "__reduce_ex__", "__repr__", "__ror__", "__setattr__", "__sizeof__", "__str__",
    "__subclasscheck__", "__subclasses__", "__subclasshook__", "__weakref__"].map
    (fun name => (name, "method"))

/-- What every class has under a name without declaring it. -/
def innate? (ref : ClassRef) (name : String) : Option Value :=
  if name = "__name__" then some (.text ref.name)
  else if name = "__qualname__" then some (.text ref.qualified)
  else if name = "__doc__" || name = "__text_signature__" then some .none
  else if name = "__module__" then some (.text ref.place)
  else (innateNames.lookup name).map fun kind =>
    match Language.member? Language.commonType name with
    | some (owner, found) => .other found.typeName (Language.shownMember owner name found)
    | none => .other kind name

/-- What a class has under a name from a type of the language it descends from. -/
def descended? (table : ClassTable) (type : TypeRef) (name : String) : Option Value :=
  match table.coreType? type with
  | some (.builtin core) =>
    (Language.member? core name).bind fun (owner, kind) =>
      if owner = Language.commonType then none
      else some (.other kind.typeName (Language.shownMember owner name kind))
  | _ => none

/-- Whether a member stands for a name that is reserved for instances. -/
def reserves (found : Member) : Bool :=
  match found with
  | .constant (.other kind _ _) => kind = ClassBody.reservedKind
  | _ => false

/-- The names under which every class tells something of itself, whatever it declares under them. -/
def settledNames : List String :=
  ClassBody.fixedNames ++ ["__bases__", "__class__", "__name__", ClassBody.qualifiedMember]

/-- Whatever a class has under a name, unless that only stands for a reserved name. Instances that are
no keys have nothing in the place of what makes keys. -/
def standing (table : ClassTable) (ref : ClassRef) (name : String) :
    Except Failure (Option Value) :=
  let type : TypeRef := .defined ref
  let declared := if settledNames.contains name then none else table.member? type name
  match declared with
  | some found => if reserves found then .ok none else (table.taken found).map some
  | none =>
    if name = "__hash__" && !table.instancesHash type then .ok (some .none)
    else .ok ((table.descended? type name).or (innate? ref name))

/-- A field list with one field set; a name that is there keeps its place. -/
def setField (field : Field) : List Field → List Field
  | [] => [field]
  | first :: rest =>
    if first.name = field.name then field :: rest else first :: setField field rest

/-- The fields a class inherits, the farthest ancestor's first. An ancestor may have nothing in the
place of the list of its fields. -/
def inheritedFields (table : ClassTable) (info : ClassInfo) : Except Failure (List Field) :=
  info.ancestry.tail.reverse.foldlM (fun fields type => do
    match table.fieldListing? type with
    | none | some (.inr (.constant .none)) => return fields
    | some _ => do
      let own ← table.fieldsOf type
      table.requireSettings type
      return (own.getD []).foldl (fun all f => setField f all) fields) []

/-- Whether no field without a default follows one that has a default. -/
def defaultsLast : List Field → Bool
  | [] => true
  | field :: rest =>
    (field.default.isNone || rest.all fun later => later.default.isSome) && defaultsLast rest

/-- The description that a record type gets unless it has one: its name and its fields, as they are
given when an instance is made. -/
def describeFields (name : String) (fields : List Field) : String :=
  name ++ "(" ++ String.intercalate ", " (fields.map fun field =>
    field.name ++ ": 'str'" ++
      ((field.default.map fun value => " = " ++ value.quoted).getD "")) ++ ")"

/-- Make a class a record type: its fields are the inherited ones followed by its own. The
fields become parameters, so their names are bound, in their normal form. -/
def withFields (table : ClassTable) (info : ClassInfo) (own : List String) :
    Except Failure ClassInfo := do
  if let some (.constant value) := info.members.lookup ClassBody.moduleMember then
    if !value.hashable then throw (.typeBreach "unhashable type")
  let inherited ← table.inheritedFields info
  let own ← own.mapM fun name => do
    return { name := name, default := ← (table.append info).standing info.ref name : Field }
  if own.any fun field => (field.default.map fun value => !value.hashable).getD false then
    throw (.valueBreach "mutable default")
  let fields := own.foldl (fun all f => setField f all) inherited
  if !defaultsLast fields then throw (.typeBreach "non-default argument follows default argument")
  if fields.any fun field => !Names.isBindable field.name then
    throw (.breach .malformed "invalid syntax")
  if fields.any fun field => !Names.isNormal field.name then
    throw (.typeBreach "unexpected keyword argument")
  let members := info.members.filter fun entry =>
    entry.1 ≠ fieldsMember && entry.1 ≠ settingsMember
  let followsUp := ((table.append info).member? (.defined info.ref) "__post_init__").isSome
  let described := ((members.lookup descriptionMember).map fun found => found.toValue.truthy) = some true
  let members :=
    if described then members
    else assign descriptionMember (.constant (.text (describeFields info.ref.name fields))) members
  return { info with fields := some fields, followsUp, members }

/-- Define a model: a class with annotated fields. It is made a record type when `isRecord` asks
for it, and also by being marked a model, unless it is one already, be it by inheritance. -/
def defineModel (table : ClassTable) (name : String) (bases : List TypeRef) (own : List Field)
    (isRecord isModel : Bool) : Except Failure ClassTable := do
  let members := own.foldl (fun members field =>
    match field.default with
    | some value => assign field.name (.constant value) members
    | none => members) []
  let own := (own.map Field.name).eraseDups
  let info ← table.draftInfo name bases members
  let info := { info with annotated := own }
  let info ← if isRecord then table.withFields info own else pure info
  let known := (table.append info).isRecordType (.defined info.ref)
  let info ← if isModel && !known then table.withFields info own else pure info
  return table.append
    (if isModel then info.setMember modelMember (.constant (.bool true)) else info)

end ClassTable
end PageContracts
