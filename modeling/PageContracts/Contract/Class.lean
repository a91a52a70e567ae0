import PageContracts.Language.Types
import PageContracts.Nesting

/-! # Classes

The classes of a program under test: what they declare, what they inherit and in which order.
What makes a class a contract, gives it a scope or an address, or makes it a model are members
like all others, under names of their own; the two markers, the one of top-level screens and the
one of regions inside a screen, hand the first of them down.
-/
namespace PageContracts

/-- How a parameter takes its argument. -/
inductive ParameterKind where
  /-- By position or by name. -/
  | positional
  /-- By position alone. -/
  | positionalOnly
  /-- By name alone. -/
  | keywordOnly
  /-- All surplus arguments given by position. -/
  | surplusPositions
  /-- All surplus arguments given by name. -/
  | surplusNames
  deriving DecidableEq, Repr, Inhabited

/-- A parameter of a declared function. Its type is kept as it is written, because it is given
a meaning only when the contract is read. -/
structure Parameter where
  name : String
  typeText : Option String := none
  kind : ParameterKind := .positional
  default : Option Value := none
  /-- Whether the type goes with the name. A type written under another spelling of the name is
  read, but has no parameter to go to. -/
  typed : Bool := true
  deriving Repr, Inhabited

/-- A declared function, the object it is called on left out. A second name for a function does
not change the name it has of its own. -/
structure DeclaredFunction where
  name : String
  parameters : List Parameter := []
  returns : Option String := none
  locator : Option LocatorDescriptor := none
  deriving Repr, Inhabited

namespace DeclaredFunction

/-- The name of the parameter for the object a function is called on. -/
def receiverName : String := "self"

/-- Whether some of the parameters are given by position alone. -/
def hasPositionalOnly (parameters : List Parameter) : Bool :=
  parameters.any fun parameter => parameter.kind = .positionalOnly

/-- The parameter for the object a function is called on, in front of all others. -/
def receiver (f : DeclaredFunction) : Parameter :=
  { name := receiverName
    kind := if hasPositionalOnly f.parameters then .positionalOnly else .positional }

/-- All parameters of a function. -/
def signature (f : DeclaredFunction) : List Parameter :=
  f.receiver :: f.parameters

end DeclaredFunction

/-- What may stand around a function so that it is no plain function any more. -/
inductive Wrapping where
  | static
  | onClass
  | property
  deriving DecidableEq, Repr, Inhabited

/-- A member of a class. -/
inductive Member where
  | function (f : DeclaredFunction)
  | wrapped (how : Wrapping) (f : DeclaredFunction)
  | constant (value : Value)
  | locator (descriptor : LocatorDescriptor)
  deriving Repr, Inhabited

namespace Member

/-- A member as a value; of functions and locators only the kind can be told. -/
def toValue : Member → Value
  | .constant value => value
  | .function f => .other "function" f.name
  | .wrapped .static f => .other "function" f.name
  | .wrapped .onClass f => .other "method" f.name
  | .wrapped .property f => .other "property" f.name
  | .locator descriptor => .other "LocatorDescriptor" descriptor.display

end Member

/-- A field of a model. -/
structure Field where
  name : String
  default : Option Value := none
  deriving Repr, Inhabited

/-- A class: the name under which the program knows it, its ancestry, itself first, and what it
declares itself. The fields are there once the class has been made a record type; they include
the inherited ones. -/
structure ClassInfo where
  ref : ClassRef
  key : String
  ancestry : List TypeRef
  /-- The types that the class names as those it descends from. -/
  bases : List TypeRef := []
  members : List (String × Member) := []
  fields : Option (List Field) := none
  /-- The names that the class itself annotates. -/
  annotated : List String := []
  /-- Whether the making of an instance ends with the author's function for that, which counts only
  when the class had it on being made a record type. -/
  followsUp : Bool := false
  /-- Whether the class itself has been declared to have no instances. -/
  isAbstract : Bool := false
  deriving Repr, Inhabited

/-- The two capabilities a contract can have. -/
inductive Capability where
  | panel
  | page
  deriving DecidableEq, Repr, Inhabited

namespace Capability

/-- The name of a capability. -/
def label : Capability → String
  | .panel => "panel"
  | .page => "page"

/-- The capability a value names. -/
def ofValue? (value : Value) : Option Capability :=
  [Capability.panel, .page].find? fun capability => value.isText capability.label

/-- The member that tells the capability of a class. -/
def memberName : String := "__capability__"

end Capability

/-- The member that holds the scope of a class. -/
def scopeMember : String := "__scope__"

/-- The member that holds the address of a class. -/
def urlMember : String := "__url__"

/-- The member that marks a model. -/
def modelMember : String := "__panel_model__"

/-- The member that describes a class; every class has one of its own. -/
def descriptionMember : String := "__doc__"

/-- The member that lists the fields of a record type. -/
def fieldsMember : String := "__dataclass_fields__"

/-- The member that tells how a class was made a record type. -/
def settingsMember : String := "__dataclass_params__"

/-- All classes defined so far, each at the place of its number. -/
structure ClassTable where
  classes : List ClassInfo := []
  deriving Repr, Inhabited

/-- A list of named things with one of them set: a name that is there keeps its place. -/
def assign {α : Type} (name : String) (value : α) : List (String × α) → List (String × α)
  | [] => [(name, value)]
  | (key, old) :: rest =>
    if key = name then (name, value) :: rest else (key, old) :: assign name value rest

namespace ClassInfo

/-- A class with one of its members set. -/
def setMember (info : ClassInfo) (name : String) (found : Member) : ClassInfo :=
  { info with members := assign name found info.members }

end ClassInfo

namespace ClassTable

/-- The class of a reference. -/
def info? (table : ClassTable) (ref : ClassRef) : Option ClassInfo :=
  table.classes[ref.number]?

/-- The reference to a class by what it is called now. -/
def current (table : ClassTable) (ref : ClassRef) : ClassRef :=
  ((table.info? ref).map ClassInfo.ref).getD ref

/-- The class last defined under a name, whatever it is called now. -/
def named? (table : ClassTable) (name : String) : Option ClassRef :=
  (table.classes.reverse.find? fun info => info.key = name).map ClassInfo.ref

/-- A type and its ancestors, nearest first; what all types descend from is left out. -/
def ancestry (table : ClassTable) (type : TypeRef) : List TypeRef :=
  match type with
  | .defined ref => ((table.info? ref).map ClassInfo.ancestry).getD []
  | .builtin name =>
    if name = Language.commonType then [type]
    else ((Language.ancestry name).filter (· ≠ Language.commonType)).map .builtin
  | other => [other]

/-- The classes among a type and its ancestors, nearest first. -/
def lineage (table : ClassTable) (type : TypeRef) : List ClassInfo :=
  (table.ancestry type).filterMap fun
    | .defined ref => table.info? ref
    | _ => none

/-- What a type declares itself; the markers declare their capability. -/
def ownMembers (table : ClassTable) : TypeRef → List (String × Member)
  | .defined ref => ((table.info? ref).map ClassInfo.members).getD []
  | .panel => [(Capability.memberName, .constant (.text Capability.panel.label))]
  | .page => [(Capability.memberName, .constant (.text Capability.page.label))]
  | _ => []

/-- The member of a name that the first of some types has. -/
def memberAmong? (table : ClassTable) (types : List TypeRef) (name : String) : Option Member :=
  types.findSome? fun type => (table.ownMembers type).lookup name

/-- The nearest member of a name. -/
def member? (table : ClassTable) (type : TypeRef) (name : String) : Option Member :=
  table.memberAmong? (table.ancestry type) name

/-- What the nearest class that lists fields says about them: those that making it a record type
found, or a member in the place of the list. -/
def fieldListing? (table : ClassTable) (type : TypeRef) : Option (List Field ⊕ Member) :=
  (table.lineage type).findSome? fun info =>
    match info.members.lookup fieldsMember with
    | some found => some (.inr found)
    | none => info.fields.map .inl

/-- Whether a type passes for a record type, itself or by inheritance. -/
def isRecordType (table : ClassTable) (type : TypeRef) : Bool :=
  (table.fieldListing? type).isSome

/-- The fields of a record type, itself or by inheritance. A member in the place of their list has
to be an empty map. -/
def fieldsOf (table : ClassTable) (type : TypeRef) : Except Failure (Option (List Field)) :=
  match table.fieldListing? type with
  | none => .ok none
  | some (.inl fields) => .ok (some fields)
  | some (.inr (.constant (.map []))) => .ok (some [])
  | some (.inr (.constant (.map _))) => .error (.missing "_field_type")
  | some (.inr _) => .error (.missing "values")

/-- Require that a type that passes for a record type tells how it was made one: nobody has put
anything else in the place of that. -/
def requireSettings (table : ClassTable) (type : TypeRef) : Except Failure Unit :=
  match (table.lineage type).find? fun info =>
      (info.members.lookup settingsMember).isSome || info.fields.isSome with
  | some info =>
    if (info.members.lookup settingsMember).isSome then .error (.missing "frozen") else .ok ()
  | none => .error (.missing settingsMember)

/-- The type of the language whose values the instances of a type are, if it is not one that all
values are of. -/
def coreType? (table : ClassTable) (type : TypeRef) : Option TypeRef :=
  (table.ancestry type).find? fun ancestor =>
    match ancestor with
    | .builtin name => name ≠ "object"
    | .anything => true
    | _ => false

/-- The member that gives the keys that instances are. -/
def hashMember : String := "__hash__"

/-- Whether instances of a class may be keys: record types compare their instances by their fields,
functions of the author that give keys give nothing, and neither rows nor maps are keys. -/
def instancesHash (table : ClassTable) (type : TypeRef) : Bool :=
  ((table.lineage type).all fun info =>
    info.fields.isNone && (info.members.lookup hashMember).isNone) &&
    !(["list", "dict", "set", "bytearray"].any fun name => table.coreType? type = some (.builtin name))

/-- Whether a type descends from another, itself included. -/
def descends (table : ClassTable) (type ancestor : TypeRef) : Bool :=
  ancestor = .builtin "object" || (table.ancestry type).contains ancestor

/-- The table with a class changed. -/
def update (table : ClassTable) (ref : ClassRef) (change : ClassInfo → ClassInfo) :
    ClassTable :=
  ⟨table.classes.modify ref.number change⟩

end ClassTable
end PageContracts
