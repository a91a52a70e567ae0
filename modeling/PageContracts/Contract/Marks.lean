import PageContracts.Contract.Binding

/-! # Marks

What a class gives when it is asked for one of its members. Mostly that is the member itself; a member
that is an instance may be of a class that has a say in the matter, with functions of its author that
are called when the member is reached for, is to be replaced or taken away on an instance, or gets its
name. The marks of a class are members too: its capability, its scope, its address, and what makes it
a model.
-/
namespace PageContracts

namespace Member

/-- The class that a member is an instance of, if its author has made it. -/
def ownClass? : Member → Option ClassRef
  | .constant (.record ofClass _ _ _) => some ofClass
  | .constant (.object ref) => some ref.contract
  | _ => none

/-- The name of the function that has a say when a member is reached for. -/
def readingName : String := "__get__"

/-- The name of the function that is given what is to replace a member on an instance. -/
def replacingName : String := "__set__"

/-- The name of the function that is told when a member is to be taken away on an instance. -/
def removingName : String := "__delete__"

/-- The name of the function that is told which class has a member, and under which name. -/
def namingName : String := "__set_name__"

end Member

/-- What the marks of a type tell. -/
structure Portrait where
  /-- What stands for the capability, be it one or not. -/
  mark : Value
  isContract : Bool
  isModel : Bool
  scope : Option LocatorDescriptor
  url : Value
  fields : Option (List String)
  deriving Repr, Inhabited

namespace ClassTable

/-- The failure of something that cannot be called. -/
def notCallable : Failure :=
  .typeBreach "object is not callable"

/-- What a member does that stands for one every class has, called on an instance: it takes its
arguments and gives nothing. -/
def callSpecial? (table : ClassTable) (type : TypeRef) (name : String) (positions : List Value)
    (named : List (String × Value)) : Option (Except Failure Unit) :=
  (table.member? type name).map fun
    | .function f | .wrapped .onClass f =>
      (Binding.enter f.signature (.none :: positions) named).map fun _ => ()
    | .wrapped .static f => (Binding.enter f.signature positions named).map fun _ => ()
    | _ => .error notCallable

/-- The function of a name that the class of a member has. -/
def sayOf? (table : ClassTable) (found : Member) (name : String) : Option Member :=
  found.ownClass?.bind fun ofClass => table.member? (.defined ofClass) name

/-- Call the function that the class of a member has for an occasion, if it has one. -/
def tell? (table : ClassTable) (found : Member) (name : String) (arguments : List Value) :
    Option (Except Failure Unit) :=
  found.ownClass?.bind fun ofClass => table.callSpecial? (.defined ofClass) name arguments []

/-- What is had of a member on reaching for it. A function that has a say is given the member, the
instance and the class, and gives nothing. -/
def taken (table : ClassTable) (found : Member) : Except Failure Value :=
  match table.sayOf? found Member.readingName with
  | none => .ok found.toValue
  | some (.function f) | some (.wrapped .static f) =>
    (Binding.enter f.signature [.none, .none, .none] []).map fun _ => .none
  | some _ => .error notCallable

/-- What is had of a member on reaching for it on an instance: a property is asked. -/
def takenOnInstance (table : ClassTable) (found : Member) : Except Failure Value :=
  match found with
  | .wrapped .property f => (Binding.enter f.signature [.none] []).map fun _ => .none
  | found => table.taken found

/-- Whether a member has a say in what instances get under its name. -/
def governs (table : ClassTable) (found : Member) : Bool :=
  match found with
  | .wrapped .property _ => true
  | found =>
    (table.sayOf? found Member.replacingName).isSome ||
      (table.sayOf? found Member.removingName).isSome

/-- Whether a member answers for its name, whatever instances have under it. -/
def answers (table : ClassTable) (found : Member) : Bool :=
  match found with
  | .wrapped .property _ => true
  | found => table.governs found && (table.sayOf? found Member.readingName).isSome

/-- Put a value under a name of an instance, or take away what is there, as far as its class lets
that happen: the result is whether it does. A member that has a say is told instead, by the function
it has for the occasion. -/
def changing (table : ClassTable) (type : TypeRef) (name occasion : String)
    (arguments : List Value) : Except Failure Bool :=
  match table.member? type name with
  | none => .ok true
  | some found =>
    if !table.governs found then .ok true
    else
      match table.tell? found occasion arguments with
      | some result => result.map fun _ => false
      | none => .error (.missing occasion)

/-- Whether a value that is put under a name of an instance stays there. -/
def storing (table : ClassTable) (type : TypeRef) (name : String) (value : Value) :
    Except Failure Bool :=
  table.changing type name Member.replacingName [.none, value]

/-- Whether an instance is rid of what is taken away under a name by that alone. -/
def removing (table : ClassTable) (type : TypeRef) (name : String) : Except Failure Bool :=
  table.changing type name Member.removingName [.none]

/-- Tell the members of a new class which class has them, and under which names. -/
def nameMembers (table : ClassTable) (members : List (String × Member)) : Except Failure Unit :=
  members.forM fun (name, found) =>
    match table.tell? found Member.namingName [.none, .text name] with
    | some (.error _) => .error (.breach .outOfTurn "Error calling __set_name__")
    | _ => .ok ()

/-- What a type gives under a name; nothing when it has no such member. -/
def valueOf (table : ClassTable) (type : TypeRef) (name : String) : Except Failure Value :=
  ((table.member? type name).map table.taken).getD (.ok .none)

/-- The capability of a type: what its nearest member for it names, mostly the marker's. -/
def capability (table : ClassTable) (type : TypeRef) : Except Failure (Option Capability) := do
  return Capability.ofValue? (← table.valueOf type Capability.memberName)

/-- Whether a type is a contract. The markers themselves are not. -/
def isContract (table : ClassTable) (type : TypeRef) : Except Failure Bool := do
  return (← table.capability type).isSome && type ≠ .panel && type ≠ .page

/-- Whether a type is a model, itself or by inheritance. -/
def isModel (table : ClassTable) (type : TypeRef) : Bool :=
  match table.valueOf type modelMember with
  | .ok (.bool marked) => marked
  | _ => false

/-- The scope a contract declares or inherits. -/
def scopeOf (table : ClassTable) (type : TypeRef) : Except Failure (Option Scope) :=
  match table.member? type scopeMember with
  | none => .ok none
  | some (.locator descriptor) => .ok (some (.locator descriptor))
  | some found => do
    match ← table.taken found with
    | .none => return none
    | value => return some (.stray value)

/-- The address template a contract declares or inherits; nothing when there is none. -/
def urlOf (table : ClassTable) (type : TypeRef) : Except Failure Value :=
  table.valueOf type urlMember

/-- All that the marks of a type tell, and its fields if it passes for a record type. -/
def portrait (table : ClassTable) (type : TypeRef) : Except Failure Portrait := do
  let mark ← table.valueOf type Capability.memberName
  let isContract ← table.isContract type
  let _ ← table.valueOf type modelMember
  let scope ← (← table.scopeOf type).mapM Scope.descriptor
  let url ← table.urlOf type
  let fields := (← table.fieldsOf type).map (List.map Field.name)
  return { mark, isContract, isModel := table.isModel type, scope, url, fields }

section Mishaps

variable (table : ClassTable) (type : TypeRef) (found : Member) (name : String)

theorem callSpecial_onlyMishaps (positions : List Value) (named : List (String × Value))
    (result : Except Failure Unit) (h : table.callSpecial? type name positions named = some result) :
    OnlyMishaps result := by
  obtain ⟨found, -, rfl⟩ := Option.map_eq_some_iff.mp h
  split
  · exact (Binding.enter_onlyMishaps _ _ _).map _
  · exact (Binding.enter_onlyMishaps _ _ _).map _
  · exact (Binding.enter_onlyMishaps _ _ _).map _
  · exact .typeBreach _

theorem tell_onlyMishaps (arguments : List Value) (result : Except Failure Unit)
    (h : table.tell? found name arguments = some result) : OnlyMishaps result := by
  obtain ⟨ofClass, -, told⟩ := Option.bind_eq_some_iff.mp h
  exact table.callSpecial_onlyMishaps _ _ _ _ _ told

theorem taken_onlyMishaps : OnlyMishaps (table.taken found) := by
  unfold taken
  split
  · exact .ok _
  · exact (Binding.enter_onlyMishaps _ _ _).map _
  · exact (Binding.enter_onlyMishaps _ _ _).map _
  · exact .typeBreach _

theorem takenOnInstance_onlyMishaps : OnlyMishaps (table.takenOnInstance found) := by
  unfold takenOnInstance
  split
  · exact (Binding.enter_onlyMishaps _ _ _).map _
  · exact table.taken_onlyMishaps _

theorem changing_onlyMishaps (occasion : String) (arguments : List Value) :
    OnlyMishaps (table.changing type name occasion arguments) := by
  unfold changing
  split
  · exact .ok _
  · refine .ite (.ok _) ?_
    split
    · next result told => exact (table.tell_onlyMishaps _ _ _ _ told).map _
    · exact .missing _

theorem storing_onlyMishaps (value : Value) : OnlyMishaps (table.storing type name value) :=
  table.changing_onlyMishaps _ _ _ _

theorem valueOf_onlyMishaps : OnlyMishaps (table.valueOf type name) :=
  .mapD table.taken_onlyMishaps (.ok _)

theorem capability_onlyMishaps : OnlyMishaps (table.capability type) :=
  (table.valueOf_onlyMishaps _ _).bind fun _ _ => .ok _

theorem scopeOf_onlyMishaps : OnlyMishaps (table.scopeOf type) := by
  unfold scopeOf
  split
  · exact .ok _
  · exact .ok _
  · refine (table.taken_onlyMishaps _).bind fun value _ => ?_
    split <;> exact .ok _

end Mishaps

end ClassTable
end PageContracts
