import PageContracts.Contract.Calling
import PageContracts.World

/-! # The attributes of objects

What an object holds, and how it is shown. An attribute that has been taken away is looked for in
the contract; one that was put in the place of something else serves as far as it can.
-/
namespace PageContracts

namespace Held

variable {α : Type}

/-- Whether anything is held. -/
def isThere : Held α → Bool
  | .gone => false
  | _ => true

/-- The value that was put in the place of what belongs there. -/
def stray? : Held α → Option Value
  | .stray value => some value
  | _ => none

end Held

namespace LiveObject

/-- What an object has in the place of an attribute that is gone: a member of its contract, or what
its author's last resort gives. -/
def fallback (object : LiveObject) (table : ClassTable) (name : String) : Except Failure Value :=
  let type : TypeRef := .defined object.contract
  match table.member? type name with
  | some found =>
    if ClassTable.reserves found then lastResort type else table.takenOnInstance found
  | none => lastResort type
where
  /-- What the author's function for missing attributes gives. -/
  lastResort (type : TypeRef) : Except Failure Value :=
    match table.member? type "__getattr__" with
    | some found => table.callOn found .none [.text name] []
    | none => .error (.missing name)

/-- The names of what the base of an object brings along; the contract does not come to bear
there. -/
def baseNames (base : BaseClass) : List String :=
  ["__contract__", "__init__", "__repr__", "_epilogue", "_log", "_value_for", "click",
    "current_url", "fill", "get_attribute", "get_text", "make_panel", "navigate_to",
    "page_source", "run_plan"] ++ (if base = .audited then ["describe"] else [])

/-- Whether the contract comes to bear on a name: neither the implementation nor its base has anything
there. -/
def leavesToContract (object : LiveObject) (name : String) : Bool :=
  (object.implementation.methods.lookup name).isNone &&
    !(baseNames object.implementation.base).contains name

/-- Whether the contract answers for an attribute itself, whatever the object holds. -/
def answersFor (object : LiveObject) (table : ClassTable) (name : String) : Bool :=
  object.leavesToContract name &&
    ((table.member? (.defined object.contract) name).map table.answers).getD false

/-- What belongs in a place of an object, or the value that is found there instead. -/
def heldAt {α : Type} (object : LiveObject) (table : ClassTable) (name : String)
    (held : Held α) : Except Failure (α ⊕ Value) :=
  match held, object.answersFor table name with
  | .proper thing, false => .ok (.inl thing)
  | .stray value, false => .ok (.inr value)
  | _, _ => (object.fallback table name).map .inr

/-- The name of an object as it stands. -/
def rawName (object : LiveObject) (table : ClassTable) : Except Failure Value :=
  match object.name, object.answersFor table "name" with
  | some name, false => .ok name
  | _, _ => object.fallback table "name"

/-- The text an object goes by. -/
def shownName (object : LiveObject) (table : ClassTable) : Except Failure String := do
  (← object.rawName table).spoken

/-- An object as messages show it. -/
def display (object : LiveObject) (table : ClassTable) : Except Failure String := do
  let name ← object.shownName table
  let place ←
    match ← object.heldAt table "scope_stack" object.nesting with
    | .inl nesting => pure nesting.display
    | .inr value => value.written Value.quoted
  return "<" ++ name ++ " scope=" ++ place ++ ">"

section Mishaps

variable (object : LiveObject) (table : ClassTable)

theorem fallback_onlyMishaps (name : String) : OnlyMishaps (object.fallback table name) := by
  have lastResort (type : TypeRef) : OnlyMishaps (fallback.lastResort table name type) := by
    unfold fallback.lastResort
    split
    · exact table.callOn_onlyMishaps _ _ _ _
    · exact .missing _
  unfold fallback
  dsimp only
  split
  · exact .ite (lastResort _) (table.takenOnInstance_onlyMishaps _)
  · exact lastResort _

theorem heldAt_onlyMishaps {α : Type} (name : String) (held : Held α) :
    OnlyMishaps (object.heldAt table name held) := by
  unfold heldAt
  split
  · exact .ok _
  · exact .ok _
  · exact (object.fallback_onlyMishaps table name).map _

theorem rawName_onlyMishaps : OnlyMishaps (object.rawName table) := by
  unfold rawName
  split
  · exact .ok _
  · exact object.fallback_onlyMishaps table _

theorem shownName_onlyMishaps : OnlyMishaps (object.shownName table) :=
  (object.rawName_onlyMishaps table).bind fun name _ => name.spoken_onlyMishaps

theorem display_onlyMishaps : OnlyMishaps (object.display table) := by
  refine (object.shownName_onlyMishaps table).bind fun name _ => ?_
  refine (object.heldAt_onlyMishaps table _ _).bind fun held _ => ?_
  cases held with
  | inl nesting => exact .ok _
  | inr value => exact (value.written_onlyMishaps _).bind fun _ _ => .ok _

end Mishaps

/-- The number of panels an object stands in, its own included. -/
def depth (object : LiveObject) (table : ClassTable) : Except Failure Nat := do
  match ← object.heldAt table "scope_stack" object.nesting with
  | .inl nesting => return nesting.depth
  | .inr value =>
    match value.length? with
    | some length => return length
    | none => throw (.typeBreach "object has no length")

/-- The locators of the panels an object stands in. -/
def scopes (object : LiveObject) (table : ClassTable) :
    Except Failure (List LocatorDescriptor) := do
  match ← object.heldAt table "scope_stack" object.nesting with
  | .inl nesting => nesting.locators
  | .inr value =>
    match ← ClassTable.itemsOf value with
    | [] => return []
    | _ => throw (.missing "kind")

/-- Whether two objects stand in the same place. -/
def samePlace (a b : LiveObject) (table : ClassTable) : Except Failure Bool := do
  match ← a.heldAt table "scope_stack" a.nesting, ← b.heldAt table "scope_stack" b.nesting with
  | .inl x, .inl y => return x.same y
  | .inr x, .inr y => return x.sameKey y
  | _, _ => return false

/-- An object in which every value has been replaced. -/
def mapValues (object : LiveObject) (change : Value → Value) : LiveObject :=
  let held {α : Type} (held : Held α) : Held α :=
    match held with
    | .stray value => .stray (change value)
    | other => other
  { object with
    session := held object.session
    actions := held object.actions
    factory := held object.factory
    name := object.name.map change
    logger :=
      match object.logger with
      | .proper panel => .proper (change panel)
      | .stray value => .stray (change value)
      | .gone => .gone
    nesting := held object.nesting
    attributes := object.attributes.map fun entry => (entry.1, change entry.2)
    contents := object.contents.map change }

/-- An object as other values refer to it. A contract that says itself how its objects become texts
leaves them without one, because its functions give nothing. -/
def ref (object : LiveObject) (table : ClassTable) (number : Nat) : ObjectRef :=
  { number, contract := object.contract, typeName := object.implementation.name
    shown := Mishap.result (object.display table) (object.display_onlyMishaps table)
    speaks := (table.member? (.defined object.contract) "__str__").isNone
    hashable := table.instancesHash (.defined object.contract)
    full := (object.contents.map Value.truthy).getD true }

end LiveObject

namespace World

variable {β : Type}

/-- A reference to an object as the object is now, and likewise for the objects it holds. Objects
that hold one another are followed as far as the fuel allows, and cannot be shown then. -/
def current (world : World β) : Nat → ObjectRef → ObjectRef
  | 0, ref =>
    { ref with shown := .error ⟨.breach .tooDeep "maximum recursion depth exceeded", rfl⟩ }
  | fuel + 1, ref =>
    match world.objects[ref.number]? with
    | none => ref
    | some object =>
      (object.mapValues (Value.mapObjects (world.current fuel))).ref world.classes ref.number

/-- A value with the objects in it as they are now. A row of objects that hold one another without
end is longer than there are objects. -/
def refresh (world : World β) (value : Value) : Value :=
  value.mapObjects (world.current (world.objects.length + 1))

/-- The reference to the object of a number. -/
def refTo (world : World β) (number : Nat) : Option ObjectRef :=
  (world.objects[number]?).map fun object =>
    world.current (world.objects.length + 1) (object.ref world.classes number)

/-- An object that shows what it holds as that is now. -/
def refreshed (world : World β) (object : LiveObject) : LiveObject :=
  object.mapValues world.refresh

/-- The tab behind what an object holds in the place of its session: other objects are asked in
turn, for as long as the fuel allows. -/
def sessionBehind (world : World β) : Nat → LiveObject → Except Failure (Session ⊕ Value)
  | 0, _ => .error (.breach .tooDeep "maximum recursion depth exceeded")
  | fuel + 1, object => do
    match ← object.heldAt world.classes "session" object.session with
    | .inr (.object ref) =>
      match world.objects[ref.number]? with
      | some other => world.sessionBehind fuel other
      | none => return .inr (.object ref)
    | held => return held

end World
end PageContracts
