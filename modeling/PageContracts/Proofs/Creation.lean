import PageContracts.Proofs.Workplace

/-! # What creating an object comes to

A new object is of the implementation of its contract, has nothing attached to it, and holds what it
was given as far as its contract leaves that to it. -/
namespace PageContracts

open Runs
open World (SameInside)

variable {β : Type}

namespace ClassTable

/-- The instances of a class keep what is put under a name. -/
def Leaves (table : ClassTable) (contract : ClassRef) (name : String) : Prop :=
  table.assigning (.defined contract) name = .ok true

/-- What is put under a name stays there only if no member has a say in that. -/
theorem changing_eq_true {table : ClassTable} {type : TypeRef} {name occasion : String}
    {arguments : List Value} (h : table.changing type name occasion arguments = .ok true)
    {found : Member} (declared : table.member? type name = some found) :
    table.governs found = false := by
  cases governed : table.governs found with
  | false => rfl
  | true =>
    simp only [changing, declared, governed] at h
    rcases told : table.tell? found occasion arguments with _ | failure | _ <;>
      simp [told, Except.map] at h

theorem Leaves.not_answers {table : ClassTable} {contract : ClassRef} {name : String}
    (h : table.Leaves contract name) :
    ((table.member? (.defined contract) name).map table.answers).getD false = false := by
  have stored : table.storing (.defined contract) name .none = .ok true := by
    unfold Leaves assigning at h
    split at h
    · cases h
    · cases h
    · exact h
  cases declared : table.member? (.defined contract) name with
  | none => rfl
  | some found =>
    have free : table.governs found = false := changing_eq_true stored declared
    change table.answers found = false
    unfold answers
    split
    · cases free
    · simp only [free, Bool.false_and]

end ClassTable

namespace LiveObject

variable {object made : LiveObject} {table : ClassTable} {given : Equipment}

theorem assign_eq_ok {name : String} {change : LiveObject → LiveObject} {u : Unit} :
    assign table name change object = .ok u made ↔
      ∃ stays, table.assigning (.defined object.contract) name = .ok stays ∧
        made = if stays then change object else object := by
  rw [assign, bind_of_ok (get_apply object)]
  cases table.assigning (.defined object.contract) name with
  | error failure => simp
  | ok stays =>
    cases stays with
    | false => simp [eq_comm]
    | true =>
      constructor
      · intro h
        cases h
        exact ⟨true, rfl, rfl⟩
      · rintro ⟨_, told, rfl⟩
        cases told
        rfl

theorem assign_of_leaves {name : String} (h : table.Leaves object.contract name)
    (change : LiveObject → LiveObject) : assign table name change object = .ok () (change object) :=
  assign_eq_ok.mpr ⟨true, h, rfl⟩

theorem answersFor_of_leaves {name : String} (h : table.Leaves object.contract name) :
    object.answersFor table name = false := by
  rw [answersFor, h.not_answers, Bool.and_false]

theorem heldAt_of_leaves {α : Type} {name : String} (h : table.Leaves object.contract name)
    (thing : α) : object.heldAt table name (.proper thing) = .ok (.inl thing) := by
  simp only [heldAt, answersFor_of_leaves h]

theorem setUp_ofExcept_of_ok {α : Type} {result : Except Failure α} {a : α}
    (h : result = .ok a) (object : LiveObject) : setUp.ofExcept result object = .ok a object := by
  rw [h]
  rfl

/-- What an object is made of stays as it is. -/
def SameMake (before later : LiveObject) : Prop :=
  later.implementation = before.implementation ∧ later.attributes = before.attributes ∧
    later.nesting = before.nesting

instance : IsPreorder LiveObject SameMake where
  refl _ := ⟨rfl, rfl, rfl⟩
  trans _ _ _ h k := ⟨k.1.trans h.1, k.2.1.trans h.2.1, k.2.2.trans h.2.2⟩

theorem assign_moves {name : String} {change : LiveObject → LiveObject}
    (h : ∀ object, SameMake object (change object)) :
    Moves SameMake (assign table name change) := by
  refine Moves.get_bind fun object => ?_
  rcases table.assigning (.defined object.contract) name with failure | _ | _
  · exact refl object
  · exact refl object
  · exact h object

theorem setUp_ofExcept_moves {α : Type} (result : Except Failure α) :
    Moves SameMake (setUp.ofExcept result) := by
  cases result with
  | ok value => exact Moves.pure value
  | error failure => exact Moves.throw failure

/-- Setting an object up keeps its implementation and what is attached to it, and gives it its place
unless something else takes that. -/
theorem setUp_eq_ok {u : Unit} (h : setUp table given object = .ok u made) :
    made.implementation = object.implementation ∧ made.attributes = object.attributes ∧
      ∃ stays, table.assigning (.defined object.contract) "scope_stack" = .ok stays ∧
        made.nesting = if stays then given.nesting else object.nesting := by
  have kept {name : String} {change : LiveObject → LiveObject} {before later : LiveObject}
      {u : Unit} (h : assign table name change before = .ok u later)
      (same : ∀ object, SameMake object (change object)) : SameMake before later :=
    (assign_moves same).of_eq_ok h
  obtain ⟨_, one, session, h⟩ := bind_eq_ok.mp h
  obtain ⟨_, two, actions, h⟩ := bind_eq_ok.mp h
  obtain ⟨_, three, factory, h⟩ := bind_eq_ok.mp h
  replace h := get_bind_eq_ok.mp h
  obtain ⟨_, four, naming, h⟩ := bind_eq_ok.mp h
  obtain ⟨_, five, name, h⟩ := bind_eq_ok.mp h
  replace h := get_bind_eq_ok.mp h
  obtain ⟨_, six, binding, h⟩ := bind_eq_ok.mp h
  obtain ⟨_, seven, logger, place⟩ := bind_eq_ok.mp h
  have same : SameMake object seven :=
    calc
      SameMake object one := kept session fun _ => ⟨rfl, rfl, rfl⟩
      SameMake _ two := kept actions fun _ => ⟨rfl, rfl, rfl⟩
      SameMake _ three := kept factory fun _ => ⟨rfl, rfl, rfl⟩
      SameMake _ four := (setUp_ofExcept_moves _).of_eq_ok naming
      SameMake _ five := kept name fun _ => ⟨rfl, rfl, rfl⟩
      SameMake _ six := (setUp_ofExcept_moves _).of_eq_ok binding
      SameMake _ seven := kept logger fun _ => ⟨rfl, rfl, rfl⟩
  obtain ⟨implementation, attributes, nesting⟩ := same
  have contract : seven.contract = object.contract :=
    congrArg Implementation.contract implementation
  obtain ⟨stays, told, rfl⟩ := assign_eq_ok.mp place
  rw [contract] at told
  cases stays with
  | false => exact ⟨implementation, attributes, false, told, nesting⟩
  | true => exact ⟨implementation, attributes, true, told, rfl⟩

/-- An object whose contract leaves all that it is given to it works with just that. -/
theorem setUp_of_leaves
    (leaves : ∀ name ∈ Factory.givenAttributes, table.Leaves object.contract name)
    {name : String} (named : given.name = .text name) (something : name ≠ "")
    (unlogged : given.logger = .none) :
    setUp table given object = .ok () { object with
      session := given.session, actions := given.actions, factory := given.factory
      name := some (.text name), logger := .proper (.text name), nesting := given.nesting } := by
  have put (name : String) (listed : name ∈ Factory.givenAttributes)
      (change : LiveObject → LiveObject) (object' : LiveObject)
      (same : object'.contract = object.contract) :
      assign table name change object' = .ok () (change object') :=
    assign_of_leaves (same ▸ leaves name listed) change
  have naming (object : LiveObject) : object.nameFor given.name = .ok (.text name) := by
    simp [nameFor, named, Value.truthy, something]
  have logging (object' : LiveObject) (same : object'.contract = object.contract)
      (goes : object'.name = some (.text name)) :
      object'.loggerFor table given.logger = .ok (.proper (.text name)) := by
    have free : object'.answersFor table "name" = false :=
      answersFor_of_leaves (same ▸ leaves "name" (by decide))
    simp [loggerFor, rawName, goes, free, unlogged, Value.truthy]
  refine bind_eq_ok.mpr ⟨(), _, put "session" (by decide) _ _ rfl, ?_⟩
  refine bind_eq_ok.mpr ⟨(), _, put "actions" (by decide) _ _ rfl, ?_⟩
  refine bind_eq_ok.mpr ⟨(), _, put "factory" (by decide) _ _ rfl, ?_⟩
  refine bind_eq_ok.mpr ⟨_, _, get_apply _, ?_⟩
  refine bind_eq_ok.mpr ⟨.text name, _, setUp_ofExcept_of_ok (naming _) _, ?_⟩
  refine bind_eq_ok.mpr ⟨(), _, put "name" (by decide) _ _ rfl, ?_⟩
  refine bind_eq_ok.mpr ⟨_, _, get_apply _, ?_⟩
  refine bind_eq_ok.mpr ⟨.proper (.text name), _, setUp_ofExcept_of_ok ?_ _, ?_⟩
  · exact logging _ rfl rfl
  refine bind_eq_ok.mpr ⟨(), _, put "logger" (by decide) _ _ rfl, ?_⟩
  exact put "scope_stack" (by decide) _ _ rfl

/-- An object that has been set up so works with just what it was given. -/
theorem worksAt_of_setUp {u : Unit} (h : setUp table given object = .ok u made)
    (leaves : ∀ name ∈ Factory.givenAttributes, table.Leaves made.contract name)
    (bare : object.attributes = []) {workplace : Workplace}
    (named : given.name = .text workplace.name) (something : workplace.name ≠ "")
    (unlogged : given.logger = .none) (panel : workplace.panel = .text workplace.name)
    (actions : given.actions = .proper workplace.actions)
    (factory : given.factory = .proper workplace.factory)
    (place : given.nesting = .proper workplace.place) : made.WorksAt table workplace := by
  have contract : made.contract = object.contract :=
    congrArg Implementation.contract (setUp_eq_ok h).1
  have free {α : Type} {name : String} (listed : name ∈ Factory.givenAttributes) (thing : α) :
      made.heldAt table name (.proper thing) = .ok (.inl thing) :=
    heldAt_of_leaves (leaves name listed) thing
  have unanswered : made.answersFor table "name" = false :=
    answersFor_of_leaves (leaves "name" (by decide))
  have explicit := (setUp_of_leaves (contract ▸ leaves) named something unlogged).symm.trans h
  simp only [EStateM.Result.ok.injEq, true_and] at explicit
  constructor
  · rw [(setUp_eq_ok h).2.1, bare]
  · have held : made.nesting = .proper workplace.place := by rw [← explicit, place]
    rw [held, free (by decide)]
  · have held : made.actions = .proper workplace.actions := by rw [← explicit, actions]
    rw [held, free (by decide)]
  · have held : made.factory = .proper workplace.factory := by rw [← explicit, factory]
    rw [held, free (by decide)]
  · have held : made.logger = .proper workplace.panel := by rw [← explicit, panel]
    rw [held, free (by decide)]
  · have held : made.name = some (.text workplace.name) := by rw [← explicit]
    simp only [shownName, rawName, held, unanswered]
    rfl

variable [Remote β] {world later : World β}

/-- Equipping an object is setting it up, and recording that. -/
theorem equip_eq_ok (h : object.equip given world = .ok made later) :
    setUp world.classes given object = .ok () made ∧ SameInside world later := by
  refine ⟨?_, (object.equip_stays_outside given).of_eq_ok h⟩
  replace h := get_bind_eq_ok.mp h
  cases set : (setUp world.classes given).run object with
  | ok u ready =>
    simp only [set] at h
    replace h := get_bind_eq_ok.mp h
    obtain ⟨_, _, announced, h⟩ := bind_eq_ok.mp h
    cases h
    exact set
  | error failure ready =>
    simp only [set] at h
    cases h

end LiveObject

namespace Factory

variable [Remote β] {world later : World β}

/-- What creating an object leaves behind: the new object is the last one. -/
theorem createIn_eq_ok {factory : Factory} {contract : TypeRef} {outer : Nesting ⊕ Value}
    {number : Nat} (h : factory.createIn contract outer world = .ok number later) :
    ∃ implementation settled nesting made,
      Compilation.implement contract factory.base world = .ok implementation settled ∧
        placeIn settled.classes contract outer = .ok nesting ∧
        LiveObject.setUp settled.classes
          { session := .proper factory.session, actions := .proper factory.actions
            factory := .proper factory, name := .text contract.name, nesting }
          { implementation, contents := emptyContents settled.classes implementation.contract } =
            .ok () made ∧
        number = settled.objects.length ∧ later.objects = settled.objects ++ [made] ∧
        later.classes = settled.classes := by
  obtain ⟨implementation, settled, implemented, h⟩ := bind_eq_ok.mp h
  replace h := get_bind_eq_ok.mp h
  obtain ⟨nesting, placed, h⟩ := ofExcept_bind_eq_ok.mp h
  replace h := get_bind_eq_ok.mp h
  obtain ⟨_, -, h⟩ := ofExcept_bind_eq_ok.mp h
  replace h := get_bind_eq_ok.mp h
  obtain ⟨made, equipped, equipping, h⟩ := bind_eq_ok.mp h
  obtain ⟨set, moved⟩ := LiveObject.equip_eq_ok equipping
  cases h
  exact ⟨implementation, settled, nesting, made, implemented, placed, set,
    congrArg List.length moved.objects_eq, congrArg (· ++ [made]) moved.objects_eq,
    moved.classes_eq⟩

theorem placeIn_eq_ok {table : ClassTable} {contract : TypeRef} {outer : Nesting}
    {nesting : Held Nesting} :
    placeIn table contract (.inl outer) = .ok nesting ↔
      ∃ place, placeFor table contract outer = .ok place ∧ nesting = .proper place := by
  simp only [placeIn]
  cases placeFor table contract outer with
  | error failure =>
    constructor
    · intro h
      cases h
    · rintro ⟨_, h, -⟩
      cases h
  | ok place =>
    constructor
    · intro h
      cases h
      exact ⟨place, rfl, rfl⟩
    · rintro ⟨_, h, rfl⟩
      cases h
      rfl

/-- An object that is created under a contract that leaves all six attributes to it works at the
place that it is created for. -/
theorem createIn_worksAt {factory : Factory} {contract : TypeRef} {outer : Nesting} {number : Nat}
    (h : factory.create contract outer world = .ok number later) (something : contract.name ≠ "") :
    ∃ object place, later.objects[number]? = some object ∧
      placeFor later.classes contract outer = .ok place ∧
      ((∀ name ∈ givenAttributes, later.classes.Leaves object.contract name) →
        object.WorksAt later.classes {
          number, place, factory, actions := factory.actions
          name := contract.name, panel := .text contract.name }) := by
  obtain ⟨implementation, settled, nesting, made, -, placed, set, rfl, objects, classes⟩ :=
    createIn_eq_ok h
  rw [classes]
  obtain ⟨place, found, rfl⟩ := placeIn_eq_ok.mp placed
  refine ⟨made, place, by simp [objects], found, fun leaves => ?_⟩
  exact LiveObject.worksAt_of_setUp set leaves rfl rfl something rfl rfl rfl rfl rfl

end Factory
end PageContracts
