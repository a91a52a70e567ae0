import PageContracts.Browser.Scripted
import PageContracts.Objects.Invocation
import PageContracts.Proofs.Calling
import PageContracts.Proofs.Settled

/-! # Places

However objects are created and operated on, each of them stands for good where it was put: a page
outside of all panels, and a panel one step inside the place it was created in. -/
namespace PageContracts

open Runs
open World (SameInside KeepsPlaces Settled Sound)

variable {β α : Type}

namespace World

/-- A world in order, in which the objects of another one stand where they stood. -/
structure Onward (start world : World β) : Prop where
  sound : world.Sound
  places : KeepsPlaces start world

variable {start world later : World β}

theorem Sound.onward (h : world.Sound) : Onward world world :=
  ⟨h, fun _ _ stands => stands⟩

theorem Onward.inside (h : Onward start world) (moved : SameInside world later) :
    Onward start later := by
  have settled := h.sound.settled.inside moved
  exact ⟨settled.sound, fun number place stands =>
    settled.places number place (h.places number place stands)⟩

theorem onward_of_settled {run : Run β α} {Q : α → Prop}
    (h : ∀ start, Ensures (Settled start) run Q) : Ensures (Onward start) run Q := by
  intro world onward
  obtain ⟨settled, given⟩ := h world world onward.sound.settled
  exact ⟨⟨settled.sound, fun number place stands =>
    settled.places number place (onward.places number place stands)⟩, given⟩

theorem onward_of_staysOutside {run : Run β α} (h : StaysOutside run) :
    Ensures (Onward start) run fun _ => True :=
  Ensures.of_moves fun world onward => onward.inside (h world)

theorem Onward.enrolled (h : Onward start world) {object : LiveObject}
    (bare : object.attributes = []) (operates : object.implementation.Operates) :
    Onward start { world with objects := world.objects ++ [object] } := by
  obtain ⟨⟨compiled, implementations, objects⟩, places⟩ := h
  refine ⟨⟨compiled, implementations, fun other listed => ?_⟩, fun number place stands => ?_⟩
  · rcases List.mem_append.mp listed with old | new
    · exact objects other old
    · rw [List.mem_singleton.mp new]
      exact ⟨bare, operates⟩
  · obtain ⟨other, found, proper⟩ := places number place stands
    refine ⟨other, ?_, proper⟩
    change (world.objects ++ [object])[number]? = some other
    rw [List.getElem?_append_left (List.getElem?_eq_some_iff.mp found).1, found]

end World

open World (Onward onward_of_settled onward_of_staysOutside)

namespace Factory

variable [Remote β] {start world later : World β}

theorem equip_ensures {object : LiveObject} {given : LiveObject.Equipment}
    (bare : object.attributes = []) (operates : object.implementation.Operates) :
    Ensures (Onward start) (object.equip given) fun made =>
      made.attributes = [] ∧ made.implementation.Operates := by
  intro world onward
  refine ⟨onward.inside (object.equip_stays_outside given world), fun made later equipped => ?_⟩
  obtain ⟨implementation, attributes, -⟩ :=
    LiveObject.setUp_eq_ok (LiveObject.equip_eq_ok equipped).1
  exact ⟨attributes.trans bare, implementation ▸ operates⟩

theorem createIn_ensures (factory : Factory) (contract : TypeRef) (outer : Nesting ⊕ Value) :
    Ensures (Onward start) (factory.createIn contract outer : Run β Nat) fun _ => True := by
  refine (onward_of_settled fun _ => Compilation.implement_ensures _ _).bind ?_
  intro implementation operates
  refine Ensures.get.bind fun _ _ => ?_
  refine (Ensures.check _).bind fun nesting _ => ?_
  refine Ensures.get.bind fun _ _ => ?_
  refine (Ensures.check _).bind fun _ _ => ?_
  refine Ensures.get.bind fun _ _ => ?_
  refine (equip_ensures rfl operates).bind fun made ⟨bare, operates⟩ => ?_
  refine Ensures.get.bind fun _ _ => ?_
  refine (Ensures.modify fun world onward => ?_).bind fun _ _ => Ensures.pure trivial
  exact onward.enrolled bare operates

theorem createOffered_ensures (factory : Factory) (offered : Value) (outer : Nesting ⊕ Value) :
    Ensures (Onward start) (factory.createOffered offered outer : Run β Nat) fun _ => True := by
  unfold createOffered
  split
  · exact factory.createIn_ensures _ _
  · split
    · exact (Ensures.check _).bind fun _ _ => Ensures.throw _
    · exact Ensures.throw _

end Factory
namespace LiveObject

variable {object : LiveObject} {name : String} {method : Method} {positions : List Value}
  {named : List (String × Value)} {world : World β}

/-- What an object has of its own is not named like an operation. -/
theorem own?_of_operation (bare : object.attributes = []) (operation : IsOperationName name) :
    object.own? name = none := by
  have other (taken : String)
      (unnamed : ∀ rule ∈ Rule.standard, Rule.namedAfter rule.verb.toList taken.toList = false) :
      name ≠ taken := by
    rintro rfl
    obtain ⟨rule, standard, after⟩ := operation
    rw [unnamed rule standard] at after
    cases after
  unfold own?
  split
  · exact absurd rfl (other "session" (by decide))
  · exact absurd rfl (other "actions" (by decide))
  · exact absurd rfl (other "factory" (by decide))
  · exact absurd rfl (other "name" (by decide))
  · exact absurd rfl (other "logger" (by decide))
  · exact absurd rfl (other "scope_stack" (by decide))
  · rw [bare]
    rfl

theorem operation_of_lookup (operates : object.implementation.Operates)
    (found : object.implementation.methods.lookup name = some method) : IsOperationName name := by
  obtain ⟨before, rest, split, -⟩ := List.lookup_eq_some_iff.mp found
  exact operates (name, method) (by simp [split])

theorem refreshed_untouched (bare : object.attributes = []) :
    (world.refreshed object).attributes = [] := by
  simp [World.refreshed, mapValues, bare]

variable [Remote β]

/-- Calling an operation runs its method. -/
theorem call_operation (bare : object.attributes = []) (operation : IsOperationName name)
    (found : object.implementation.methods.lookup name = some method) (number : Nat) :
    object.call number name positions named world =
      (world.refreshed object).runMethod number method positions named world := by
  have bare' : (world.refreshed object).attributes = [] := refreshed_untouched bare
  have nothing := own?_of_operation bare' operation
  have found' : (world.refreshed object).implementation.methods.lookup name = some method := found
  rw [call, bind_of_ok (get_apply world)]
  simp only [nothing, found', ite_self]

/-- Calling an operation of an object that nobody has tampered with binds the arguments and runs the
plan. -/
theorem runMethod_eq_ok (bare : object.attributes = []) {number : Nat} {outcome : Outcome}
    {later : World β}
    (h : object.runMethod number method positions named world = .ok outcome later) :
    ∃ arguments, object.runPlan number method.plan arguments world = .ok outcome later := by
  unfold runMethod at h
  split at h
  · obtain ⟨_, _, thrown, -⟩ := bind_eq_ok.mp h
    cases thrown
  · obtain ⟨bound, -, h⟩ := ofExcept_bind_eq_ok.mp h
    replace h := get_bind_eq_ok.mp h
    rw [orInstead_of_untouched bare] at h
    exact ⟨_, h⟩

theorem createThrough_ensures {start : World β} (contract : Value) (inside : Bool) :
    Ensures (Onward start) (object.createThrough contract inside) fun _ => True := by
  refine Ensures.get.bind fun _ _ => (Ensures.check _).bind fun held _ => ?_
  have ending (found : Except Failure Value) :
      Ensures (Onward start) (do return .ofValue (← Run.ofExcept found) : Run β Outcome)
        fun _ => True :=
    (Ensures.check found).bind fun _ _ => Ensures.pure trivial
  have creating (factory : Factory) (outer : Nesting ⊕ Value) :
      Ensures (Onward start) (do return .object (← factory.createOffered contract outer) :
        Run β Outcome) fun _ => True :=
    (factory.createOffered_ensures contract outer).bind fun _ _ => Ensures.pure trivial
  cases held with
  | inl factory =>
    cases inside with
    | false => exact creating factory _
    | true => exact (Ensures.check _).bind fun outer _ => creating factory outer
  | inr value =>
    refine (Ensures.check _).bind fun _ _ => ?_
    cases inside with
    | false => exact ending _
    | true =>
      refine (Ensures.check _).bind fun outer _ => ?_
      cases outer with
      | inl nesting => exact ending _
      | inr value => exact ending _

theorem runMethod_ensures {start : World β} (bare : object.attributes = []) (number : Nat) :
    Ensures (Onward start) (object.runMethod number method positions named) fun _ => True := by
  unfold runMethod
  split
  · exact Ensures.throw_bind _ _
  · refine (Ensures.check _).bind fun bound _ => Ensures.get.bind fun _ _ => ?_
    rw [orInstead_of_untouched bare]
    refine (onward_of_staysOutside (runCalls_stays_outside _ _ _ _ _)).bind fun result _ => ?_
    unfold finish
    split
    · exact Ensures.pure trivial
    · rw [orInstead_of_untouched bare]
      dsimp only
      split
      · exact Ensures.pure trivial
      · exact Ensures.pure trivial
      · rw [orInstead_of_untouched bare]
        exact createThrough_ensures _ _
      · rw [orInstead_of_untouched bare]
        exact createThrough_ensures _ _

theorem call_ensures {start : World β} (bare : object.attributes = [])
    (operates : object.implementation.Operates)
    (found : object.implementation.methods.lookup name = some method) (number : Nat) :
    Ensures (Onward start) (object.call number name positions named) fun _ => True := by
  intro world onward
  unfold after
  rw [call_operation bare (operation_of_lookup operates found) found number]
  exact runMethod_ensures (refreshed_untouched bare) number world onward

end LiveObject

namespace ClassTable

/-- The place of a new object: outside of all panels for a page, and otherwise one panel inside the
place it is created in, with the scope of its contract. -/
def Places (table : ClassTable) (contract : TypeRef) (outer place : Nesting) : Prop :=
  (table.capability contract = .ok (some .page) ∧ place = .outermost) ∨
    (table.capability contract ≠ .ok (some .page) ∧
      ∃ scope, Factory.ownScope table contract = .ok scope ∧ place = outer.enter scope ∧
        place.depth = outer.depth + 1)

theorem places_of_placeFor {table : ClassTable} {contract : TypeRef} {outer place : Nesting}
    (h : Factory.placeFor table contract outer = .ok place) :
    table.Places contract outer place := by
  unfold Factory.placeFor at h
  obtain ⟨capability, told, h⟩ := except_bind_eq_ok.mp h
  split at h
  · next page =>
    cases h
    exact .inl ⟨page ▸ told, rfl⟩
  · next noPage =>
    obtain ⟨scope, own, h⟩ := except_bind_eq_ok.mp h
    cases h
    refine .inr ⟨fun page => noPage ?_, scope, own, rfl, by simp [Nesting.depth, Nesting.enter]⟩
    exact Except.ok.inj (told.symm.trans page)

end ClassTable

/-- One object more, created under a contract: it is the last one, and stands where it belongs
unless its contract takes its place for itself. -/
structure World.Makes (world later : World β) (outcome : Outcome) (contract : TypeRef)
    (outer : Nesting) : Prop where
  last : outcome = .object world.objects.length
  count : later.objects.length = world.objects.length + 1
  stands : ∀ object, later.objects[world.objects.length]? = some object →
    later.classes.Leaves object.contract "scope_stack" →
      ∃ place, object.nesting = .proper place ∧ later.classes.Places contract outer place

theorem Factory.create_makes [Remote β] {factory : Factory} {contract : TypeRef} {outer : Nesting}
    {number : Nat} {world later : World β} (sound : world.Sound)
    (h : factory.create contract outer world = .ok number later) :
    world.Makes later (.object number) contract outer := by
  obtain ⟨implementation, settled, nesting, made, implemented, placed, set, rfl, objects,
    classes⟩ := createIn_eq_ok h
  have count : settled.objects.length = world.objects.length :=
    ((Compilation.implement_ensures _ _).of_eq_ok sound.settled implemented).1.count
  obtain ⟨place, found, rfl⟩ := placeIn_eq_ok.mp placed
  obtain ⟨same, -, stays, told, nesting⟩ := LiveObject.setUp_eq_ok set
  have contract' : made.contract = implementation.contract := congrArg Implementation.contract same
  refine ⟨by rw [count], by simp [objects, count], fun object listed leaves => ?_⟩
  obtain rfl : made = object := by simpa [objects, ← count] using listed
  rw [classes, contract'] at leaves
  have kept : stays = true := Except.ok.inj (told.symm.trans leaves)
  subst kept
  exact ⟨place, nesting, classes ▸ ClassTable.places_of_placeFor found⟩

namespace LiveObject

theorem called_no_object (table : ClassTable) (value : Value) (arguments : List Value)
    (number : Nat) (world later : World β) :
    (do return Outcome.ofValue (← Run.ofExcept (table.callMember value "create" arguments [])) :
      Run β Outcome) world ≠ .ok (.object number) later := by
  intro h
  obtain ⟨made, called, h⟩ := ofExcept_bind_eq_ok.mp h
  cases made with
  | object ref => exact ClassTable.callMember_objectless _ _ _ _ _ ref called
  | _ => cases h

variable [Remote β] {object : LiveObject} {world later : World β} {contract : TypeRef}
  {number : Nat}

/-- An object that has been created through an object was made by its factory, inside the object's own
place or outside of all panels. -/
theorem createThrough_eq_ok {inside : Bool}
    (h : object.createThrough (.type contract) inside world = .ok (.object number) later) :
    ∃ (factory : Factory) (outer : Nesting ⊕ Value),
      (if inside then object.heldAt world.classes "scope_stack" object.nesting
        else .ok (.inl .outermost)) = .ok outer ∧
      factory.createIn contract outer world = .ok number later := by
  replace h := get_bind_eq_ok.mp h
  obtain ⟨held, -, h⟩ := ofExcept_bind_eq_ok.mp h
  have creating {factory : Factory} {outer : Nesting ⊕ Value}
      (h : (do return .object (← factory.createIn contract outer) : Run β Outcome) world =
        .ok (.object number) later) : factory.createIn contract outer world = .ok number later := by
    obtain ⟨_, _, created, h⟩ := bind_eq_ok.mp h
    cases h
    exact created
  cases held with
  | inl factory =>
    cases inside with
    | false => exact ⟨factory, _, rfl, creating h⟩
    | true =>
      obtain ⟨outer, place, h⟩ := ofExcept_bind_eq_ok.mp h
      exact ⟨factory, outer, place, creating h⟩
  | inr value =>
    -- what merely passes for a factory gives no object
    obtain ⟨_, -, h⟩ := ofExcept_bind_eq_ok.mp h
    cases inside with
    | false => exact (called_no_object _ _ _ _ _ _ h).elim
    | true =>
      obtain ⟨outer, -, h⟩ := ofExcept_bind_eq_ok.mp h
      cases outer <;> exact (called_no_object _ _ _ _ _ _ h).elim

theorem makePanel_makes (sound : world.Sound) {outer : Nesting}
    (stands : object.nesting = .proper outer)
    (leaves : world.classes.Leaves object.contract "scope_stack")
    (h : object.makePanel (.type contract) world = .ok (.object number) later) :
    world.Makes later (.object number) contract outer := by
  have place : object.heldAt world.classes "scope_stack" object.nesting = .ok (.inl outer) := by
    rw [stands, heldAt_of_leaves leaves]
  obtain ⟨factory, _, found, created⟩ := createThrough_eq_ok h
  cases place.symm.trans found
  exact Factory.create_makes sound created

theorem navigateTo_makes (sound : world.Sound)
    (h : object.navigateTo (.type contract) world = .ok (.object number) later) :
    world.Makes later (.object number) contract .outermost := by
  obtain ⟨factory, _, found, created⟩ := createThrough_eq_ok h
  cases found
  exact Factory.create_makes sound created

end LiveObject

/-- A step of a program: to create an object, or to call an operation of one there is. -/
inductive Step where
  | create (factory : Factory) (contract : TypeRef) (stack : Option ScopeStack)
  | operate (number : Nat) (name : String) (positions : List Value)
      (named : List (String × Value))

namespace Step

variable [Remote β]

/-- Carry a step out. Where there is no such object, or the object has no such operation, it fails.
-/
def run : Step → Run β Outcome
  | .create factory contract stack => do
    return .object (← factory.create contract (.ofStack (stack.getD .empty)))
  | .operate number name positions named => do
    match (← get).objects[number]? with
    | some object =>
      if (object.implementation.methods.lookup name).isSome then
        object.call number name positions named
      else throw (.missing name)
    | none => throw (.missing name)

/-- The world after some steps, each of which may have failed. -/
def runAll (steps : List Step) (world : World β) : World β :=
  steps.foldl (fun world step => after step.run world) world

/-- An operation that succeeds has run the plan of its method. -/
theorem operate_eq_ok {world later : World β} {number : Nat} {object : LiveObject} {name : String}
    {method : Method} {positions : List Value} {named : List (String × Value)} {outcome : Outcome}
    (sound : world.Sound) (held : world.objects[number]? = some object)
    (found : object.implementation.methods.lookup name = some method)
    (h : (operate number name positions named).run world = .ok outcome later) :
    (world.refreshed object).attributes = [] ∧ ∃ arguments,
      (world.refreshed object).runPlan number method.plan arguments world = .ok outcome later := by
  obtain ⟨bare, operates⟩ := sound.objects object (List.mem_of_getElem? held)
  replace h := get_bind_eq_ok.mp h
  simp only [held, found, Option.isSome_some, if_true] at h
  rw [LiveObject.call_operation bare (LiveObject.operation_of_lookup operates found) found] at h
  have untouched : (world.refreshed object).attributes = [] := LiveObject.refreshed_untouched bare
  exact ⟨untouched, LiveObject.runMethod_eq_ok untouched h⟩

theorem run_ensures (step : Step) {start : World β} :
    Ensures (World.Onward start) step.run fun _ => True := by
  cases step with
  | create factory contract stack =>
    exact (factory.createIn_ensures contract _).bind fun _ _ => Ensures.pure trivial
  | operate number name positions named =>
    refine Ensures.get.bind fun world onward => ?_
    split
    · next object held =>
      obtain ⟨bare, operates⟩ := onward.sound.objects object (List.mem_of_getElem? held)
      split
      · next offered =>
        obtain ⟨method, found⟩ := Option.isSome_iff_exists.mp offered
        exact LiveObject.call_ensures bare operates found number
      · exact Ensures.throw _
    · exact Ensures.throw _

theorem onward_runAll (steps : List Step) {start world : World β} (h : Onward start world) :
    Onward start (runAll steps world) := by
  induction steps generalizing world with
  | nil => exact h
  | cons step rest ih => exact ih (step.run_ensures world h).1

end Step

namespace World

variable {world later : World β}

/-- How an operation of an object ends when it succeeds: with the very object, or with a new one in
its place. -/
def Concludes (world later : World β) (outcome : Outcome) (number : Nat) (object : LiveObject)
    (plan : CallPlan) : Prop :=
  match plan.ending with
  | none => later.objects = world.objects
  | some .void | some .self => outcome = .object number ∧ later.objects = world.objects
  | some .panel =>
    ∀ outer made, object.nesting = .proper outer →
      world.classes.Leaves object.contract "scope_stack" → outcome = .object made →
        world.Makes later outcome (plan.target.getD .nothing) outer
  | some .page =>
    ∀ made, outcome = .object made →
      world.Makes later outcome (plan.target.getD .nothing) .outermost

theorem Concludes.of_refreshed {outcome : Outcome} {number : Nat} {object : LiveObject}
    {plan : CallPlan} (h : world.Concludes later outcome number (world.refreshed object) plan) :
    world.Concludes later outcome number object plan := by
  unfold Concludes at h ⊢
  split <;> simp only [*] at h
  · exact h
  · exact h
  · exact h
  · intro outer made stands
    refine h outer made ?_
    simp [World.refreshed, LiveObject.mapValues, stands]
  · exact h

/-- A world in which nothing has been made. -/
structure Fresh (world : World β) : Prop where
  objects : world.objects = []
  compiled : world.compiled = []
  implementations : world.implementations = []

theorem Fresh.sound (h : world.Fresh) : world.Sound :=
  ⟨by simp [h.compiled], by simp [h.implementations], by simp [h.objects]⟩

variable [Remote β]

/-- Whatever is done next, objects stay in their places and new ones get theirs. -/
structure PlacesObjects (world : World β) : Prop where
  stays : ∀ steps number place, world.StandsIn number place →
    (Step.runAll steps world).StandsIn number place
  creates : ∀ factory contract stack outcome later,
    (Step.create factory contract stack).run world = .ok outcome later →
      world.Makes later outcome contract (.ofStack (stack.getD .empty))
  operates : ∀ number name positions named object method outcome later,
    world.objects[number]? = some object →
      object.implementation.methods.lookup name = some method →
        (Step.operate number name positions named).run world = .ok outcome later →
          world.Concludes later outcome number object method.plan

theorem concludes_of_runPlan (sound : world.Sound) {object : LiveObject}
    (bare : object.attributes = []) {number : Nat} {plan : CallPlan} {arguments : List Value}
    {outcome : Outcome} (h : object.runPlan number plan arguments world = .ok outcome later) :
    world.Concludes later outcome number object plan := by
  obtain ⟨result, middle, called, h⟩ := bind_eq_ok.mp h
  have moved : SameInside world middle := (object.runCalls_stays_outside _ _ _ _).of_eq_ok called
  have sound' : middle.Sound := (sound.settled.inside moved).sound
  have lift {outcome : Outcome} {contract : TypeRef} {outer : Nesting}
      (makes : middle.Makes later outcome contract outer) :
      world.Makes later outcome contract outer := by
    have same : world.objects = middle.objects := moved.objects_eq.symm
    exact ⟨same ▸ makes.last, same ▸ makes.count, same ▸ makes.stands⟩
  unfold Concludes
  unfold LiveObject.finish at h
  cases ending : plan.ending with
  | none =>
    rw [ending] at h
    cases h
    exact moved.objects_eq
  | some kind =>
    simp only [ending, LiveObject.orInstead_of_untouched bare] at h
    cases kind with
    | void =>
      cases h
      exact ⟨rfl, moved.objects_eq⟩
    | self =>
      cases h
      exact ⟨rfl, moved.objects_eq⟩
    | panel =>
      rintro outer made stands leaves rfl
      rw [← moved.classes_eq] at leaves
      exact lift (LiveObject.makePanel_makes sound' stands leaves h)
    | page =>
      rintro made rfl
      exact lift (LiveObject.navigateTo_makes sound' h)

theorem Sound.placesObjects (sound : world.Sound) : world.PlacesObjects where
  stays steps number place stands :=
    (Step.onward_runAll steps sound.onward).places number place stands
  creates factory contract stack outcome later h := by
    obtain ⟨number, _, created, h⟩ := bind_eq_ok.mp h
    cases h
    exact Factory.create_makes sound created
  operates number name positions named object method outcome later held found h := by
    obtain ⟨bare, arguments, ran⟩ := Step.operate_eq_ok sound held found h
    exact (concludes_of_runPlan sound bare ran).of_refreshed

/-- However objects have been created and operated on since nothing was there, each of them stays
where it was put. -/
theorem placesObjects_of_run {start : World β} (fresh : start.Fresh) (steps : List Step) :
    (Step.runAll steps start).PlacesObjects :=
  (Step.onward_runAll steps fresh.sound.onward).sound.placesObjects

end World

namespace Boxes

/-- The class of what takes the values it is to be replaced by. -/
def keeper : ClassRef := { number := 0, name := "Keeper" }

/-- A class of such things. -/
def kept : ClassRef := { number := 1, name := "Kept" }

/-- The class of open boxes. -/
def tray : ClassRef := { number := 2, name := "Tray" }

/-- The class of boxes that have something under the name of their place. -/
def box : ClassRef := { number := 3, name := "Box" }

/-- The scope of trays and boxes. -/
def scope : LocatorDescriptor := { kind := .id, template := "box-" }

/-- The operation of trays and boxes. -/
def lid : String × Member :=
  ("click_lid", .function
    { name := "click_lid", locator := some { kind := .id, template := "lid" } })

/-- Two panels and what one of them holds. -/
def classes : ClassTable where
  classes := [
    { ref := keeper, key := "Keeper", ancestry := [.defined keeper]
      members := [("__set__", .function
        { name := "__set__", parameters := [{ name := "owner" }, { name := "value" }] })] },
    { ref := kept, key := "Kept", ancestry := [.defined kept, .defined keeper]
      fields := some [] },
    { ref := tray, key := "Tray", ancestry := [.defined tray, .panel]
      members := [lid, (scopeMember, .locator scope)] },
    { ref := box, key := "Box", ancestry := [.defined box, .panel]
      members := [("scope_stack", .constant (.record kept [] {} none)), lid,
        (scopeMember, .locator scope)] }]

/-- A world in which nothing has happened. -/
def world : World ScriptedBrowser where
  browser := {}
  clock := default
  classes := classes

/-- A factory that rehearses. -/
def factory : Factory := { session := { page := 0 }, actions := .rehearsed [] [] }

/-- The locator of the row that a tray lies in. -/
def row : LocatorDescriptor := { kind := .id, template := "row-" }

/-- The creation of a tray in a row. -/
def layTray : Step := .create factory (.defined tray) (some ⟨[row]⟩)

theorem fresh : world.Fresh := ⟨rfl, rfl, rfl⟩

/-- A tray lies in its row, also after its lid has been clicked. -/
theorem tray_lies_in_row :
    (Step.runAll [.operate 0 "click_lid" [] []] (Step.runAll [layTray] world)).StandsIn 0
      ⟨[.locator row, .locator scope]⟩ :=
  (World.placesObjects_of_run fresh [layTray]).stays _ 0 _ ⟨_, rfl, rfl⟩

/-- A box takes its place for itself, and stands nowhere. -/
theorem box_stands_nowhere :
    world.Fresh ∧ ∃ later,
      (Step.create factory (.defined box) none).run world = .ok (.object 0) later ∧
        ∀ place, ¬later.StandsIn 0 place := by
  refine ⟨fresh, _, rfl, ?_⟩
  rintro place ⟨object, found, stands⟩
  cases found
  cases stands

end Boxes
end PageContracts
