import PageContracts.Proofs.Exposure

/-! # Fluent operations

An operation that returns its own contract gives back the object it is called on. Whether it does is told
by the contract that is compiled and not by the one that declares the operation, so an operation that is
inherited with what it returns makes a new object of the ancestor each time it is called. -/
namespace PageContracts

open Runs
open World (SameInside)

variable {β : Type}

namespace Operation

/-- What a function of a contract declares, read while the contract goes by some name of its own, is that
it returns a class. -/
structure Returns (contract : ClassRef) (f : DeclaredFunction) (own returned : ClassRef)
    (operation : Operation) : Prop where
  reading : ∃ memory later declared change, read contract f memory = .ok declared later ∧
    own = later.table.current (memory.table.current contract) ∧
    declared.returnType = some (.defined returned) ∧ operation = declared.mapClasses change

theorem read_eq_ok {contract : ClassRef} {f : DeclaredFunction} {operation : Operation}
    {memory later : Language.Memory} (h : read contract f memory = .ok operation later) :
    classifyReturn later.table (.defined (later.table.current (memory.table.current contract)))
      operation.returnType = .ok operation.returnKind := by
  replace h := get_bind_eq_ok.mp h
  obtain ⟨⟨types, returned⟩, _, -, h⟩ := bind_eq_ok.mp h
  obtain ⟨_, -, h⟩ := lift_bind_eq_ok h
  replace h := get_bind_eq_ok.mp h
  obtain ⟨kind, classified, h⟩ := lift_bind_eq_ok h
  cases h
  exact classified

theorem classifyReturn_self {table : ClassTable} {own : ClassRef} {kind : Option ReturnKind}
    (h : classifyReturn table (.defined own) (some (.defined own)) = .ok kind) :
    kind = some .self := by
  rw [classifyReturn, if_neg nofun, if_pos rfl] at h
  exact (Except.ok.inj h).symm

/-- A class other than the contract itself is returned as a page or a panel, if it is a contract at all.
-/
theorem classifyReturn_other {table : ClassTable} {own returned : ClassRef} {kind : Option ReturnKind}
    (other : returned ≠ own)
    (h : classifyReturn table (.defined own) (some (.defined returned)) = .ok kind) :
    kind = none ∨ kind = some .page ∨ kind = some .panel := by
  have differ : TypeRef.defined returned ≠ .defined own := fun same => other (TypeRef.defined.inj same)
  rw [classifyReturn, if_neg nofun, if_neg differ] at h
  obtain ⟨isContract, -, h⟩ := except_bind_eq_ok.mp h
  split at h
  · cases h
    exact .inl rfl
  · obtain ⟨capability, -, h⟩ := except_bind_eq_ok.mp h
    split at h
    · cases h
      exact .inr (.inl rfl)
    · cases h
      exact .inr (.inr rfl)
    · cases h
      exact .inl rfl

variable {contract own returned : ClassRef} {f : DeclaredFunction} {operation : Operation}

theorem Returns.returnType_eq (h : Returns contract f own returned operation) :
    ∃ renamed, operation.returnType = some (.defined renamed) := by
  obtain ⟨_, _, declared, change, -, -, returns, rfl⟩ := h.reading
  exact ⟨change returned, by rw [mapClasses, returns]; rfl⟩

theorem Returns.kind_self (h : Returns contract f own returned operation) (itself : returned = own) :
    operation.returnKind = some .self := by
  subst itself
  obtain ⟨_, _, declared, change, reading, rfl, returns, rfl⟩ := h.reading
  have classified := read_eq_ok reading
  rw [returns] at classified
  exact classifyReturn_self classified

theorem Returns.kind_other (h : Returns contract f own returned operation) (other : returned ≠ own)
    (standard : operation.returnsStandard) :
    operation.returnKind = some .page ∨ operation.returnKind = some .panel := by
  obtain ⟨_, _, declared, change, reading, rfl, returns, rfl⟩ := h.reading
  have classified := read_eq_ok reading
  rw [returns] at classified
  rcases classifyReturn_other other classified with none | made
  · have absent : (declared.mapClasses change).returnKind = Option.none := none
    rw [returnsStandard, absent] at standard
    cases standard
  · exact made

end Operation

/-- An operation that returns a class ends in the way its declaration says. -/
theorem Rule.ending_of_returns {table : ClassTable} {operation : Operation} {rule : Rule}
    {returned : ClassRef} (selected : Registry.select {} table operation = .ok rule)
    (returns : operation.returnType = some (.defined returned)) :
    rule.ending operation = operation.returnKind ∧ operation.returnsStandard = true := by
  obtain ⟨listed, accepted⟩ := Registry.accepts_of_select selected
  simp only [Rule.standard, List.mem_cons, List.not_mem_nil, or_false] at listed
  rcases listed with rfl | rfl | rfl | rfl
  · exact ⟨rfl, Rule.standard_of_accepts accepted (.inl rfl)⟩
  · have reads : operation.returnType = some .text := by
      simp only [Rule.accepts, Rule.matchesShape, Bool.and_eq_true, decide_eq_true_eq] at accepted
      exact accepted.1.2
    rw [returns] at reads
    cases reads
  · exact ⟨rfl, Rule.standard_of_accepts accepted (.inr (.inl rfl))⟩
  · exact ⟨rfl, Rule.standard_of_accepts accepted (.inr (.inr rfl))⟩

/-- An operation that returns a class ends with the object itself when the class is the contract that is
compiled, and with a page or a panel when it is another one. -/
theorem Implements.ending {table : ClassTable} {contract own returned : ClassRef}
    {read : List (DeclaredFunction × Operation)} {f : DeclaredFunction} {plan : CallPlan}
    (h : Implements table contract read f plan)
    (returns : Operation.Returns contract f own returned plan.operation) :
    (returned = own → plan.ending = some .self) ∧
      (returned ≠ own → plan.ending = some .page ∨ plan.ending = some .panel) := by
  obtain ⟨operation, rule, -, -, selected, rfl⟩ := h
  replace returns : Operation.Returns contract f own returned operation := returns
  obtain ⟨renamed, returned⟩ := returns.returnType_eq
  obtain ⟨ends, standard⟩ := Rule.ending_of_returns selected returned
  have ends : (rule.plan table operation).ending = operation.returnKind := ends
  rw [ends]
  exact ⟨returns.kind_self, fun other => returns.kind_other other standard⟩

variable [Remote β] {world later : World β} {reached : Nat}

/-- A new object is the last one there is. -/
theorem Factory.createIn_last (sound : world.Sound) {factory : Factory} {contract : TypeRef}
    {outer : Nesting ⊕ Value} (h : factory.createIn contract outer world = .ok reached later) :
    reached = world.objects.length ∧ later.objects.length = world.objects.length + 1 := by
  obtain ⟨_, settled, _, _, implemented, -, -, rfl, objects, -⟩ := createIn_eq_ok h
  have count : settled.objects.length = world.objects.length :=
    ((Compilation.implement_ensures _ _).of_eq_ok sound.settled implemented).1.count
  exact ⟨count, by simp [objects, count]⟩

namespace LiveObject

variable {object : LiveObject} {number : Nat} {plan : CallPlan} {outcome : Outcome}

/-- A plan that ends with a page or a panel ends with the last object there is, or with none. -/
theorem runPlan_last (sound : world.Sound) (bare : object.attributes = [])
    {arguments : List Value} (ends : plan.ending = some .page ∨ plan.ending = some .panel)
    (h : object.runPlan number plan arguments world = .ok (.object reached) later) :
    reached = world.objects.length ∧ later.objects.length = world.objects.length + 1 := by
  obtain ⟨result, middle, called, h⟩ := bind_eq_ok.mp h
  have moved : SameInside world middle := (object.runCalls_stays_outside _ _ _ _).of_eq_ok called
  rw [← congrArg List.length moved.objects_eq]
  have sound : middle.Sound := (sound.settled.inside moved).sound
  unfold finish at h
  rcases ends with ends | ends
  all_goals
    simp only [ends, orInstead_of_untouched bare] at h
    obtain ⟨factory, outer, -, created⟩ := createThrough_eq_ok h
    exact Factory.createIn_last sound created

end LiveObject

/-- How a call of an operation that returns a class ends when it succeeds: with the very object, and no
other one than before, just when that class is the contract of the object; and otherwise with a new
object, if with an object at all. -/
structure World.EndsWith (now later : World β) (outcome : Outcome) (number : Nat)
    (own returned : ClassRef) : Prop where
  itself : (outcome = .object number ∧ later.objects = now.objects) ↔ returned = own
  another : returned ≠ own → ∀ reached, outcome = .object reached →
    reached = now.objects.length ∧ later.objects.length = now.objects.length + 1

/-- Whether an operation of an object gives back the object itself is told by the contract that the
object is created under, wherever the operation is declared: it does just when its declaration
returns that very contract. What is inherited from an ancestor that returns itself makes a new object
of the ancestor with every call, in the place where such an object belongs. -/
theorem World.endsWith_of_create {factory : Factory} {contract : ClassRef} {outer : Nesting}
    {start ready : World β} {number : Nat} {made : LiveObject} {name : String} {method : Method}
    (unknown : Compilation.cached? start contract = none)
    (unbuilt : Compilation.implemented? start (.defined contract) factory.base = none)
    (created : factory.create (.defined contract) outer start = .ok number ready)
    (standing : ready.objects[number]? = some made)
    (found : made.implementation.methods.lookup name = some method) :
    ∃ read memory f, Operation.sources contract start.memory = .ok read memory ∧
      lastNamed name (read.map Prod.fst) = some f ∧
      ∀ own returned, Operation.Returns contract f own returned method.plan.operation →
        ∀ (now later : World β) number object positions named outcome, now.Sound →
          now.objects[number]? = some object → object.implementation = made.implementation →
            (Step.operate number name positions named).run now = .ok outcome later →
              now.EndsWith later outcome number own returned ∧
                now.Concludes later outcome number object method.plan := by
  obtain ⟨implementation, settled, _, equipped, implemented, -, set, rfl, objects, -⟩ :=
    Factory.createIn_eq_ok created
  obtain rfl : equipped = made := by simpa [objects] using standing
  have built : equipped.implementation = implementation := (LiveObject.setUp_eq_ok set).1
  rw [built] at found ⊢
  obtain ⟨compiled, _, compiling, -, made⟩ := Compilation.implement_eq_ok unbuilt implemented
  obtain ⟨read, memory, sourced, known⟩ := Compilation.compile_eq_ok unknown compiling
  obtain ⟨_, planned, rfl, -⟩ := made.methods.lookup_right found
  obtain ⟨f, source, implements⟩ := known.plans.lookup_right planned
  rw [lookup_byName] at source
  refine ⟨read, memory, f, sourced, source, ?_⟩
  rintro own returned returns now later number object positions named outcome sound held rfl called
  obtain ⟨itself, other⟩ := implements.ending returns
  obtain ⟨bare, arguments, ran⟩ := Step.operate_eq_ok sound held found called
  have concludes := World.concludes_of_runPlan sound bare ran
  have another (differs : returned ≠ own) (reached : Nat) (ended : outcome = .object reached) :
      reached = now.objects.length ∧ later.objects.length = now.objects.length + 1 :=
    LiveObject.runPlan_last sound bare (other differs) (ended ▸ ran)
  refine ⟨⟨⟨?_, fun same => ?_⟩, another⟩, concludes.of_refreshed⟩
  · rintro ⟨ended, -⟩
    by_contra differs
    obtain ⟨last, -⟩ := another differs number ended
    have among := (List.getElem?_eq_some_iff.mp held).1
    omega
  · unfold World.Concludes at concludes
    rw [itself same] at concludes
    exact concludes

end PageContracts

namespace PageContracts.Cards

open Runs

/-- The class of cards, which lead to the next card. -/
def card : ClassRef := { number := 0, name := "Card" }

/-- The class of offers, which are cards. -/
def offer : ClassRef := { number := 1, name := "Offer" }

/-- The scope of cards. -/
def scope : LocatorDescriptor := { kind := .id, template := "card-" }

/-- The operation that leads to the next card. -/
def next : DeclaredFunction where
  name := "click_next"
  locator := some { kind := .id, template := "next" }
  returns := some "Card"

/-- Two panels, one of which descends from the other. -/
def classes : ClassTable where
  classes := [
    { ref := card, key := "Card", ancestry := [.defined card, .panel]
      members := [("click_next", .function next), (scopeMember, .locator scope)] },
    { ref := offer, key := "Offer", ancestry := [.defined offer, .defined card, .panel] }]

/-- A world in which nothing has happened. -/
def world : World ScriptedBrowser where
  browser := {}
  clock := default
  classes := classes

/-- A factory that rehearses. -/
def factory : Factory := { session := { page := 0 }, actions := .rehearsed [] [] }

theorem fresh : world.Fresh := ⟨rfl, rfl, rfl⟩

/-- The world after a card of some contract has been laid. -/
def laid (contract : ClassRef) : World ScriptedBrowser :=
  after (factory.create (.defined contract) .outermost) world

/-- How many panels deep an object stands. -/
def depthOf (world : World ScriptedBrowser) (number : Nat) : Option Nat :=
  match world.objects[number]?.map LiveObject.nesting with
  | some (.proper place) => some place.depth
  | _ => none

/-- What leads from a card to the next one gives back the card itself. -/
theorem card_stays :
    ∃ made method, factory.create (.defined card) .outermost world = .ok 0 (laid card) ∧
      (laid card).objects[0]? = some made ∧
      made.implementation.methods.lookup "click_next" = some method ∧
      Operation.Returns card next card card method.plan.operation ∧
      ∃ later, (Step.operate 0 "click_next" [] []).run (laid card) = .ok (.object 0) later ∧
        later.objects = (laid card).objects := by
  have created : factory.create (.defined card) .outermost world = .ok 0 (laid card) := rfl
  obtain ⟨made, method, standing, found, returns⟩ :
      ∃ made method, (laid card).objects[0]? = some made ∧
        made.implementation.methods.lookup "click_next" = some method ∧
        Operation.Returns card next card card method.plan.operation :=
    ⟨_, _, rfl, rfl, ⟨world.memory, _, _, id, rfl, rfl, rfl, rfl⟩⟩
  obtain ⟨read, memory, f, sourced, source, ends⟩ :=
    World.endsWith_of_create rfl rfl created standing found
  obtain rfl : f = next := by
    cases sourced
    cases source
    rfl
  have sound : (laid card).Sound :=
    ((factory.createIn_ensures _ _).of_eq_ok fresh.sound.onward created).1.sound
  have succeeds : failure? ((Step.operate 0 "click_next" [] []).run (laid card)) = none := by rfl
  refine ⟨made, method, created, standing, found, returns, ?_⟩
  cases ran : (Step.operate 0 "click_next" [] []).run (laid card) with
  | error => simp [ran, failure?] at succeeds
  | ok outcome later =>
    obtain ⟨ended, -⟩ := ends _ _ returns _ _ _ _ _ _ _ sound standing rfl ran
    obtain ⟨rfl, same⟩ := ended.itself.mpr rfl
    exact ⟨later, rfl, same⟩

/-- What leads from an offer to the next card makes a new card inside the place of the offer. -/
theorem offer_left :
    ∃ made method, factory.create (.defined offer) .outermost world = .ok 0 (laid offer) ∧
      (laid offer).objects[0]? = some made ∧
      made.implementation.methods.lookup "click_next" = some method ∧
      Operation.Returns offer next offer card method.plan.operation ∧
      ∃ later, (Step.operate 0 "click_next" [] []).run (laid offer) = .ok (.object 1) later ∧
        depthOf (laid offer) 0 = some 1 ∧ depthOf later 1 = some 2 := by
  have ran : (Step.operate 0 "click_next" [] []).run (laid offer) =
    .ok (.object 1) (after (Step.operate 0 "click_next" [] []).run (laid offer)) := by rfl
  refine ⟨_, _, rfl, rfl, rfl, ⟨world.memory, _, _, id, rfl, rfl, rfl, rfl⟩, _, ran, ?_, ?_⟩
  · decide +kernel
  · decide +kernel

end PageContracts.Cards
