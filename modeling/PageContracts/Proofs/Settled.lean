import PageContracts.Proofs.Creation
import PageContracts.Proofs.Selection

/-! # Compiling leaves objects in their places

Building the implementation of a contract reads annotations, which may rename classes, and fills the
caches. The objects stay what they are and stand where they stood, and no method is named like one
of the attributes that every object has. -/
namespace PageContracts

open Runs
open World (SameInside)

variable {β : Type}

/-- A name that some rule takes for that of an operation. -/
def IsOperationName (name : String) : Prop :=
  ∃ rule ∈ Rule.standard, Rule.namedAfter rule.verb.toList name.toList = true

/-- All methods of an implementation are named like operations. -/
def Implementation.Operates (implementation : Implementation) : Prop :=
  ∀ entry ∈ implementation.methods, IsOperationName entry.1

namespace World

/-- What is cached has the names of operations, and nobody has tampered with an object. -/
structure Sound (world : World β) : Prop where
  compiled : ∀ compiled ∈ world.compiled, ∀ entry ∈ compiled.plans, IsOperationName entry.1
  implementations : ∀ implementation ∈ world.implementations, implementation.Operates
  objects : ∀ object ∈ world.objects, object.attributes = [] ∧ object.implementation.Operates

/-- The object of a number stands in a place. -/
def StandsIn (world : World β) (number : Nat) (place : Nesting) : Prop :=
  ∃ object, world.objects[number]? = some object ∧ object.nesting = .proper place

/-- Every object stands where it stood. -/
def KeepsPlaces (before later : World β) : Prop :=
  ∀ number place, before.StandsIn number place → later.StandsIn number place

/-- A world in order that has the objects of another one, each where it stood. -/
structure Settled (start world : World β) : Prop where
  sound : world.Sound
  count : world.objects.length = start.objects.length
  places : KeepsPlaces start world

variable {start world later : World β}

theorem Sound.settled (h : world.Sound) : Settled world world :=
  ⟨h, rfl, fun _ _ stands => stands⟩

theorem Settled.inside (h : Settled start world) (moved : SameInside world later) :
    Settled start later := by
  obtain ⟨⟨compiled, implementations, objects⟩, count, places⟩ := h
  refine ⟨⟨?_, ?_, ?_⟩, ?_, ?_⟩
  · rw [moved.compiled_eq]
    exact compiled
  · rw [moved.implementations_eq]
    exact implementations
  · rw [moved.objects_eq]
    exact objects
  · rw [moved.objects_eq]
    exact count
  · unfold KeepsPlaces StandsIn
    rw [moved.objects_eq]
    exact places

theorem Settled.mapClasses (h : Settled start world) (change : ClassRef → ClassRef) :
    Settled start (world.mapClasses change) := by
  obtain ⟨⟨compiled, implementations, objects⟩, count, places⟩ := h
  refine ⟨⟨?_, ?_, ?_⟩, ?_, ?_⟩
  · intro renamed listed entry named
    obtain ⟨before, known, rfl⟩ := List.mem_map.mp listed
    obtain ⟨plan, planned, rfl⟩ := List.mem_map.mp named
    exact compiled before known plan planned
  · intro renamed listed entry named
    obtain ⟨before, known, rfl⟩ := List.mem_map.mp listed
    obtain ⟨method, built, rfl⟩ := List.mem_map.mp named
    exact implementations before known method built
  · intro renamed listed
    obtain ⟨before, known, rfl⟩ := List.mem_map.mp listed
    obtain ⟨bare, operates⟩ := objects before known
    refine ⟨by simp [LiveObject.mapValues, bare], fun entry named => ?_⟩
    obtain ⟨method, built, rfl⟩ := List.mem_map.mp named
    exact operates method built
  · simpa [World.mapClasses] using count
  · intro number place stands
    obtain ⟨object, found, proper⟩ := places number place stands
    refine ⟨_, by rw [World.mapClasses, List.getElem?_map, found]; rfl, ?_⟩
    simp [LiveObject.mapValues, proper]

theorem Settled.afterReading (h : Settled start world) (memory : Language.Memory) :
    Settled start (world.afterReading memory) := by
  unfold World.afterReading
  have renamed : Settled start
      { world with classes := memory.table, language := { memory with table := {} } } :=
    ⟨⟨h.sound.compiled, h.sound.implementations, h.sound.objects⟩, h.count, h.places⟩
  dsimp only
  split
  · exact renamed.mapClasses _
  · exact renamed

theorem after_reading {α : Type} (run : Language.Eval α) (world : World β) :
    after (Run.reading run) world = world.afterReading (after run world.memory) := by
  unfold after Run.reading
  cases run world.memory <;> rfl

theorem settled_reading {α : Type} (run : Language.Eval α) :
    Ensures (Settled start) (Run.reading run : Run β α) fun _ => True := by
  refine Ensures.of_moves fun world h => ?_
  rw [after_reading]
  exact h.afterReading _

theorem settled_of_staysOutside {α : Type} {run : Run β α} (h : StaysOutside run) :
    Ensures (Settled start) run fun _ => True :=
  Ensures.of_moves fun world settled => settled.inside (h world)

end World

open World (Settled after_reading settled_reading settled_of_staysOutside)

theorem mem_assign {α : Type} {name : String} {value : α} {entries : List (String × α)}
    {entry : String × α} (h : entry ∈ assign name value entries) :
    entry = (name, value) ∨ entry ∈ entries := by
  induction entries with
  | nil => simpa [assign] using h
  | cons first rest ih =>
    unfold assign at h
    split at h
    · rcases List.mem_cons.mp h with rfl | listed
      · exact .inl rfl
      · exact .inr (List.mem_cons_of_mem _ listed)
    · rcases List.mem_cons.mp h with rfl | listed
      · exact .inr List.mem_cons_self
      · rcases ih listed with new | old
        · exact .inl new
        · exact .inr (List.mem_cons_of_mem _ old)

namespace Compilation

variable {start : World β}

section Moves

variable {R : World β → World β → Prop} [IsPreorder (World β) R]

/-- Compiling an operation does nothing but log. -/
theorem compileOperation_moves (logs : ∀ level message, Moves R (Run.log level message))
    (registry : Registry) (operation : Operation) :
    Moves R (compileOperation registry operation) := by
  refine Moves.get.bind fun world => Moves.bind ?_ fun _ => (Moves.ofExcept _).bind fun rule => ?_
  · induction registry.rules with
    | nil => exact Moves.pure _
    | cons rule rest ih => exact (Moves.ofExcept _).bind fun _ => ih
  · exact (Moves.ofExcept _).bind fun _ => (logs _ _).bind fun _ => Moves.pure _

theorem compileOperations_moves (logs : ∀ level message, Moves R (Run.log level message))
    (registry : Registry) (operations : List Operation) (plans : List (String × CallPlan)) :
    Moves R (compileOperations registry operations plans) := by
  induction operations generalizing plans with
  | nil => exact Moves.pure _
  | cons operation rest ih =>
    exact (compileOperation_moves logs registry operation).bind fun plan => ih _

/-- Once the annotations of a contract have been read, compiling it does nothing but log. -/
theorem compileAfresh_moves (logs : ∀ level message, Moves R (Run.log level message))
    {contract : ClassRef} {world : World β}
    (reads : R world (after (Run.reading (Operation.declared (.defined contract))) world)) :
    R world (after (compileAfresh contract) world) := by
  refine Moves.after_bind reads fun operations => Moves.get.bind fun world => ?_
  dsimp only
  split
  · exact Moves.throw_bind _ _
  · refine (compileOperations_moves logs {} operations []).bind fun plans => ?_
    refine (Moves.ofExcept _).bind fun members => (logs _ _).bind fun _ => ?_
    exact Moves.get.bind fun _ => Moves.pure _

end Moves

theorem named_of_compiled {operation : Operation} {plan : CallPlan} {world later : World β}
    (h : compileOperation {} operation world = .ok plan later) :
    IsOperationName operation.name := by
  obtain ⟨rule, selected, -, -, -⟩ := compileOperation_eq_ok h
  obtain ⟨listed, accepted⟩ := Registry.accepts_of_select selected
  exact ⟨rule, listed, Rule.named_of_accepts accepted⟩

theorem compileOperation_ensures (operation : Operation) :
    Ensures (Settled start) (compileOperation {} operation) fun _ =>
      IsOperationName operation.name := by
  intro world settled
  have outside : StaysOutside (compileOperation {} operation : Run β CallPlan) :=
    compileOperation_moves StaysOutside.log _ _
  refine ⟨(settled_of_staysOutside outside world settled).1, ?_⟩
  exact fun plan later compiled => named_of_compiled compiled

theorem compileOperations_ensures (operations : List Operation) {plans : List (String × CallPlan)}
    (named : ∀ entry ∈ plans, IsOperationName entry.1) :
    Ensures (Settled start) (compileOperations {} operations plans) fun plans =>
      ∀ entry ∈ plans, IsOperationName entry.1 := by
  induction operations generalizing plans with
  | nil => exact Ensures.pure named
  | cons operation rest ih =>
    refine (compileOperation_ensures operation).bind fun plan verbal => ih fun entry listed => ?_
    rcases mem_assign listed with rfl | old
    · exact verbal
    · exact named entry old

theorem compileAfresh_ensures (contract : ClassRef) :
    Ensures (Settled start) (compileAfresh contract) fun compiled =>
      ∀ entry ∈ compiled.plans, IsOperationName entry.1 := by
  refine (settled_reading _).bind fun operations _ => Ensures.get.bind fun world _ => ?_
  dsimp only
  split
  · exact Ensures.throw_bind _ _
  · refine (compileOperations_ensures operations (by simp)).bind fun plans named => ?_
    refine (Ensures.check _).bind fun members _ => ?_
    refine (settled_of_staysOutside (StaysOutside.log _ _)).bind fun _ _ => ?_
    exact Ensures.get.bind fun _ _ => Ensures.pure named

theorem compile_ensures (type : TypeRef) :
    Ensures (Settled start) (compile type) fun compiled =>
      ∀ entry ∈ compiled.plans, IsOperationName entry.1 := by
  cases type with
  | defined contract =>
    refine Ensures.get.bind fun world settled => ?_
    cases cached : cached? world contract with
    | some compiled =>
      exact Ensures.pure (settled.sound.compiled compiled (List.mem_of_find?_eq_some cached))
    | none =>
      refine (compileAfresh_ensures contract).bind fun compiled named => ?_
      refine (Ensures.modify fun before settled => ?_).bind fun _ _ => Ensures.pure named
      obtain ⟨sound, count, places⟩ := settled
      refine ⟨⟨fun other listed => ?_, sound.implementations, sound.objects⟩, count, places⟩
      rcases List.mem_append.mp listed with old | new
      · exact sound.compiled other old
      · rw [List.mem_singleton.mp new]
        exact named
  | _ => exact Ensures.throw _

/-- A method goes by the name of its plan, and takes the parameters of the member of that name. -/
theorem methodOf_eq_ok {table : ClassTable} {compiled : CompiledContract}
    {entry : String × CallPlan} {built : String × Method}
    (h : methodOf table compiled entry = .ok built) :
    ∃ found signature, compiled.members.lookup entry.1 = some found ∧
      signatureOf table found = .ok signature ∧
      built = (entry.1, { plan := entry.2, signature }) := by
  unfold methodOf at h
  cases exposed : compiled.members.lookup entry.1 with
  | none =>
    rw [exposed] at h
    cases h
  | some found =>
    cases taken : signatureOf table found with
    | error failure =>
      simp only [exposed, taken] at h
      cases h
    | ok signature =>
      simp only [exposed, taken] at h
      cases h
      exact ⟨found, signature, rfl, taken, rfl⟩

/-- The methods have the names of the plans, in their order. -/
theorem methods_named {table : ClassTable} {compiled : CompiledContract}
    {methods : List (String × Method)}
    (h : compiled.plans.mapM (methodOf table compiled) = .ok methods) :
    compiled.plans.map Prod.fst = methods.map Prod.fst := by
  rw [← List.forall₂_eq_eq_eq, List.forall₂_map_left_iff, List.forall₂_map_right_iff]
  refine (mapM_eq_ok h).imp fun entry built made => ?_
  obtain ⟨_, _, -, -, rfl⟩ := methodOf_eq_ok made
  rfl

theorem implement_ensures (type : TypeRef) (base : BaseClass) :
    Ensures (Settled start) (implement type base) Implementation.Operates := by
  refine Ensures.get.bind fun world settled => ?_
  cases built : implemented? world type base with
  | some implementation =>
    refine Ensures.pure (settled.sound.implementations implementation ?_)
    exact List.mem_of_find?_eq_some built
  | none =>
    refine (compile_ensures type).bind fun compiled named => Ensures.get.bind fun world _ => ?_
    dsimp only
    split
    · exact Ensures.throw_bind _ _
    · refine (Ensures.ofExcept fun methods made => methods_named made).bind fun methods same => ?_
      refine (Ensures.check _).bind fun _ _ => ?_
      have operates : ∀ entry ∈ methods, IsOperationName entry.1 := by
        intro entry listed
        have listed : entry.1 ∈ compiled.plans.map Prod.fst := same ▸ List.mem_map_of_mem listed
        obtain ⟨plan, planned, equal⟩ := List.mem_map.mp listed
        exact equal ▸ named plan planned
      refine Ensures.get.bind fun numbering _ => ?_
      refine (Ensures.modify fun before settled => ?_).bind fun _ _ => Ensures.pure operates
      obtain ⟨sound, count, places⟩ := settled
      refine ⟨⟨sound.compiled, fun other listed => ?_, sound.objects⟩, count, places⟩
      rcases List.mem_append.mp listed with old | new
      · exact sound.implementations other old
      · rw [List.mem_singleton.mp new]
        exact operates

end Compilation
end PageContracts
