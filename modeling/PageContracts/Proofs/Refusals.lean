import PageContracts.Proofs.ActingMishaps
import PageContracts.Proofs.Caching
import PageContracts.Proofs.Places

/-! # Refusals

A contract that cannot be compiled is refused when an object of it is to be made: on creation before
anything else is done, but at the end of an operation only after all its primitive calls. -/
namespace PageContracts

open Runs

variable {β : Type}

namespace World

/-- Nothing has been told to the browser, no action has been noted, and there is no object more. -/
structure Quiet (before later : World β) : Prop where
  browser : later.browser = before.browser
  events : later.events = before.events
  count : later.objects.length = before.objects.length

instance : IsPreorder (World β) Quiet where
  refl _ := ⟨rfl, rfl, rfl⟩
  trans _ _ _ hab hbc := ⟨hbc.browser.trans hab.browser, hbc.events.trans hab.events,
    hbc.count.trans hab.count⟩

variable {world later : World β}

theorem quiet_afterReading (world : World β) (memory : Language.Memory) :
    Quiet world (world.afterReading memory) := by
  unfold afterReading
  dsimp only
  split
  · exact ⟨rfl, rfl, by simp [mapClasses]⟩
  · exact ⟨rfl, rfl, rfl⟩

/-- No implementation of a contract can be had, because the contract does not compile. -/
structure Refuses (world : World β) (contract : TypeRef) (base : BaseClass) (failure : Failure)
    (later : World β) : Prop where
  unbuilt : Compilation.implemented? world contract base = none
  uncompiled : Compilation.compile contract world = .error failure later

end World

open World (Quiet Refuses)

namespace Compilation

theorem compileAfresh_quiet (contract : ClassRef) :
    Moves Quiet (compileAfresh contract : Run β CompiledContract) := by
  refine fun world => compileAfresh_moves (fun _ _ => Moves.modify fun _ => ⟨rfl, rfl, rfl⟩) ?_
  rw [World.after_reading]
  exact world.quiet_afterReading _

/-- Compiling a contract is no matter of the browser. -/
theorem compile_quiet (type : TypeRef) : Moves Quiet (compile type : Run β CompiledContract) := by
  cases type with
  | defined contract =>
    refine Moves.get.bind fun world => ?_
    split
    · exact Moves.pure _
    · refine (compileAfresh_quiet contract).bind fun compiled => ?_
      exact Moves.bind (Moves.modify fun _ => ⟨rfl, rfl, rfl⟩) fun _ => Moves.pure _
  | _ => exact Moves.throw _

theorem quiet_of_refuses {world later : World β} {contract : TypeRef} {base : BaseClass}
    {failure : Failure} (h : world.Refuses contract base failure later) : Quiet world later :=
  (compile_quiet contract).of_eq_error h.uncompiled

/-- An implementation cannot be had because of the contract just when the contract is refused. -/
theorem refuses_iff_implement {world later : World β} {contract : TypeRef} {base : BaseClass}
    {failure : Failure} (synthesis : failure.kind.isSynthesis = true) :
    implement contract base world = .error failure later ↔
      world.Refuses contract base failure later := by
  constructor
  · intro failed
    refine ⟨?_, compile_error_of_implement failed synthesis⟩
    cases built : implemented? world contract base with
    | none => rfl
    | some implementation =>
      rw [implement, bind_of_ok (get_apply world), built] at failed
      cases failed
  · rintro ⟨unbuilt, uncompiled⟩
    rw [implement, bind_of_ok (get_apply world), unbuilt]
    exact bind_of_error uncompiled _

end Compilation

namespace CallPlan

/-- The contract of the panel or page that an operation ends with. -/
def leadsTo? (plan : CallPlan) : Option TypeRef :=
  match plan.ending with
  | some .panel | some .page => some (plan.target.getD .nothing)
  | _ => none

end CallPlan

variable [Remote β] {world later : World β} {failure : Failure}

/-- No object can be made because of the contract just when the contract is refused. -/
theorem Factory.refuses_iff_createIn {factory : Factory} {contract : TypeRef}
    {outer : Nesting ⊕ Value} (synthesis : failure.kind.isSynthesis = true) :
    factory.createIn contract outer world = .error failure later ↔
      world.Refuses contract factory.base failure later := by
  constructor
  · intro failed
    refine (Compilation.refuses_iff_implement synthesis).mp ?_
    exact implement_error_of_createIn failed synthesis
  · intro refused
    exact bind_of_error ((Compilation.refuses_iff_implement synthesis).mpr refused) _

namespace LiveObject

variable {object : LiveObject} {plan : CallPlan} {arguments : List Value} {number : Nat}

/-- What an object makes its panels and pages with: its factory, and for a panel also the place it
stands in or whatever is there instead. -/
structure Provides (object : LiveObject) (table : ClassTable) (plan : CallPlan)
    (factory : Factory) : Prop where
  factory : object.heldAt table "factory" object.factory = .ok (.inl factory)
  place : plan.ending = some .panel →
    ∃ outer, object.heldAt table "scope_stack" object.nesting = .ok outer

/-- The primitive calls of an operation have all been carried out, and the contract of what it ends
with is refused. -/
def RefusedAtEnd (object : LiveObject) (plan : CallPlan) (arguments : List Value)
    (world : World β) (failure : Failure) (later : World β) : Prop :=
  ∃ result middle contract factory,
    object.runCalls arguments plan.sliceAt .none plan.calls world = .ok result middle ∧
      plan.leadsTo? = some contract ∧ object.Provides middle.classes plan factory ∧
        middle.Refuses contract factory.base failure later

theorem refuses_iff_createThrough {contract : TypeRef} {inside : Bool}
    (synthesis : failure.kind.isSynthesis = true) :
    object.createThrough (.type contract) inside world = .error failure later ↔
      ∃ factory, object.heldAt world.classes "factory" object.factory = .ok (.inl factory) ∧
        (inside = true →
          ∃ outer, object.heldAt world.classes "scope_stack" object.nesting = .ok outer) ∧
        world.Refuses contract factory.base failure later := by
  have place := object.heldAt_onlyMishaps world.classes "scope_stack" object.nesting
  constructor
  · intro failed
    rw [createThrough, bind_of_ok (get_apply world)] at failed
    obtain ⟨held, has, failed⟩ :=
      FailsByMishap.ofExcept_ok_of_bind (object.heldAt_onlyMishaps _ _ _) failed synthesis
    cases held with
    | inl factory =>
      have created {outer : Nesting ⊕ Value} (failed :
          (do return Outcome.object (← factory.createOffered (.type contract) outer)) world =
            .error failure later) : world.Refuses contract factory.base failure later :=
        (Factory.refuses_iff_createIn synthesis).mp
          (FailsByMishap.eq_error_of_bind (fun _ => .pure _) failed synthesis)
      cases inside with
      | false => exact ⟨factory, has, nofun, created failed⟩
      | true =>
        obtain ⟨outer, stands, failed⟩ :=
          FailsByMishap.ofExcept_ok_of_bind place failed synthesis
        exact ⟨factory, has, fun _ => ⟨outer, stands⟩, created failed⟩
    | inr value =>
      have ending (outer : List Value) : FailsByMishap (do
          return Outcome.ofValue (← Run.ofExcept
            (world.classes.callMember value "create" (.type contract :: outer) [])) :
          Run β Outcome) :=
        (FailsByMishap.ofExcept (world.classes.callMember_onlyMishaps _ _ _ _)).bind
          fun _ => .pure _
      have apart : failure.kind.isSynthesis = false := by
        have reaching := world.classes.memberOf_onlyMishaps value "create"
        refine (FailsByMishap.ofExcept reaching).bind (fun _ => ?_) _ _ _ failed
        cases inside with
        | false => exact ending _
        | true =>
          refine (FailsByMishap.ofExcept place).bind fun outer => ?_
          cases outer with
          | inl nesting => exact ending _
          | inr value => exact ending _
      rw [apart] at synthesis
      cases synthesis
  · rintro ⟨factory, has, stands, refused⟩
    have created (outer : Nesting ⊕ Value) :
        (do return Outcome.object (← factory.createOffered (.type contract) outer)) world =
          .error failure later :=
      bind_of_error ((Factory.refuses_iff_createIn synthesis).mpr refused) _
    rw [createThrough, bind_of_ok (get_apply world), ofExcept_bind_of_ok has]
    cases inside with
    | false => exact created _
    | true =>
      obtain ⟨outer, stands⟩ := stands rfl
      dsimp only
      rw [if_pos rfl, ofExcept_bind_of_ok stands]
      exact created outer

theorem refuses_iff_finish (bare : object.attributes = []) {result : Value}
    (synthesis : failure.kind.isSynthesis = true) :
    object.finish number plan result world = .error failure later ↔
      ∃ contract factory, plan.leadsTo? = some contract ∧
        object.Provides world.classes plan factory ∧
        world.Refuses contract factory.base failure later := by
  have ended (outcome : Outcome) (nowhere : plan.leadsTo? = none) :
      (pure outcome : Run β Outcome) world = .error failure later ↔
        ∃ contract factory, plan.leadsTo? = some contract ∧
          object.Provides world.classes plan factory ∧
          world.Refuses contract factory.base failure later := by
    simp [nowhere]
  have made (inside : Bool) (leads : plan.leadsTo? = some (plan.target.getD .nothing))
      (within : plan.ending = some .panel ↔ inside = true) :
      object.createThrough (.type (plan.target.getD .nothing)) inside world =
          .error failure later ↔
        ∃ contract factory, plan.leadsTo? = some contract ∧
          object.Provides world.classes plan factory ∧
          world.Refuses contract factory.base failure later := by
    refine (refuses_iff_createThrough synthesis).trans ?_
    constructor
    · rintro ⟨factory, has, stands, refused⟩
      exact ⟨_, factory, leads, ⟨has, fun panel => stands (within.mp panel)⟩, refused⟩
    · rintro ⟨contract, factory, same, ⟨has, stands⟩, refused⟩
      cases leads.symm.trans same
      exact ⟨factory, has, fun inside => stands (within.mpr inside), refused⟩
  unfold finish
  cases ending : plan.ending with
  | none => exact ended _ (by rw [CallPlan.leadsTo?, ending])
  | some kind =>
    simp only [orInstead_of_untouched bare]
    cases kind with
    | void => exact ended _ (by rw [CallPlan.leadsTo?, ending])
    | self => exact ended _ (by rw [CallPlan.leadsTo?, ending])
    | panel => exact made true (by rw [CallPlan.leadsTo?, ending]) (by simp [ending])
    | page => exact made false (by rw [CallPlan.leadsTo?, ending]) (by simp [ending])

/-- Running a plan fails because of a contract just when all its primitive calls go through and what
it ends with is refused. -/
theorem refusedAtEnd_iff_runPlan (bare : object.attributes = [])
    (synthesis : failure.kind.isSynthesis = true) :
    object.runPlan number plan arguments world = .error failure later ↔
      object.RefusedAtEnd plan arguments world failure later := by
  constructor
  · intro failed
    obtain ⟨result, middle, called, failed⟩ :=
      (object.runCalls_failsByMishap _ _ _ _).exists_ok_of_bind failed synthesis
    obtain ⟨contract, factory, refused⟩ := (refuses_iff_finish bare synthesis).mp failed
    exact ⟨result, middle, contract, factory, called, refused⟩
  · rintro ⟨result, middle, contract, factory, called, refused⟩
    rw [runPlan, bind_of_ok called]
    exact (refuses_iff_finish bare synthesis).mpr ⟨contract, factory, refused⟩

/-- The arguments that an operation gets, which must be such as its method takes. -/
def Gets (world : World β) (method : Method) (positions : List Value)
    (named : List (String × Value)) (arguments : List Value) : Prop :=
  (named.lookup DeclaredFunction.receiverName).isSome = false ∧
    ∃ bound, Binding.bind method.signature (.none :: positions) named = .ok bound ∧
      arguments = (bound.drop 1).map world.refresh

theorem refusedAtEnd_iff_runMethod (bare : object.attributes = []) {method : Method}
    {positions : List Value} {named : List (String × Value)}
    (synthesis : failure.kind.isSynthesis = true) :
    object.runMethod number method positions named world = .error failure later ↔
      ∃ arguments, Gets world method positions named arguments ∧
        object.RefusedAtEnd method.plan arguments world failure later := by
  unfold runMethod
  split
  · next twice =>
    constructor
    · intro failed
      have apart := FailsByMishap.throw_bind rfl _ _ _ _ failed
      rw [apart] at synthesis
      cases synthesis
    · rintro ⟨arguments, ⟨once, -⟩, -⟩
      rw [twice] at once
      cases once
  · next once =>
    constructor
    · intro failed
      obtain ⟨bound, binds, failed⟩ :=
        FailsByMishap.ofExcept_ok_of_bind (Binding.bind_onlyMishaps _ _ _) failed synthesis
      rw [bind_of_ok (get_apply world), orInstead_of_untouched bare] at failed
      refine ⟨_, ⟨(Bool.not_eq_true _).mp once, bound, binds, rfl⟩, ?_⟩
      exact (refusedAtEnd_iff_runPlan bare synthesis).mp failed
    · rintro ⟨arguments, ⟨-, bound, binds, rfl⟩, refused⟩
      rw [ofExcept_bind_of_ok binds]
      refine (congrFun (orInstead_of_untouched bare _ _ _ _) world).trans ?_
      exact (refusedAtEnd_iff_runPlan bare synthesis).mpr refused

end LiveObject

namespace World

/-- Whatever is created or done next, a contract that does not compile is refused when an object of
it is to be made: by then all that the operation is there for has been done. -/
structure RefusesLate (world : World β) : Prop where
  quiet : ∀ contract base failure later, world.Refuses contract base failure later →
    Quiet world later
  creates : ∀ factory contract stack failure later, failure.kind.isSynthesis = true →
    ((Step.create factory contract stack).run world = .error failure later ↔
      world.Refuses contract factory.base failure later)
  operates : ∀ number name positions named object method failure later,
    world.objects[number]? = some object →
      object.implementation.methods.lookup name = some method →
        failure.kind.isSynthesis = true →
          ((Step.operate number name positions named).run world = .error failure later ↔
            ∃ arguments, LiveObject.Gets world method positions named arguments ∧
              (world.refreshed object).RefusedAtEnd method.plan arguments world failure later)

theorem Sound.refusesLate (sound : world.Sound) : world.RefusesLate where
  quiet _ _ _ _ refused := Compilation.quiet_of_refuses refused
  creates factory contract stack failure later synthesis := by
    constructor
    · intro failed
      have unmade := FailsByMishap.eq_error_of_bind (fun _ => .pure _) failed synthesis
      exact (Factory.refuses_iff_createIn synthesis).mp unmade
    · intro refused
      exact bind_of_error ((Factory.refuses_iff_createIn synthesis).mpr refused) _
  operates number name positions named object method failure later held found synthesis := by
    obtain ⟨bare, operates⟩ := sound.objects object (List.mem_of_getElem? held)
    have operation := LiveObject.operation_of_lookup operates found
    have calls : (Step.operate number name positions named).run world =
        (world.refreshed object).runMethod number method positions named world := by
      rw [Step.run, bind_of_ok (get_apply world)]
      simp only [held, found, Option.isSome_some, if_true]
      exact LiveObject.call_operation bare operation found number
    rw [calls]
    exact LiveObject.refusedAtEnd_iff_runMethod (LiveObject.refreshed_untouched bare) synthesis

/-- However objects have been created and operated on since nothing was there, contracts are refused
no earlier than objects of them are made. -/
theorem refusesLate_of_run {start : World β} (fresh : start.Fresh) (steps : List Step) :
    (Step.runAll steps start).RefusesLate :=
  (Step.onward_runAll steps fresh.sound.onward).sound.refusesLate

end World
end PageContracts

namespace PageContracts.Desks

theorem fresh : world.Fresh := ⟨rfl, rfl, rfl⟩

/-- The creation of a desk. -/
def makeDesk : Step := .create factory (.defined desk) none

/-- The world with a desk in it. -/
def furnished : World ScriptedBrowser := Step.runAll [makeDesk] world

/-- The drawer of a desk is refused at the end of opening it. -/
theorem drawer_refused :
    ∃ object method arguments later, furnished.objects[0]? = some object ∧
      object.implementation.methods.lookup "click_open" = some method ∧
        (furnished.refreshed object).RefusedAtEnd method.plan arguments furnished
          (Compilation.noOperations drawer) later := by
  have late : furnished.RefusesLate := World.refusesLate_of_run fresh [makeDesk]
  obtain ⟨object, held⟩ : ∃ object, furnished.objects[0]? = some object := ⟨_, rfl⟩
  obtain ⟨method, found⟩ : ∃ method,
      object.implementation.methods.lookup "click_open" = some method := by
    cases held
    exact ⟨_, rfl⟩
  obtain ⟨later, failed⟩ : ∃ later, (Step.operate 0 "click_open" [] []).run furnished =
      .error (Compilation.noOperations drawer) later := ⟨_, rfl⟩
  obtain ⟨arguments, -, refused⟩ := (late.operates 0 _ [] [] _ _ _ _ held found rfl).mp failed
  exact ⟨object, method, arguments, later, held, found, refused⟩

/-- A desk can be made although its drawer cannot be compiled, and opening it clicks first. -/
theorem drawer_found_late :
    world.Fresh ∧ makeDesk.run world = .ok (.object 0) furnished ∧
      ∃ later, (Step.operate 0 "click_open" [] []).run furnished =
          .error (Compilation.noOperations drawer) later ∧
        later.events = furnished.events ++ [.click { kind := .id, value := "open" }] :=
  ⟨fresh, rfl, _, rfl, rfl⟩

end PageContracts.Desks
