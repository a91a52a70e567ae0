import PageContracts.Browser.Scripted
import PageContracts.Proofs.Mishaps
import PageContracts.Proofs.Sources

/-! # Caching

What has been compiled is kept together with what has been built of it, until both are forgotten
together. A contract that does not compile leaves nothing behind, and may be tried again. -/
namespace PageContracts

open Runs
open World (SameInside)

variable {β : Type} {contract : ClassRef} {type : TypeRef} {base : BaseClass}
  {world later : World β} {compiled : CompiledContract} {implementation : Implementation}

/-- Every class goes by the name under which it is known. -/
def ClassTable.Settled (table : ClassTable) : Prop :=
  ∀ info ∈ table.classes, table.current info.ref = info.ref

namespace World

/-- The annotations of a contract can be read without changing a class. -/
def ReadsOnly (world : World β) (contract : ClassRef) : Prop :=
  (after (Operation.declared (.defined contract)) world.memory).table = world.classes

/-- Nothing has come of it but log records and what the reading of annotations has left behind. -/
def Intact (before later : World β) : Prop :=
  later = { before with records := later.records, language := later.language }

namespace Intact

instance : IsPreorder (World β) Intact where
  refl _ := rfl
  trans a b c hab hbc := by
    cases a
    cases b
    cases c
    simp_all [Intact]

theorem classes_eq (h : Intact world later) : later.classes = world.classes :=
  (congrArg World.classes h :)

theorem compiled_eq (h : Intact world later) : later.compiled = world.compiled :=
  (congrArg World.compiled h :)

theorem implementations_eq (h : Intact world later) :
    later.implementations = world.implementations :=
  (congrArg World.implementations h :)

end Intact

theorem log_intact (level : LogLevel) (message : String) :
    Moves Intact (Run.log level message : Run β Unit) :=
  Moves.modify fun _ => rfl

/-- Where reading changes no class, no class gets another name either. -/
theorem intact_afterReading (settled : world.classes.Settled) {memory : Language.Memory}
    (same : memory.table = world.classes) : Intact world (world.afterReading memory) := by
  have unnamed : (world.classes.classes.any fun info =>
      memory.table.current info.ref ≠ info.ref) = false := by
    simp only [same, List.any_eq_false, decide_eq_true_eq, not_not]
    exact settled
  unfold afterReading
  rw [unnamed, same]
  rfl

end World

open World (Intact ReadsOnly)

namespace Compilation

/-- Compiling a contract afresh leaves the caches, the objects and the browser alone. -/
theorem compileAfresh_intact (settled : world.classes.Settled) (reads : world.ReadsOnly contract) :
    Intact world (after (compileAfresh contract) world) := by
  refine compileAfresh_moves World.log_intact ?_
  rw [World.after_reading]
  exact World.intact_afterReading settled reads

theorem contract_of_compileAfresh (h : compileAfresh contract world = .ok compiled later)
    (goes : later.classes.current contract = contract) : compiled.contract = contract := by
  obtain ⟨_, settled, _, -, -, named, -, classes⟩ := steps_of_compileAfresh h
  rw [named, ← classes, goes]

/-- A world in which one more compiled contract is known. -/
def remember (compiled : CompiledContract) (world : World β) : World β :=
  { world with compiled := world.compiled ++ [compiled], made := world.made + 1 }

theorem compile_of_cached (known : cached? world contract = some compiled) :
    compile (.defined contract) world = .ok compiled world := by
  rw [compile, bind_of_ok (get_apply world), known]
  rfl

theorem compile_of_uncached (unknown : cached? world contract = none) :
    compile (.defined contract) world =
      match compileAfresh contract world with
      | .ok compiled later => .ok compiled (remember compiled later)
      | .error failure later => .error failure later := by
  rw [compile, bind_of_ok (get_apply world), unknown]
  dsimp only
  rw [bind_apply]
  cases compileAfresh contract world <;> rfl

theorem uncached_of_compile_error {failure : Failure}
    (h : compile (.defined contract) world = .error failure later) :
    cached? world contract = none := by
  cases known : cached? world contract with
  | some compiled =>
    rw [compile_of_cached known] at h
    cases h
  | none => rfl

end Compilation

/-- An implementation runs the plans of a compiled contract, each under its name. -/
def Implementation.RunsPlansOf (implementation : Implementation) (compiled : CompiledContract) :
    Prop :=
  implementation.contract = compiled.contract ∧
    implementation.methods.map (fun method => (method.1, method.2.plan)) = compiled.plans

namespace World

/-- What is cached is in order: no contract is there twice, and an implementation is there only
together with the compiled contract whose plans it runs. -/
structure Consistent (world : World β) : Prop where
  once : (world.compiled.map CompiledContract.contract).Nodup
  covered : ∀ implementation ∈ world.implementations,
    ∃ compiled ∈ world.compiled, implementation.RunsPlansOf compiled

/-- What is cached stays, and what comes to it keeps it in order. -/
structure Extends (before later : World β) : Prop where
  classes : later.classes = before.classes
  compiled : before.compiled <+: later.compiled
  once : (before.compiled.map CompiledContract.contract).Nodup →
    (later.compiled.map CompiledContract.contract).Nodup
  covered : ∀ implementation ∈ later.implementations, implementation ∈ before.implementations ∨
    ∃ compiled ∈ later.compiled, implementation.RunsPlansOf compiled

namespace Extends

instance : IsPreorder (World β) Extends where
  refl world := ⟨rfl, List.prefix_refl _, id, fun _ listed => .inl listed⟩
  trans a b c hab hbc := by
    refine ⟨hbc.classes.trans hab.classes, hab.compiled.trans hbc.compiled,
      hbc.once ∘ hab.once, fun implementation listed => ?_⟩
    rcases hbc.covered implementation listed with known | new
    · rcases hab.covered implementation known with old | ⟨compiled, listed, runs⟩
      · exact .inl old
      · exact .inr ⟨compiled, hbc.compiled.subset listed, runs⟩
    · exact .inr new

theorem of_eq (classes : later.classes = world.classes) (compiled : later.compiled = world.compiled)
    (implementations : later.implementations = world.implementations) : Extends world later where
  classes := classes
  compiled := by simp [compiled]
  once := by simp [compiled]
  covered := by
    rw [implementations]
    exact fun _ listed => .inl listed

theorem of_intact (h : Intact world later) : Extends world later :=
  of_eq h.classes_eq h.compiled_eq h.implementations_eq

theorem of_sameInside (h : SameInside world later) : Extends world later :=
  of_eq h.classes_eq h.compiled_eq h.implementations_eq

theorem consistent (h : Extends world later) (consistent : world.Consistent) :
    later.Consistent where
  once := h.once consistent.once
  covered implementation listed := by
    rcases h.covered implementation listed with old | new
    · obtain ⟨compiled, known, runs⟩ := consistent.covered implementation old
      exact ⟨compiled, h.compiled.subset known, runs⟩
    · exact new

/-- A contract that is not known yet comes to those that are. -/
theorem remember (unknown : Compilation.cached? world compiled.contract = none) :
    Extends world (Compilation.remember compiled world) where
  classes := rfl
  compiled := List.prefix_append _ _
  once distinct := by
    have absent : compiled.contract ∉ world.compiled.map CompiledContract.contract := by
      intro listed
      obtain ⟨other, known, same⟩ := List.mem_map.mp listed
      simpa [same] using List.find?_eq_none.mp unknown other known
    simpa [Compilation.remember, List.nodup_append] using ⟨distinct, by simpa using absent⟩
  covered := fun _ listed => .inl listed

end Extends
end World

open World (Extends)

namespace Compilation

/-- A contract that goes by the name it has now, and whose annotations, if they have to be read,
can be read without changing a class. -/
structure Steady (world : World β) (contract : ClassRef) : Prop where
  settled : world.classes.Settled
  current : world.classes.current contract = contract
  reads : cached? world contract = none → world.ReadsOnly contract

/-- What is compiled afresh is of the contract asked for, which is still unknown then. -/
theorem named_of_compileAfresh (steady : Steady world contract)
    (unknown : cached? world contract = none) {middle : World β}
    (ran : compileAfresh contract world = .ok compiled middle) :
    Intact world middle ∧ compiled.contract = contract ∧ cached? middle contract = none := by
  have intact := compileAfresh_intact steady.settled (steady.reads unknown)
  rw [after_of_ok ran] at intact
  refine ⟨intact, contract_of_compileAfresh ran ?_, ?_⟩
  · rw [intact.classes_eq]
    exact steady.current
  · rw [cached?, intact.compiled_eq]
    exact unknown

theorem compile_extends (steady : Steady world contract) :
    Extends world (after (compile (.defined contract)) world) := by
  cases known : cached? world contract with
  | some compiled =>
    rw [after_of_ok (compile_of_cached known)]
    exact refl world
  | none =>
    have compiling := compile_of_uncached known
    cases ran : compileAfresh contract world with
    | ok compiled middle =>
      obtain ⟨intact, rfl, unknown⟩ := named_of_compileAfresh steady known ran
      rw [ran] at compiling
      rw [after_of_ok compiling]
      exact IsTrans.trans _ _ _ (Extends.of_intact intact) (Extends.remember unknown)
    | error failure middle =>
      have intact := compileAfresh_intact steady.settled (steady.reads known)
      rw [after_of_error ran] at intact
      rw [ran] at compiling
      rw [after_of_error compiling]
      exact Extends.of_intact intact

theorem cached_of_compile (steady : Steady world contract)
    (h : compile (.defined contract) world = .ok compiled later) :
    cached? later contract = some compiled := by
  cases known : cached? world contract with
  | some other =>
    rw [compile_of_cached known] at h
    cases h
    exact known
  | none =>
    rw [compile_of_uncached known] at h
    split at h
    · next fresh middle ran =>
      cases h
      obtain ⟨-, named, unknown⟩ := named_of_compileAfresh steady known ran
      rw [cached?] at unknown ⊢
      simp [remember, List.find?_append, unknown, named]
    · cases h

/-- The methods run the plans they are made of. -/
theorem plans_of_methods {table : ClassTable} {methods : List (String × Method)}
    (h : compiled.plans.mapM (methodOf table compiled) = .ok methods) :
    methods.map (fun method => (method.1, method.2.plan)) = compiled.plans := by
  symm
  rw [← List.forall₂_eq_eq_eq, List.forall₂_map_right_iff]
  refine (mapM_eq_ok h).imp fun entry built made => ?_
  obtain ⟨_, _, -, -, rfl⟩ := methodOf_eq_ok made
  rfl

/-- As long as a compiled contract is known, it is in order to keep what runs its plans. -/
def ExtendsWith (compiled : CompiledContract) (before later : World β) : Prop :=
  compiled ∈ before.compiled → Extends before later

instance : IsPreorder (World β) (ExtendsWith compiled) where
  refl world := fun _ => refl world
  trans _ _ _ hab hbc := fun known =>
    IsTrans.trans _ _ _ (hab known) (hbc ((hab known).compiled.subset known))

theorem extends_after {middle : World β} (first : Extends world middle)
    (known : compiled ∈ middle.compiled) {run : Run β α} (h : Moves (ExtendsWith compiled) run) :
    Extends world (after run middle) :=
  IsTrans.trans _ _ _ first (h middle known)

theorem implement_extends (steady : Steady world contract) (base : BaseClass) :
    Extends world (after (implement (.defined contract) base) world) := by
  rw [implement, after_get_bind]
  cases built : implemented? world (.defined contract) base with
  | some implementation => exact refl world
  | none =>
    dsimp only
    have compiling := compile_extends steady
    cases ran : compile (.defined contract) world with
    | error failure middle =>
      rw [after_of_error ran] at compiling
      rw [after_bind_of_error ran]
      exact compiling
    | ok compiled middle =>
      rw [after_of_ok ran] at compiling
      rw [after_bind_of_ok ran]
      have known := List.mem_of_find?_eq_some (cached_of_compile steady ran)
      refine extends_after compiling known (Moves.get.bind fun world => ?_)
      split
      · exact Moves.throw_bind _ _
      · refine Moves.ofExcept_bind fun methods made => (Moves.ofExcept _).bind fun _ => ?_
        refine Moves.get.bind fun numbering => ?_
        refine Moves.bind (Moves.modify fun before known => ?_) fun _ => Moves.pure _
        refine ⟨rfl, List.prefix_refl _, id, fun implementation listed => ?_⟩
        rcases List.mem_append.mp listed with old | new
        · exact .inl old
        · rw [List.mem_singleton.mp new]
          exact .inr ⟨compiled, known, rfl, plans_of_methods made⟩

/-- A compilation that fails leaves the world intact. -/
theorem intact_of_compile_error (steady : Steady world contract) {failure : Failure}
    (h : compile (.defined contract) world = .error failure later) : Intact world later := by
  have unknown := uncached_of_compile_error h
  have intact := compileAfresh_intact steady.settled (steady.reads unknown)
  rw [compile_of_uncached unknown] at h
  cases ran : compileAfresh contract world with
  | ok compiled middle =>
    rw [ran] at h
    cases h
  | error other middle =>
    rw [ran] at h
    cases h
    rw [after_of_error ran] at intact
    exact intact

/-- If no implementation can be had because of the contract, then because it does not compile. -/
theorem compile_error_of_implement {failure : Failure}
    (h : implement type base world = .error failure later)
    (synthesis : failure.kind.isSynthesis = true) : compile type world = .error failure later := by
  rw [implement, bind_of_ok (get_apply world)] at h
  cases built : implemented? world type base with
  | some implementation =>
    rw [built] at h
    cases h
  | none =>
    rw [built] at h
    refine FailsByMishap.eq_error_of_bind (fun compiled => .get_bind fun middle => ?_) h synthesis
    split
    · exact .throw_bind rfl _
    · refine (FailsByMishap.ofExcept (.mapM (methodOf_onlyMishaps _ _) _)).bind fun methods => ?_
      refine (FailsByMishap.ofExcept (requireDescent_onlyMishaps _)).bind fun _ => ?_
      exact .get_bind fun _ => (FailsByMishap.modify _).bind fun _ => .pure _

end Compilation

namespace Factory

open Compilation

variable [Remote β]

theorem createIn_extends (steady : Steady world contract) (factory : Factory)
    (outer : Nesting ⊕ Value) :
    Extends world (after (factory.createIn (.defined contract) outer) world) := by
  have inside {α : Type} {run : Run β α} (h : StaysOutside run) : Moves Extends run :=
    h.imp fun _ _ => Extends.of_sameInside
  refine Moves.after_bind (implement_extends steady _) fun implementation => ?_
  refine Moves.get.bind fun _ => (Moves.ofExcept _).bind fun nesting => ?_
  refine Moves.get.bind fun _ => (Moves.ofExcept _).bind fun _ => Moves.get.bind fun _ => ?_
  refine (inside (LiveObject.equip_stays_outside _ _)).bind fun made => Moves.get.bind fun _ => ?_
  exact Moves.bind (Moves.modify fun _ => Extends.of_eq rfl rfl rfl) fun _ => Moves.pure _

/-- If no object can be made because of the contract, then because it has no implementation. -/
theorem implement_error_of_createIn {factory : Factory} {outer : Nesting ⊕ Value}
    {failure : Failure} (h : factory.createIn type outer world = .error failure later)
    (synthesis : failure.kind.isSynthesis = true) :
    implement type factory.base world = .error failure later := by
  refine FailsByMishap.eq_error_of_bind (fun implementation => .get_bind fun _ => ?_) h synthesis
  refine (FailsByMishap.ofExcept (placeIn_onlyMishaps _ _ _)).bind fun nesting => ?_
  refine .get_bind fun _ => ?_
  refine (FailsByMishap.ofExcept (requireMakeable_onlyMishaps _ _)).bind fun _ => ?_
  refine .get_bind fun _ => (LiveObject.equip_failsByMishap _ _).bind fun made => ?_
  exact .get_bind fun _ => (FailsByMishap.modify _).bind fun _ => .pure _

/-- What is no type at all is refused. -/
theorem createOffered_of_untyped (factory : Factory) {offered : Value} {outer : Nesting ⊕ Value}
    (untyped : ∀ type, offered ≠ .type type) (world : World β) :
    ∃ failure, factory.createOffered offered outer world = .error failure world := by
  unfold createOffered
  split
  · next type => exact absurd rfl (untyped type)
  · split
    · cases written : offered.written Value.quoted with
      | ok shown => exact ⟨_, rfl⟩
      | error failure => exact ⟨failure, rfl⟩
    · exact ⟨_, rfl⟩

end Factory

/-- What is asked of the caches: to compile a contract, to have an implementation of one, to create
an object of whatever is offered as one, or to forget. -/
inductive Request where
  | compile (type : TypeRef)
  | implement (type : TypeRef) (base : BaseClass)
  | create (factory : Factory) (offered : Value) (outer : Nesting ⊕ Value)
  | forget

namespace Request

open Compilation (Steady cached?)

/-- The type that a request has compiled. -/
def type? : Request → Option TypeRef
  | .compile type | .implement type _ | .create _ (.type type) _ => some type
  | _ => none

variable [Remote β]

/-- Do what is asked for. -/
def run : Request → Run β Unit
  | .compile type => do let _ ← Compilation.compile type
  | .implement type base => do let _ ← Compilation.implement type base
  | .create factory offered outer => do let _ ← factory.createOffered offered outer
  | .forget => Compilation.forget

/-- A request for a contract that goes by the name it has now, and whose annotations can be read
without changing a class. -/
def LeavesClasses (request : Request) (world : World β) : Prop :=
  ∀ contract, request.type? = some (.defined contract) →
    world.classes.current contract = contract ∧
      (cached? world contract = none → world.ReadsOnly contract)

/-- The world after some requests, any of which may have failed. -/
def runAll (requests : List Request) (world : World β) : World β :=
  requests.foldl (fun world request => after request.run world) world

/-- Some requests, none of which changes a class. -/
def AllLeaveClasses : List Request → World β → Prop
  | [], _ => True
  | request :: rest, world =>
    request.LeavesClasses world ∧ AllLeaveClasses rest (after request.run world)

omit [Remote β] in
theorem steady {request : Request} (settled : world.classes.Settled)
    (leaves : request.LeavesClasses world) (contract : ClassRef)
    (asked : request.type? = some (.defined contract)) : Steady world contract :=
  ⟨settled, (leaves contract asked).1, (leaves contract asked).2⟩

/-- Whatever is asked for that is no class of the program, nothing comes of it. -/
theorem after_run_of_undefined {request : Request} (keeps : request ≠ .forget)
    (undefined : ∀ contract, request.type? ≠ some (.defined contract)) :
    after request.run world = world := by
  have compiles {type : TypeRef} (other : ∀ contract, type ≠ .defined contract) :
      Compilation.compile type world = .error (Operation.notContract type) world := by
    cases type with
    | defined contract => exact absurd rfl (other contract)
    | _ => rfl
  have implements {type : TypeRef} (other : ∀ contract, type ≠ .defined contract)
      (base : BaseClass) :
      Compilation.implement type base world = .error (Operation.notContract type) world := by
    have unknown : Compilation.implemented? world type base = none := by
      refine List.find?_eq_none.mpr fun implementation _ => ?_
      simp [Ne.symm (other implementation.contract)]
    rw [Compilation.implement, bind_of_ok (get_apply world), unknown]
    exact bind_of_error (compiles other) _
  cases request with
  | compile type =>
    have other contract (same : type = .defined contract) := undefined contract (congrArg some same)
    exact after_bind_of_error (compiles other) _
  | implement type base =>
    have other contract (same : type = .defined contract) := undefined contract (congrArg some same)
    exact after_bind_of_error (implements other base) _
  | create factory offered outer =>
    by_cases typed : ∃ type, offered = .type type
    · obtain ⟨type, rfl⟩ := typed
      have other contract (same : type = .defined contract) :=
        undefined contract (congrArg some same)
      exact after_bind_of_error (bind_of_error (implements other factory.base) _) _
    · obtain ⟨failure, refused⟩ := factory.createOffered_of_untyped (not_exists.mp typed) world
      exact after_bind_of_error refused _
  | forget => exact absurd rfl keeps

/-- Whatever is asked for but to forget, what is cached stays and stays in order. -/
theorem run_extends {request : Request} (settled : world.classes.Settled)
    (leaves : request.LeavesClasses world) (keeps : request ≠ .forget) :
    Extends world (after request.run world) := by
  by_cases asked : ∃ contract, request.type? = some (.defined contract)
  · obtain ⟨contract, asked⟩ := asked
    have steady := request.steady settled leaves contract asked
    cases request with
    | compile type =>
      cases asked
      exact Moves.after_bind (Compilation.compile_extends steady) fun _ => Moves.pure _
    | implement type base =>
      cases asked
      exact Moves.after_bind (Compilation.implement_extends steady base) fun _ => Moves.pure _
    | create factory offered outer =>
      cases offered with
      | type type =>
        cases asked
        exact Moves.after_bind (factory.createIn_extends steady outer) fun _ => Moves.pure _
      | _ => cases asked
    | forget => cases asked
  · rw [after_run_of_undefined keeps (not_exists.mp asked)]
    exact refl world

/-- A request that fails because of its contract leaves the world intact, and its contract was
unknown. -/
theorem intact_of_run_error {request : Request} {failure : Failure}
    (settled : world.classes.Settled) (leaves : request.LeavesClasses world)
    (failed : request.run world = .error failure later)
    (synthesis : failure.kind.isSynthesis = true) :
    Intact world later ∧ ∀ contract, request.type? = some (.defined contract) →
      cached? world contract = none := by
  by_cases asked : ∃ contract, request.type? = some (.defined contract)
  · obtain ⟨contract, asked⟩ := asked
    have steady := request.steady settled leaves contract asked
    suffices uncompiled : Compilation.compile (.defined contract) world = .error failure later by
      refine ⟨Compilation.intact_of_compile_error steady uncompiled, fun other same => ?_⟩
      cases asked.symm.trans same
      exact Compilation.uncached_of_compile_error uncompiled
    cases request with
    | compile type =>
      cases asked
      exact FailsByMishap.eq_error_of_bind (fun _ => .pure _) failed synthesis
    | implement type base =>
      cases asked
      exact Compilation.compile_error_of_implement
        (FailsByMishap.eq_error_of_bind (fun _ => .pure _) failed synthesis) synthesis
    | create factory offered outer =>
      cases offered with
      | type type =>
        cases asked
        have unmade := FailsByMishap.eq_error_of_bind (fun _ => .pure _) failed synthesis
        exact Compilation.compile_error_of_implement
          (Factory.implement_error_of_createIn unmade synthesis) synthesis
      | _ => cases asked
    | forget => cases asked
  · have keeps : request ≠ .forget := by
      rintro rfl
      cases failed
    have same : after request.run world = world :=
      after_run_of_undefined keeps (not_exists.mp asked)
    rw [after_of_error failed] at same
    subst same
    exact ⟨refl later, fun contract same => absurd ⟨contract, same⟩ asked⟩

/-- A request keeps the classes as they are and the caches in order. -/
theorem run_keeps (request : Request) (settled : world.classes.Settled)
    (leaves : request.LeavesClasses world) (consistent : world.Consistent) :
    (after request.run world).classes = world.classes ∧ (after request.run world).Consistent := by
  by_cases forgets : request = .forget
  · subst forgets
    exact ⟨rfl, List.nodup_nil, fun _ listed => nomatch listed⟩
  · have extended := request.run_extends settled leaves forgets
    exact ⟨extended.classes, extended.consistent consistent⟩

theorem runAll_keeps (requests : List Request) (settled : world.classes.Settled)
    (leaves : AllLeaveClasses requests world) (consistent : world.Consistent) :
    (runAll requests world).classes = world.classes ∧ (runAll requests world).Consistent := by
  induction requests generalizing world with
  | nil => exact ⟨rfl, consistent⟩
  | cons request rest ih =>
    obtain ⟨leaves, others⟩ := leaves
    obtain ⟨classes, consistent⟩ := request.run_keeps settled leaves consistent
    obtain ⟨same, consistent⟩ := ih (classes ▸ settled) others consistent
    exact ⟨same.trans classes, consistent⟩

/-- Until everything is forgotten, what is cached stays. -/
theorem runAll_extends {requests : List Request} (keeps : .forget ∉ requests)
    (settled : world.classes.Settled) (leaves : AllLeaveClasses requests world) :
    Extends world (runAll requests world) := by
  induction requests generalizing world with
  | nil => exact refl world
  | cons request rest ih =>
    obtain ⟨leaves, others⟩ := leaves
    obtain ⟨kept, keeps⟩ := not_or.mp (List.mem_cons.not.mp keeps)
    have first := request.run_extends settled leaves (Ne.symm kept)
    exact IsTrans.trans _ _ _ first (ih keeps (first.classes ▸ settled) others)

end Request

namespace World

variable [Remote β]

/-- A world that keeps what has been compiled as it should. -/
structure KeepsCompiled (world : World β) : Prop where
  consistent : world.Consistent
  grows : ∀ requests, .forget ∉ requests → Request.AllLeaveClasses requests world →
    world.compiled <+: (Request.runAll requests world).compiled
  again : ∀ contract compiled later requests,
    (Request.compile (.defined contract)).LeavesClasses world →
      Compilation.compile (.defined contract) world = .ok compiled later →
        .forget ∉ requests → Request.AllLeaveClasses requests later →
          Compilation.compile (.defined contract) (Request.runAll requests later) =
            .ok compiled (Request.runAll requests later)
  harmless : ∀ (request : Request) failure later, request.LeavesClasses world →
    request.run world = .error failure later → failure.kind.isSynthesis = true →
      Intact world later
  retried : ∀ (request : Request) failure later contract (renewed : World β) compiled last,
    request.LeavesClasses world → request.type? = some (.defined contract) →
      request.run world = .error failure later → failure.kind.isSynthesis = true →
        renewed.compiled = later.compiled →
          Compilation.compileAfresh contract renewed = .ok compiled last →
            Compilation.compile (.defined contract) renewed =
              .ok compiled (Compilation.remember compiled last)

theorem Consistent.keepsCompiled (consistent : world.Consistent)
    (settled : world.classes.Settled) : world.KeepsCompiled where
  consistent := consistent
  grows requests keeps leaves := (Request.runAll_extends keeps settled leaves).compiled
  again contract compiled later requests leaves compiles keeps others := by
    have steady := Request.steady settled leaves contract rfl
    have known := Compilation.cached_of_compile steady compiles
    have first := Compilation.compile_extends steady
    rw [after_of_ok compiles] at first
    have stays := Request.runAll_extends keeps (first.classes ▸ settled) others
    exact Compilation.compile_of_cached (stays.compiled.find?_eq_some known)
  harmless request failure later leaves failed synthesis :=
    (request.intact_of_run_error settled leaves failed synthesis).1
  retried request failure later contract renewed compiled last leaves asked failed synthesis same
      compiles := by
    obtain ⟨intact, unknown⟩ := request.intact_of_run_error settled leaves failed synthesis
    have uncached : Compilation.cached? renewed contract = none := by
      rw [Compilation.cached?, same, intact.compiled_eq]
      exact unknown contract asked
    rw [Compilation.compile_of_uncached uncached, compiles]

/-- Whatever has been asked for since nothing was compiled, what has been compiled since is kept as
it should be, as long as no class changes meanwhile. -/
theorem keepsCompiled_of_runAll {start : World β} (compiled : start.compiled = [])
    (implementations : start.implementations = []) (settled : start.classes.Settled)
    {requests : List Request} (leaves : Request.AllLeaveClasses requests start) :
    (Request.runAll requests start).KeepsCompiled := by
  have empty : start.Consistent := by
    constructor
    · simp [compiled]
    · simp [implementations]
  obtain ⟨classes, consistent⟩ := Request.runAll_keeps requests settled leaves empty
  exact consistent.keepsCompiled (classes ▸ settled)

end World
end PageContracts

namespace PageContracts.Desks

open World (Intact)

/-- The class of drawers, which have no operations yet. -/
def drawer : ClassRef := { number := 0, name := "Drawer" }

/-- The class of desks, which open their drawer. -/
def desk : ClassRef := { number := 1, name := "Desk" }

/-- A desk and its drawer. -/
def classes : ClassTable where
  classes := [
    { ref := drawer, key := "Drawer", ancestry := [.defined drawer, .panel] },
    { ref := desk, key := "Desk", ancestry := [.defined desk, .page]
      members := [("click_open", .function
        { name := "click_open", locator := some { kind := .id, template := "open" }
          returns := some "Drawer" })] }]

/-- A world in which nothing has been compiled. -/
def world : World ScriptedBrowser where
  browser := {}
  clock := default
  classes := classes

/-- A factory that rehearses. -/
def factory : Factory := { session := { page := 0 }, actions := .rehearsed [] [] }

/-- A desk is created, and forgotten with everything else before another one is. -/
def requests : List Request :=
  [.create factory (.type (.defined desk)) (.inl .outermost), .forget,
    .implement (.defined desk) .audited]

theorem settled : world.classes.Settled := by
  simp only [ClassTable.Settled, world, classes, List.forall_mem_cons]
  exact ⟨rfl, rfl, nofun⟩

theorem leaves : Request.AllLeaveClasses requests world := by
  refine ⟨?_, ?_, ?_, trivial⟩
  · rintro _ ⟨⟩
    exact ⟨rfl, fun _ => rfl⟩
  · rintro _ ⟨⟩
  · rintro _ ⟨⟩
    exact ⟨rfl, fun _ => rfl⟩

/-- A drawer cannot be compiled, and nothing comes of the attempt. -/
theorem drawer_uncompiled :
    ∃ later, (Request.compile (.defined drawer)).run (Request.runAll requests world) =
        .error (Compilation.noOperations drawer) later ∧
      Intact (Request.runAll requests world) later := by
  have kept := World.keepsCompiled_of_runAll rfl rfl settled leaves
  obtain ⟨later, failed⟩ : ∃ later,
      (Request.compile (.defined drawer)).run (Request.runAll requests world) =
        .error (Compilation.noOperations drawer) later := ⟨_, rfl⟩
  refine ⟨later, failed, kept.harmless _ _ _ ?_ failed rfl⟩
  rintro _ ⟨⟩
  exact ⟨rfl, fun _ => rfl⟩

end PageContracts.Desks
