import PageContracts.Proofs.Refusals
import PageContracts.Proofs.Twins

/-! # What compiling looks at

Whether a contract compiles, and what is wrong with it otherwise, is told by the classes and by what has
been compiled of them. What the browser knows and what has been recorded makes no difference. -/
namespace PageContracts

open Runs
open World (SameInside)

variable {β α γ : Type} {world later : World β}

namespace World.SameInside

theorem symm (h : SameInside world later) : SameInside later world := by
  cases world
  cases later
  simp_all [SameInside]

theorem drivers_eq (h : SameInside world later) : later.drivers = world.drivers :=
  (congrArg World.drivers h :)

theorem memory_eq (h : SameInside world later) : later.memory = world.memory := by
  have language : later.language = world.language := (congrArg World.language h :)
  rw [World.memory, World.memory, h.classes_eq, language]

theorem afterReading (h : SameInside world later) (memory : Language.Memory) :
    SameInside (world.afterReading memory) (later.afterReading memory) := by
  have classes := h.classes_eq
  cases world
  cases later
  simp only [SameInside, World.mk.injEq] at h classes ⊢
  simp only [World.afterReading]
  subst classes
  split
  · simp_all [World.mapClasses]
  · simp_all

end World.SameInside

/-- A program that goes on alike whatever the browser knows and whatever has been recorded. -/
abbrev LooksInside (run : Run β α) : Prop :=
  Alike SameInside run run

namespace LooksInside

theorem get_bind {next next' : World β → Run β γ}
    (h : ∀ (world : World β) browser events records,
      Alike SameInside (next world) (next' { world with browser, events, records })) :
    Alike SameInside (MonadState.get >>= next) (MonadState.get >>= next') := by
  refine Alike.get_bind fun one other same => ?_
  rw [show other = _ from same]
  exact h one _ _ _

theorem ofExcept (result : Except Failure α) : LooksInside (Run.ofExcept result : Run β α) := by
  cases result with
  | ok a => exact Alike.pure a
  | error failure => exact Alike.throw failure

theorem log (level : LogLevel) (message : String) :
    LooksInside (Run.log level message : Run β Unit) := by
  refine Alike.modify fun one other same => ?_
  rw [show other = _ from same]
  rfl

theorem reading (run : Language.Eval α) : LooksInside (Run.reading run : Run β α) := by
  intro one other same
  unfold Run.reading
  rw [same.memory_eq]
  cases run one.memory with
  | ok result memory => exact .ok result (same.afterReading memory)
  | error failure memory => exact .error failure (same.afterReading memory)

variable {run : Run β α} {ended : World β}

theorem eq_ok (looks : LooksInside run) (same : SameInside world later) {a : α}
    (h : run world = .ok a ended) : ∃ ended, run later = .ok a ended := by
  have alike := looks _ _ same
  rw [h] at alike
  generalize run later = other at alike ⊢
  cases alike with
  | ok _ related => exact ⟨_, rfl⟩

theorem eq_error (looks : LooksInside run) (same : SameInside world later) {failure : Failure}
    (h : run world = .error failure ended) : ∃ ended, run later = .error failure ended := by
  have alike := looks _ _ same
  rw [h] at alike
  generalize run later = other at alike ⊢
  cases alike with
  | error _ related => exact ⟨_, rfl⟩

end LooksInside

namespace Compilation

theorem compileOperation_looksInside (registry : Registry) (operation : Operation) :
    LooksInside (compileOperation registry operation : Run β CallPlan) := by
  refine LooksInside.get_bind fun world browser events records => Alike.bind ?_ fun _ => ?_
  · induction registry.rules with
    | nil => exact Alike.pure _
    | cons rule rest ih => exact (LooksInside.ofExcept _).bind fun _ => ih
  · refine (LooksInside.ofExcept _).bind fun rule => (LooksInside.ofExcept _).bind fun _ => ?_
    exact (LooksInside.log _ _).bind fun _ => Alike.pure _

theorem compileOperations_looksInside (registry : Registry) (operations : List Operation)
    (plans : List (String × CallPlan)) :
    LooksInside (compileOperations registry operations plans : Run β _) := by
  induction operations generalizing plans with
  | nil => exact Alike.pure _
  | cons operation rest ih =>
    exact (compileOperation_looksInside registry operation).bind fun plan => ih _

theorem compileAfresh_looksInside (contract : ClassRef) :
    LooksInside (compileAfresh contract : Run β CompiledContract) := by
  refine (LooksInside.reading _).bind fun operations => ?_
  refine LooksInside.get_bind fun world browser events records => ?_
  dsimp only
  split
  · exact Alike.throw_bind _ _ _
  · refine (compileOperations_looksInside {} operations []).bind fun plans => ?_
    refine (LooksInside.ofExcept _).bind fun _ => (LooksInside.log _ _).bind fun _ => ?_
    exact LooksInside.get_bind fun _ _ _ _ => Alike.pure _

theorem compile_looksInside (type : TypeRef) :
    LooksInside (compile type : Run β CompiledContract) := by
  cases type with
  | defined contract =>
    refine LooksInside.get_bind fun world browser events records => ?_
    have same : cached? { world with browser, events, records } contract = cached? world contract :=
      rfl
    rw [same]
    cases cached? world contract with
    | some compiled => exact Alike.pure _
    | none =>
      refine (compileAfresh_looksInside contract).bind fun compiled => ?_
      refine Alike.bind (Alike.modify fun one other same => ?_) fun _ => Alike.pure _
      rw [show other = _ from same]
      rfl
  | _ => exact Alike.throw _

end Compilation

namespace World

/-- A contract is refused where the same classes are known and the same has been compiled of them,
whatever else has happened. -/
theorem SameInside.refuses_iff (same : SameInside world later) {type : TypeRef} {base : BaseClass}
    {failure : Failure} :
    (∃ ended, later.Refuses type base failure ended) ↔
      ∃ ended, world.Refuses type base failure ended := by
  have carry {one other : World β} (same : SameInside one other)
      (h : ∃ ended, one.Refuses type base failure ended) :
      ∃ ended, other.Refuses type base failure ended := by
    obtain ⟨ended, unbuilt, uncompiled⟩ := h
    obtain ⟨ended, failed⟩ := (Compilation.compile_looksInside type).eq_error same uncompiled
    refine ⟨ended, ?_, failed⟩
    rw [← unbuilt, Compilation.implemented?, Compilation.implemented?, same.implementations_eq]
  exact ⟨carry same.symm, carry same⟩

end World
end PageContracts
