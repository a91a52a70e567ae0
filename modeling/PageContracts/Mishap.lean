import PageContracts.Failure

/-! # Mishaps

Failures that have nothing to do with compiling a contract. Whatever goes wrong when values are
shown, functions of the author are called or attributes are looked up is one of them.
-/
namespace PageContracts

/-- A failure that does not come from compiling a contract. -/
structure Mishap where
  failure : Failure
  apart : failure.kind.isSynthesis = false
  deriving DecidableEq, Repr

/-- A computation that can only fail by a mishap. -/
def OnlyMishaps {α : Type} (result : Except Failure α) : Prop :=
  ∀ failure, result = .error failure → failure.kind.isSynthesis = false

namespace Mishap

instance : Inhabited Mishap := ⟨⟨.breach .wrongType "", rfl⟩⟩

/-- An attribute that does not exist. -/
def missing (name : String) : Mishap :=
  ⟨.missing name, rfl⟩

/-- The result of a computation that can only fail by a mishap. -/
def result {α : Type} : (result : Except Failure α) → OnlyMishaps result → Except Mishap α
  | .ok a, _ => .ok a
  | .error failure, only => .error ⟨failure, only failure rfl⟩

end Mishap

namespace OnlyMishaps

variable {α γ : Type}

theorem ok (a : α) : OnlyMishaps (.ok a) :=
  fun _ => nofun

theorem error {failure : Failure} (apart : failure.kind.isSynthesis = false) :
    OnlyMishaps (.error failure : Except Failure α) := by
  intro other same
  cases same
  exact apart

theorem breach {kind : FailureKind} (apart : kind.isSynthesis = false) (message : String) :
    OnlyMishaps (.error (.breach kind message) : Except Failure α) :=
  error apart

theorem missing (name : String) : OnlyMishaps (.error (.missing name) : Except Failure α) :=
  error rfl

theorem typeBreach (message : String) :
    OnlyMishaps (.error (.typeBreach message) : Except Failure α) :=
  error rfl

theorem valueBreach (message : String) :
    OnlyMishaps (.error (.valueBreach message) : Except Failure α) :=
  error rfl

theorem bind {result : Except Failure α} {next : α → Except Failure γ} (h : OnlyMishaps result)
    (hn : ∀ a, result = .ok a → OnlyMishaps (next a)) : OnlyMishaps (result >>= next) := by
  cases result with
  | ok a => exact hn a rfl
  | error failure => exact error (h failure rfl)

theorem map {result : Except Failure α} (h : OnlyMishaps result) (form : α → γ) :
    OnlyMishaps (result.map form) := by
  cases result with
  | ok a => exact ok _
  | error failure => exact error (h failure rfl)

theorem getD {result? : Option (Except Failure α)} {other : Except Failure α}
    (h : ∀ result, result? = some result → OnlyMishaps result) (ho : OnlyMishaps other) :
    OnlyMishaps (result?.getD other) := by
  cases result? with
  | none => exact ho
  | some result => exact h result rfl

theorem mapD {given? : Option γ} {make : γ → Except Failure α} {other : Except Failure α}
    (h : ∀ given, OnlyMishaps (make given)) (ho : OnlyMishaps other) :
    OnlyMishaps ((given?.map make).getD other) := by
  cases given? with
  | none => exact ho
  | some given => exact h given

theorem ite {condition : Prop} [Decidable condition] {result other : Except Failure α}
    (h : OnlyMishaps result) (ho : OnlyMishaps other) :
    OnlyMishaps (if condition then result else other) := by
  split
  · exact h
  · exact ho

theorem mapM {make : α → Except Failure γ} (h : ∀ a, OnlyMishaps (make a)) (items : List α) :
    OnlyMishaps (items.mapM make) := by
  induction items with
  | nil => exact ok _
  | cons item rest ih =>
    rw [List.mapM_cons]
    exact (h item).bind fun _ _ => ih.bind fun _ _ => ok _

theorem forM {check : α → Except Failure Unit} (h : ∀ a, OnlyMishaps (check a))
    (items : List α) : OnlyMishaps (items.forM check) := by
  induction items with
  | nil => exact ok _
  | cons item rest ih => exact (h item).bind fun _ _ => ih

theorem foldlM {step : γ → α → Except Failure γ} (h : ∀ state a, OnlyMishaps (step state a))
    (items : List α) (state : γ) : OnlyMishaps (items.foldlM step state) := by
  induction items generalizing state with
  | nil => exact ok _
  | cons item rest ih => exact (h state item).bind fun next _ => ih next

theorem filterM {keeps : α → Except Failure Bool} (h : ∀ a, OnlyMishaps (keeps a))
    (items : List α) : OnlyMishaps (items.filterM keeps) := by
  have going (kept : List α) : OnlyMishaps (items.filterAuxM keeps kept) := by
    induction items generalizing kept with
    | nil => exact ok _
    | cons item rest ih => exact (h item).bind fun keep _ => ih _
  exact (going []).bind fun _ _ => ok _

end OnlyMishaps
end PageContracts
