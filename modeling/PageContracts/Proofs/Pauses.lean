import Mathlib.Algebra.Order.BigOperators.Group.List
import Mathlib.Data.List.Iterate
import Mathlib.Tactic.Linarith
import PageContracts.Proofs.Numbers
import PageContracts.Proofs.Retrying

/-! # How long the pauses of a budget are

The bound of a budget is put to each pause that grows out of another one. The first pause grows out of
nothing: it is the delay of the budget, and where that is above the bound, so is the first pause. -/
namespace PageContracts

open Runs

/-- Pauses that are worked out without rounding. -/
instance : PauseArithmetic ℚ where
  times pause factor := .ok (pause * factor)
  atMost pause bound := .ok (min pause bound)

namespace RetryBudget

section Exact

variable {budget : RetryBudget ℚ} {attempts : Int}

def following (budget : RetryBudget ℚ) (pause : ℚ) : ℚ :=
  min (pause * budget.multiplier) budget.maxDelay

theorem pausesFrom_eq_iterate (budget : RetryBudget ℚ) (left : Nat) (pause : ℚ) :
    budget.pausesFrom .ok left pause = .ok (List.iterate budget.following pause left) := by
  induction left generalizing pause with
  | zero => rfl
  | succ left ih =>
    have grown : budget.grow pause = .ok (budget.following pause) := rfl
    rw [pausesFrom, grown]
    change (do return pause :: (← budget.pausesFrom .ok left (budget.following pause))) = _
    rw [ih]
    rfl

theorem pauses_eq_iterate (counts : budget.maxAttempts.toInt? = some attempts) :
    budget.pauses = .ok (List.iterate budget.following budget.delay (attempts - 1).toNat) := by
  rw [pauses, pausesAs, pauseCount, counts]
  exact budget.pausesFrom_eq_iterate _ _

/-- Pauses that begin below the bound stay there. -/
theorem iterate_le {pause : ℚ} (below : pause ≤ budget.maxDelay) (left : Nat) :
    ∀ listed ∈ List.iterate budget.following pause left, listed ≤ budget.maxDelay := by
  induction left generalizing pause with
  | zero => nofun
  | succ left ih =>
    rw [List.iterate, List.forall_mem_cons]
    exact ⟨below, ih (min_le_right _ _)⟩

/-- The pauses of a budget as listed without rounding. -/
structure Listed (budget : RetryBudget ℚ) (attempts : Int) (pauses : List ℚ) : Prop where
  length : pauses.length = (attempts - 1).toNat
  first : ∀ pause ∈ pauses.head?, pause = budget.delay
  later_le : ∀ pause ∈ pauses.tail, pause ≤ budget.maxDelay
  /-- All of them keep the bound just where the first one does, if there is one. -/
  all_le_iff : (∀ pause ∈ pauses, pause ≤ budget.maxDelay) ↔
    attempts ≤ 1 ∨ budget.delay ≤ budget.maxDelay

theorem listed_iterate (budget : RetryBudget ℚ) (attempts : Int) :
    Listed budget attempts
      (List.iterate budget.following budget.delay (attempts - 1).toNat) := by
  obtain few | ⟨more, many⟩ : attempts ≤ 1 ∨ ∃ more, (attempts - 1).toNat = more + 1 := by
    by_cases few : attempts ≤ 1
    · exact .inl few
    · exact .inr ⟨(attempts - 2).toNat, by omega⟩
  · have none : (attempts - 1).toNat = 0 := by omega
    rw [none]
    exact ⟨none.symm, nofun, nofun, ⟨fun _ => .inl few, fun _ => nofun⟩⟩
  · have later : ∀ pause ∈ List.iterate budget.following (budget.following budget.delay) more,
        pause ≤ budget.maxDelay := iterate_le (min_le_right _ _) more
    rw [many]
    refine ⟨by rw [← many]; exact List.length_iterate .., ?_, later, ?_⟩
    · rintro pause ⟨⟩
      rfl
    · rw [List.iterate, List.forall_mem_cons, and_iff_left later]
      exact ⟨.inr, fun h => h.resolve_left (by omega)⟩

end Exact

section Made

variable {made : RetryBudget Value} {budget : RetryBudget ℚ} {attempts : Int}

/-- A budget of values with the attempts, the delay and the bound of an exact one. What the factor is,
and how a product is rounded, makes no difference to the bound. -/
structure Reads (made : RetryBudget Value) (budget : RetryBudget ℚ) : Prop where
  attempts : made.maxAttempts = budget.maxAttempts
  delay : made.delay.rational? = some budget.delay
  maxDelay : made.maxDelay.rational? = some budget.maxDelay

theorem lesser_le {a bound least : Value} {x y : ℚ}
    (lesser : PauseArithmetic.lesser a bound = .ok least) (bounds : bound.rational? = some y) (amounts : least.rational? = some x) : x ≤ y := by
  obtain ⟨below, compares, chosen⟩ := except_bind_eq_ok.mp lesser
  cases below with
  | true =>
    cases chosen
    cases bounds.symm.trans amounts
    exact le_rfl
  | false =>
    cases chosen
    change a.rational? = some x at amounts
    rw [Arithmetic.isLess_of_rational bounds amounts] at compares
    exact not_lt.mp (of_decide_eq_false (Except.ok.inj compares))

theorem Reads.pauseAfter_le (reads : made.Reads budget) {used : Nat} {pause : Value} {amount : ℚ}
    (worked : made.pauseAfter (used + 1) = .ok pause) (amounts : pause.rational? = some amount) :
    amount ≤ budget.maxDelay := by
  obtain ⟨before, -, grown⟩ := except_bind_eq_ok.mp worked
  obtain ⟨product, -, bounded⟩ := except_bind_eq_ok.mp grown
  exact lesser_le bounded reads.maxDelay amounts

/-- What some pauses come to; one that is no number counts for nothing. -/
def total (pauses : List Value) : ℚ :=
  (pauses.filterMap Value.rational?).sum

theorem total_le {pauses : List Value} {bound : ℚ} (nonNegative : 0 ≤ bound)
    (below : ∀ pause ∈ pauses, ∀ amount, pause.rational? = some amount → amount ≤ bound) :
    total pauses ≤ pauses.length * bound := by
  have amounts : ∀ amount ∈ pauses.filterMap Value.rational?, amount ≤ bound := by
    intro amount among
    obtain ⟨pause, listed, is⟩ := List.mem_filterMap.mp among
    exact below pause listed amount is
  have fewer : ((pauses.filterMap Value.rational?).length : ℚ) ≤ pauses.length := by
    exact_mod_cast List.length_filterMap_le _ _
  calc total pauses
    _ ≤ (pauses.filterMap Value.rational?).length • bound := List.sum_le_card_nsmul _ _ amounts
    _ = (pauses.filterMap Value.rational?).length * bound := nsmul_eq_mul _ _
    _ ≤ pauses.length * bound := mul_le_mul_of_nonneg_right fewer nonNegative

/-- The pauses are some of the first of a budget that has a number of attempts, in order. -/
structure Within (made : RetryBudget Value) (attempts : Int) (pauses : List Value) : Prop where
  length : pauses.length ≤ (attempts - 1).toNat
  follow : ∀ k pause, pauses[k]? = some pause → made.pauseAfter k = .ok pause

/-- How the bound of a budget is kept by pauses. Only the first may go beyond it, and by as much only as
the delay does. -/
structure Keeps (budget : RetryBudget ℚ) (attempts : Int) (pauses : List Value) : Prop where
  later_le : ∀ pause ∈ pauses.tail, ∀ amount, pause.rational? = some amount → amount ≤ budget.maxDelay
  total_le : 0 ≤ budget.maxDelay → total pauses ≤
    (attempts - 1).toNat * budget.maxDelay + max 0 (budget.delay - budget.maxDelay)
  all_le : budget.delay ≤ budget.maxDelay → ∀ pause ∈ pauses, ∀ amount,
    pause.rational? = some amount → amount ≤ budget.maxDelay

theorem Within.keeps {pauses : List Value} (reads : made.Reads budget)
    (within : made.Within attempts pauses) : Keeps budget attempts pauses := by
  cases pauses with
  | nil =>
    refine ⟨nofun, fun nonNegative => ?_, fun _ => nofun⟩
    exact add_nonneg (mul_nonneg (Nat.cast_nonneg _) nonNegative) (le_max_left _ _)
  | cons first later =>
    have delayed : first = made.delay := (Except.ok.inj (within.follow 0 first rfl)).symm
    have first_eq : first.rational? = some budget.delay := delayed ▸ reads.delay
    have later_le : ∀ pause ∈ later, ∀ amount, pause.rational? = some amount →
        amount ≤ budget.maxDelay := by
      intro pause listed amount amounts
      obtain ⟨k, here⟩ := List.mem_iff_getElem?.mp listed
      exact reads.pauseAfter_le (within.follow (k + 1) pause here) amounts
    refine ⟨later_le, fun nonNegative => ?_, fun below pause listed amount amounts => ?_⟩
    · have rest := RetryBudget.total_le nonNegative later_le
      have whole : total (first :: later) = budget.delay + total later := by
        rw [total, List.filterMap_cons, first_eq, List.sum_cons, total]
      have count : (later.length : ℚ) + 1 ≤ (attempts - 1).toNat := by
        exact_mod_cast within.length
      have beyond := le_max_right 0 (budget.delay - budget.maxDelay)
      have bounds := mul_le_mul_of_nonneg_right count nonNegative
      linarith
    · rcases List.mem_cons.mp listed with rfl | listed
      · cases first_eq.symm.trans amounts
        exact below
      · exact later_le pause listed amount amounts

theorem within_of_pauses {pauses : List Value} (counts : made.maxAttempts.toInt? = some attempts)
    (listed : made.pauses = .ok pauses) :
    made.Within attempts pauses ∧ pauses.length = (attempts - 1).toNat := by
  rw [RetryBudget.pauses, pausesAs, pauseCount, counts] at listed
  have first : made.pauseAfter 0 = .ok made.delay := rfl
  obtain ⟨length, follow, -⟩ := pausesFrom_eq_ok first listed
  simp only [Nat.zero_add] at follow
  exact ⟨⟨length.le, follow⟩, length⟩

variable {β α : Type} {name : String} {expected : Failure → Bool} {body : Run β α}

theorem within_of_repeats {world middle : World β} {repeated : List (Failure × Value)}
    (counts : made.maxAttempts.toInt? = some attempts)
    (repeats : Retry.Repeats made name expected body world repeated middle) :
    made.Within attempts (repeated.map Prod.snd) := by
  have counted : made.pauseCount = .ok (attempts - 1).toNat := by
    rw [pauseCount, counts]
  refine ⟨by rw [List.length_map]; exact repeats.length_le counted, fun k pause here => ?_⟩
  rw [List.getElem?_map] at here
  obtain ⟨⟨failure, pause⟩, listed, rfl⟩ := Option.map_eq_some_iff.mp here
  exact (repeats.pauseAfter counted listed).1

end Made

/-- How the bound of a budget with a number of attempts is kept: by its pauses without rounding, by
those that are listed with it, and by those that an invocation makes. -/
structure Capped (budget : RetryBudget ℚ) (attempts : Int) : Prop where
  unrounded : ∃ pauses, budget.pauses = .ok pauses ∧ Listed budget attempts pauses
  rounded : ∀ made : RetryBudget Value, made.Reads budget → ∀ pauses, made.pauses = .ok pauses →
    pauses.length = (attempts - 1).toNat ∧ Keeps budget attempts pauses
  made : ∀ made : RetryBudget Value, made.Reads budget →
    ∀ {β α : Type} (name : String) (expected : Failure → Bool) (body : Run β α) (world : World β),
      ∃ repeated middle, Retry.Repeats made name expected body world repeated middle ∧
        Retry.Concludes made name expected body repeated.length middle
          (Retry.run made name expected body world) ∧
        (repeated.map Prod.snd).length ≤ (attempts - 1).toNat ∧
        Keeps budget attempts (repeated.map Prod.snd)

/-- Whatever the budget, no pause but the first goes beyond the bound, and the first just where the
delay does. -/
theorem capped_of_counts {budget : RetryBudget ℚ} {attempts : Int}
    (counts : budget.maxAttempts.toInt? = some attempts) : Capped budget attempts := by
  have made_counts {made : RetryBudget Value} (reads : made.Reads budget) :
      made.maxAttempts.toInt? = some attempts := reads.attempts ▸ counts
  refine ⟨⟨_, pauses_eq_iterate counts, listed_iterate budget attempts⟩, ?_, ?_⟩
  · intro made reads pauses listed
    obtain ⟨within, length⟩ := within_of_pauses (made_counts reads) listed
    exact ⟨length, within.keeps reads⟩
  · intro made reads β α name expected body world
    obtain ⟨repeated, middle, repeats, concludes⟩ :=
      Retry.spends_run made name expected body world
    have within := within_of_repeats (made_counts reads) repeats
    exact ⟨repeated, middle, repeats, concludes, within.length, within.keeps reads⟩

end RetryBudget

namespace Retry.Trial

/-- The budget that is used unless another is given, without rounding. -/
def usual : RetryBudget ℚ where
  maxAttempts := .int 3
  delay := 1 / 2
  multiplier := 2
  maxDelay := 5

theorem usual_capped :
    usual.maxAttempts.toInt? = some 3 ∧ RetryBudget.standard.Reads usual ∧
      RetryBudget.Capped usual 3 ∧ usual.pauses = .ok [1 / 2, 1] := by
  have reads : RetryBudget.standard.Reads usual := ⟨rfl, by decide +kernel, by decide +kernel⟩
  exact ⟨rfl, reads, RetryBudget.capped_of_counts rfl, by decide +kernel⟩

/-- Two attempts and a pause of ten seconds in between, which are to be five at most. -/
def slow : RetryBudget Value where
  maxAttempts := .int 2
  delay := .float (.ofRatio false 10 1)
  multiplier := .float (.ofRatio false 2 1)
  maxDelay := .float (.ofRatio false 5 1)

def slowly : RetryBudget ℚ where
  maxAttempts := .int 2
  delay := 10
  multiplier := 2
  maxDelay := 5

/-- The pauses among some events. -/
def slept (events : List Event) : List Value :=
  events.filterMap fun
    | .sleep pause => some pause
    | _ => none

/-- The only pause of the budget goes beyond its bound, and so does what a lookup that needs both
attempts has waited. -/
theorem first_pause_uncapped :
    slow.Reads slowly ∧ slowly.pauses = .ok [10] ∧ ¬ (10 : ℚ) ≤ slowly.maxDelay ∧
      RetryBudget.total (slept
        (Runs.after (run slow "lookup" (fun _ => true) (lookup 2)) world).events) = 10 ∧
      ¬ (10 : ℚ) ≤ 1 * slowly.maxDelay := by
  have reads : slow.Reads slowly := ⟨rfl, by decide +kernel, by decide +kernel⟩
  exact ⟨reads, by decide +kernel, by decide +kernel, by decide +kernel, by decide +kernel⟩

end Retry.Trial
end PageContracts
