import PageContracts.Proofs.Runs
import PageContracts.Retry.Loop

/-! # Retrying within a budget

A lookup is called until a call does not fail in an expected way, or until the budget is used up.
Between two calls there is one warning and one pause, and the pauses are those of the budget in order.
The pause after a failed call is worked out before it is known to be needed, and the warning is written
before the pause: if either goes wrong, that failure ends the calls. -/
namespace PageContracts

open Runs

namespace RetryBudget

section Pauses

variable {α : Type} [PauseArithmetic α] {budget : RetryBudget α}

/-- The pause that comes after a number of pauses. -/
def pauseAfter (budget : RetryBudget α) : Nat → Except Failure α
  | 0 => .ok budget.delay
  | used + 1 => do budget.grow (← budget.pauseAfter used)

theorem pauseAfter_succ {used : Nat} {pause : α} (had : budget.pauseAfter used = .ok pause) :
    budget.pauseAfter (used + 1) = budget.grow pause := by
  rw [pauseAfter, had]
  rfl

/-- The listed pauses are those that come one after the other. The one behind the last is worked out as
well. -/
theorem pausesFrom_eq_ok {left used : Nat} {pause : α} {pauses : List α}
    (had : budget.pauseAfter used = .ok pause) (h : budget.pausesFrom .ok left pause = .ok pauses) :
    pauses.length = left ∧
      (∀ k listed, pauses[k]? = some listed → budget.pauseAfter (used + k) = .ok listed) ∧
      ∃ last, budget.pauseAfter (used + left) = .ok last := by
  induction left generalizing used pause pauses with
  | zero =>
    cases h
    exact ⟨rfl, nofun, pause, had⟩
  | succ left ih =>
    obtain ⟨first, same, h⟩ := except_bind_eq_ok.mp h
    cases same
    obtain ⟨next, grown, h⟩ := except_bind_eq_ok.mp h
    obtain ⟨rest, more, h⟩ := except_bind_eq_ok.mp h
    cases h
    have later : budget.pauseAfter (used + 1) = .ok next := (pauseAfter_succ had).trans grown
    obtain ⟨length, lists, last⟩ := ih later more
    have shift (k : Nat) : used + 1 + k = used + (k + 1) := by omega
    refine ⟨congrArg Nat.succ length, fun k listed found => ?_, by rwa [shift left] at last⟩
    cases k with
    | zero =>
      cases found
      exact had
    | succ k =>
      rw [← shift k]
      exact lists k listed found

end Pauses

variable {budget : RetryBudget Value} {count used : Nat}

/-- The pause to be made when a number of pauses has been made, if the budget has another one. A pause
that is nothing counts as none. -/
def next? (budget : RetryBudget Value) (used : Nat) : Except Failure (Option Value) := do
  let count ← budget.pauseCount
  match ← budget.pauseAfter used with
  | .none => return none
  | pause => return if used < count then some pause else none

def NonNegative (budget : RetryBudget Value) : Prop :=
  ∀ count used pause, budget.pauseCount = .ok count → used < count →
    budget.pauseAfter used = .ok pause → Arithmetic.isLess pause (.int 0) = .ok false

theorem next?_of_pause (counted : budget.pauseCount = .ok count) {pause : Value}
    (worked : budget.pauseAfter used = .ok pause) (made : pause ≠ .none) :
    budget.next? used = .ok (if used < count then some pause else none) := by
  rw [next?, counted, worked]
  cases pause with
  | none => exact absurd rfl made
  | _ => rfl

theorem next?_of_nothing (counted : budget.pauseCount = .ok count)
    (worked : budget.pauseAfter used = .ok .none) : budget.next? used = .ok none := by
  rw [next?, counted, worked]
  rfl

theorem next?_of_spent (counted : budget.pauseCount = .ok count) {pause : Value}
    (worked : budget.pauseAfter used = .ok pause) (spent : count ≤ used) :
    budget.next? used = .ok none := by
  by_cases nothing : pause = .none
  · exact next?_of_nothing counted (nothing ▸ worked)
  · rw [next?_of_pause counted worked nothing, if_neg (Nat.not_lt.mpr spent)]

theorem next?_of_broken (counted : budget.pauseCount = .ok count) {mishap : Failure}
    (broken : budget.pauseAfter used = .error mishap) : budget.next? used = .error mishap := by
  rw [next?, counted, broken]
  rfl

theorem next?_eq_ok {given : Option Value} (h : budget.next? used = .ok given) :
    ∃ count pause, budget.pauseCount = .ok count ∧ budget.pauseAfter used = .ok pause ∧
      (given = none ∧ (pause = .none ∨ count ≤ used) ∨ given = some pause ∧ used < count) := by
  obtain ⟨count, counted, h⟩ := except_bind_eq_ok.mp h
  obtain ⟨pause, worked, h⟩ := except_bind_eq_ok.mp h
  refine ⟨count, pause, counted, worked, ?_⟩
  split at h
  · cases h
    exact .inl ⟨rfl, .inl rfl⟩
  · cases h
    by_cases more : used < count
    · exact .inr ⟨if_pos more, more⟩
    · exact .inl ⟨if_neg more, .inr (Nat.not_lt.mp more)⟩

theorem NonNegative.made (nonNegative : budget.NonNegative) (counted : budget.pauseCount = .ok count)
    (more : used < count) {pause : Value} (worked : budget.pauseAfter used = .ok pause) :
    pause ≠ .none := by
  rintro rfl
  cases nonNegative count used .none counted more worked

/-- Budgets without negative pauses have nothing left just when all their pauses have been made. -/
theorem NonNegative.spent (nonNegative : budget.NonNegative) (h : budget.next? used = .ok none) :
    ∃ count, budget.pauseCount = .ok count ∧ count ≤ used := by
  obtain ⟨count, pause, counted, worked, ⟨-, nothing | spent⟩ | ⟨given, -⟩⟩ := next?_eq_ok h
  · exact ⟨count, counted, Nat.not_lt.mp fun more => nonNegative.made counted more worked nothing⟩
  · exact ⟨count, counted, spent⟩
  · cases given

/-- A budget whose pauses can all be worked out has these, one after the other, and then no more. -/
theorem NonNegative.next?_of_pauses (nonNegative : budget.NonNegative) {pauses : List Value}
    (worked : budget.pauses = .ok pauses) (within : used ≤ pauses.length) :
    budget.next? used = .ok pauses[used]? := by
  obtain ⟨count, counted, listed⟩ := except_bind_eq_ok.mp worked
  have first : budget.pauseAfter 0 = .ok budget.delay := rfl
  obtain ⟨length, lists, last, ends⟩ := pausesFrom_eq_ok first listed
  simp only [Nat.zero_add] at lists ends
  cases found : pauses[used]? with
  | none =>
    have all : used = count := by
      have beyond := List.getElem?_eq_none_iff.mp found
      omega
    exact next?_of_spent counted (all ▸ ends) (Nat.le_of_eq all.symm)
  | some pause =>
    have more : used < count := length ▸ (List.getElem?_eq_some_iff.mp found).1
    have here := lists used pause found
    rw [next?_of_pause counted here (nonNegative.made counted more here), if_pos more]

end RetryBudget

namespace Retry

variable {β α : Type} {budget : RetryBudget Value} {name : String} {expected : Failure → Bool}
  {body : Run β α}

def paused (world : World β) (message : String) (pause : Value) : World β :=
  { world with
    records := world.records ++ [{ level := .warning, message }]
    events := world.events ++ [.sleep pause] }

def givenUp (world : World β) (message : String) : World β :=
  { world with records := world.records ++ [{ level := .error, message }] }

/-- Calls that have all been repeated, each with its failure and the pause made after it: the call has
failed in an expected way, a warning has been logged, and the budget's next pause has been made. -/
inductive Repeats (budget : RetryBudget Value) (name : String) (expected : Failure → Bool)
    (body : Run β α) (world : World β) : List (Failure × Value) → World β → Prop
  | start : Repeats budget name expected body world [] world
  | again {repeated : List (Failure × Value)} {middle later : World β} {failure : Failure}
      {pause : Value} {message : String} (before : Repeats budget name expected body world repeated middle)
      (fails : body middle = .error failure later) (expects : expected failure = true)
      (pauses : budget.next? repeated.length = .ok (some pause))
      (warns : retryMessage budget name (repeated.length + 1) failure pause = .ok message) :
      Repeats budget name expected body world (repeated ++ [(failure, pause)])
        (paused later message pause)

/-- After an expected failure the next pause cannot be worked out, or the warning cannot be written. -/
def Breaks (budget : RetryBudget Value) (name : String) (repeated : Nat) (failure mishap : Failure) :
    Prop :=
  budget.next? repeated = .error mishap ∨ ∃ pause, budget.next? repeated = .ok (some pause) ∧
    retryMessage budget name (repeated + 1) failure pause = .error mishap

/-- What comes of the call that is not repeated, a number of calls having been repeated before it. -/
inductive Concludes (budget : RetryBudget Value) (name : String) (expected : Failure → Bool)
    (body : Run β α) (repeated : Nat) (middle : World β) :
    EStateM.Result Failure (World β) α → Prop
  | returns {a : α} {later : World β} (succeeds : body middle = .ok a later) :
      Concludes budget name expected body repeated middle (.ok a later)
  | passes {failure : Failure} {later : World β} (fails : body middle = .error failure later)
      (unexpected : expected failure = false) :
      Concludes budget name expected body repeated middle (.error failure later)
  /-- The budget has no further pause: that is reported, and the failure passed on. -/
  | givesUp {failure : Failure} {later : World β} (fails : body middle = .error failure later)
      (expects : expected failure = true) (spent : budget.next? repeated = .ok none) :
      Concludes budget name expected body repeated middle
        (.error failure (givenUp later (giveUpMessage name (repeated + 1) failure)))
  /-- There is no going on after the failure. -/
  | breaksOff {failure mishap : Failure} {later : World β}
      (fails : body middle = .error failure later) (expects : expected failure = true)
      (breaks : Breaks budget name repeated failure mishap) :
      Concludes budget name expected body repeated middle (.error mishap later)

/-- An invocation repeats some calls and concludes with the one after them. -/
def Spends (budget : RetryBudget Value) (name : String) (expected : Failure → Bool)
    (body : Run β α) (world : World β) (result : EStateM.Result Failure (World β) α) : Prop :=
  ∃ repeated middle, Repeats budget name expected body world repeated middle ∧
    Concludes budget name expected body repeated.length middle result

/-- After an expected failure with some pauses left, the loop goes on as the budget has it. -/
theorem spends_after {world middle later : World β} {repeated : List (Failure × Value)}
    {failure : Failure} {left count : Nat} {pause : Value}
    (before : Repeats budget name expected body world repeated middle)
    (fails : body middle = .error failure later) (expects : expected failure = true)
    (counted : budget.pauseCount = .ok count) (remain : left + repeated.length = count)
    (worked : budget.pauseAfter repeated.length = .ok pause) :
    Spends budget name expected body world
      (after budget name expected body left pause (repeated.length + 1) failure later) := by
  -- the pauses left and those made stay as many as the budget has, and the one at hand is the next
  induction left generalizing repeated middle later failure pause with
  | zero =>
    have spent := RetryBudget.next?_of_spent counted worked (by omega)
    unfold after
    exact ⟨repeated, middle, before, .givesUp fails expects spent⟩
  | succ left ih =>
    by_cases nothing : pause = .none
    · subst nothing
      have spent := RetryBudget.next?_of_nothing counted worked
      exact ⟨repeated, middle, before, .givesUp fails expects spent⟩
    · have given : budget.next? repeated.length = .ok (some pause) := by
        rw [RetryBudget.next?_of_pause counted worked nothing, if_pos (by omega)]
      rw [after.eq_3 _ _ _ _ _ _ _ _ nothing, bind_apply]
      cases warned : retryMessage budget name (repeated.length + 1) failure pause with
      | error mishap =>
        exact ⟨repeated, middle, before, .breaksOff fails expects (.inr ⟨pause, given, warned⟩)⟩
      | ok message =>
        have repeats := before.again fails expects given warned
        have longer : (repeated ++ [(failure, pause)]).length = repeated.length + 1 := by simp
        have next := RetryBudget.pauseAfter_succ worked
        rw [← longer] at next
        change Spends budget name expected body world (tryCatch body _ (paused later message pause))
        rw [tryCatch_apply]
        cases called : body (paused later message pause) with
        | ok a ended => exact ⟨_, _, repeats, .returns called⟩
        | error failure' later' =>
          cases expects' : expected failure' with
          | false => exact ⟨_, _, repeats, by simpa [expects'] using .passes called expects'⟩
          | true =>
            simp only [expects', if_true]
            cases grown : budget.grow pause with
            | error mishap =>
              have broken := RetryBudget.next?_of_broken counted (next.trans grown)
              exact ⟨_, _, repeats, .breaksOff called expects' (.inl broken)⟩
            | ok pause' =>
              rw [← longer]
              exact ih repeats called expects' (by omega) (next.trans grown)

/-- Every invocation spends the budget anew, whatever has happened before. -/
theorem spends_run (budget : RetryBudget Value) (name : String) (expected : Failure → Bool)
    (body : Run β α) (world : World β) :
    Spends budget name expected body world (run budget name expected body world) := by
  rw [run, tryCatch_apply]
  cases called : body world with
  | ok a later => exact ⟨[], world, .start, .returns called⟩
  | error failure later =>
    cases expects : expected failure with
    | false => exact ⟨[], world, .start, by simpa [expects] using .passes called expects⟩
    | true =>
      simp only [expects, if_true]
      cases counted : budget.pauseCount with
      | error mishap =>
        have broken : budget.next? 0 = .error mishap := by
          rw [RetryBudget.next?, counted]
          rfl
        exact ⟨[], world, .start, .breaksOff called expects (.inl broken)⟩
      | ok count => exact spends_after .start called expects counted rfl rfl

theorem Repeats.pauses {world middle : World β} {repeated : List (Failure × Value)}
    (h : Repeats budget name expected body world repeated middle) {k : Nat} {failure : Failure}
    {pause : Value} (listed : repeated[k]? = some (failure, pause)) :
    expected failure = true ∧ budget.next? k = .ok (some pause) := by
  induction h with
  | start => cases listed
  | @again before _ _ _ _ _ _ _ expects pauses _ ih =>
    rcases Nat.lt_trichotomy k before.length with early | rfl | late
    · rw [List.getElem?_append_left early] at listed
      exact ih listed
    · rw [List.getElem?_concat_length] at listed
      cases listed
      exact ⟨expects, pauses⟩
    · rw [List.getElem?_eq_none (by simp; omega)] at listed
      cases listed

/-- The pauses made are the first of the budget. -/
theorem Repeats.pauseAfter {world middle : World β} {repeated : List (Failure × Value)} {count : Nat}
    (h : Repeats budget name expected body world repeated middle)
    (counted : budget.pauseCount = .ok count) {k : Nat} {failure : Failure} {pause : Value}
    (listed : repeated[k]? = some (failure, pause)) :
    budget.pauseAfter k = .ok pause ∧ k < count := by
  obtain ⟨count', made, counted', worked, ⟨given, -⟩ | ⟨given, more⟩⟩ :=
    RetryBudget.next?_eq_ok (h.pauses listed).2
  · cases given
  · cases given
    cases counted.symm.trans counted'
    exact ⟨worked, more⟩

theorem Repeats.length_le {world middle : World β} {repeated : List (Failure × Value)} {count : Nat}
    (h : Repeats budget name expected body world repeated middle)
    (counted : budget.pauseCount = .ok count) : repeated.length ≤ count := by
  rcases Nat.eq_zero_or_pos repeated.length with none | some
  · omega
  · have last : repeated.length - 1 < repeated.length := by omega
    have more := (h.pauseAfter counted (List.getElem?_eq_getElem last)).2
    omega

/-- How an invocation has spent a budget of a number of attempts: which calls it has repeated, and the
world of the call that it has not. -/
structure Spent (budget : RetryBudget Value) (attempts : Int) (name : String)
    (expected : Failure → Bool) (body : Run β α) (world : World β)
    (result : EStateM.Result Failure (World β) α) (repeated : List (Failure × Value))
    (middle : World β) : Prop where
  repeats : Repeats budget name expected body world repeated middle
  concludes : Concludes budget name expected body repeated.length middle result
  within : repeated.length + 1 ≤ (max 1 attempts).toNat
  exhausts : budget.next? repeated.length = .ok none →
    repeated.length + 1 = (max 1 attempts).toNat
  /-- The pauses are the first of the budget, as far as it can be worked out. -/
  pauses : ∀ k failure pause, repeated[k]? = some (failure, pause) → budget.pauseAfter k = .ok pause
  listed : ∀ pauses, budget.pauses = .ok pauses →
    repeated.map Prod.snd = pauses.take repeated.length ∧
      budget.next? repeated.length = .ok pauses[repeated.length]?

/-- However often it has been invoked before, a lookup is called until a call does not fail in an
expected way or the attempts are used up, with the budget's pauses in between. -/
theorem spent_of_run {budget : RetryBudget Value} {attempts : Int}
    (counts : budget.maxAttempts.toInt? = some attempts) (nonNegative : budget.NonNegative)
    (name : String) (expected : Failure → Bool) (body : Run β α) (world : World β) :
    ∃ repeated middle, Spent budget attempts name expected body world
      (run budget name expected body world) repeated middle := by
  obtain ⟨repeated, middle, repeats, concludes⟩ := spends_run budget name expected body world
  have counted : budget.pauseCount = .ok (attempts - 1).toNat := by
    rw [RetryBudget.pauseCount, counts]
  have within : repeated.length ≤ (attempts - 1).toNat := repeats.length_le counted
  refine ⟨repeated, middle, repeats, concludes, by omega, fun spent => ?_,
    fun _ _ _ listed => (repeats.pauseAfter counted listed).1, fun all worked => ?_⟩
  · obtain ⟨count, counted', spent⟩ := nonNegative.spent spent
    cases counted.symm.trans counted'
    omega
  · have length : all.length = (attempts - 1).toNat := by
      obtain ⟨count, counted', listed⟩ := except_bind_eq_ok.mp worked
      cases counted.symm.trans counted'
      have first : budget.pauseAfter 0 = .ok budget.delay := rfl
      exact (RetryBudget.pausesFrom_eq_ok first listed).1
    have next (k : Nat) (here : k ≤ repeated.length) : budget.next? k = .ok all[k]? :=
      nonNegative.next?_of_pauses worked (by omega)
    refine ⟨List.ext_getElem? fun k => ?_, next _ (Nat.le_refl _)⟩
    rw [List.getElem?_map, List.getElem?_take]
    cases listed : repeated[k]? with
    | none => rw [if_neg (Nat.not_lt.mpr (List.getElem?_eq_none_iff.mp listed)), Option.map_none]
    | some made =>
      have early := (List.getElem?_eq_some_iff.mp listed).1
      have given := (repeats.pauses listed).2
      rw [next k (Nat.le_of_lt early)] at given
      rw [if_pos early, Except.ok.inj given, Option.map_some]

namespace Trial

def absent : Failure := .own .elementNotFound "absent"

/-- A lookup that is in vain until it is called for so many times; the world counts the calls. -/
def lookup (needed : Nat) : Run Nat Unit := fun world =>
  let called := { world with browser := world.browser + 1 }
  if called.browser < needed then .error absent called else .ok () called

def world : World Nat where
  browser := 0
  clock := default

/-- The third of three calls brings a result, after the first two pauses. -/
theorem found_at_last :
    RetryBudget.standard.maxAttempts.toInt? = some 3 ∧ RetryBudget.standard.NonNegative ∧
      (∃ repeated middle, Spent .standard 3 "lookup" (fun _ => true) (lookup 3) world
        (run .standard "lookup" (fun _ => true) (lookup 3) world) repeated middle) ∧
      failure? (run .standard "lookup" (fun _ => true) (lookup 3) world) = none ∧
      (Runs.after (run .standard "lookup" (fun _ => true) (lookup 3)) world).records.map
        LogRecord.level = [.warning, .warning] := by
  have nonNegative : RetryBudget.standard.NonNegative := by
    intro count used pause counted more worked
    cases counted
    have early : used = 0 ∨ used = 1 := by
      have bound : used < 2 := more
      omega
    rcases early with rfl | rfl
    · cases worked
      rfl
    · cases worked
      rfl
  exact ⟨rfl, nonNegative, spent_of_run rfl nonNegative _ _ _ _, by decide +kernel,
    by decide +kernel⟩

/-- Two attempts, a pause of one second, and a factor beyond all doubles. -/
def steep : RetryBudget Value where
  maxAttempts := .int 2
  delay := .float (.ofRatio false 1 1)
  multiplier := .int (Int.ofNat (Nat.pow 10 400))
  maxDelay := .float (.ofRatio false 5 1)

/-- Both attempts fail and the only pause has been made, but the failure that is passed on is not the
one of the second attempt, and it is not reported that the budget is used up. -/
theorem last_failure_lost :
    steep.maxAttempts.toInt? = some 2 ∧ steep.NonNegative ∧
      (∀ called : World Nat, called.browser < 2 → failure? (lookup 3 called) = some absent) ∧
      failure? (run steep "lookup" (fun _ => true) (lookup 3) world) =
        some (.breach .overflow "int too large to convert to float") ∧
      (Runs.after (run steep "lookup" (fun _ => true) (lookup 3)) world).browser = 2 ∧
      (Runs.after (run steep "lookup" (fun _ => true) (lookup 3)) world).records.map
        LogRecord.level = [.warning] := by
  have nonNegative : steep.NonNegative := by
    intro count used pause counted more worked
    cases counted
    cases Nat.lt_one_iff.mp more
    cases worked
    rfl
  have fails (called : World Nat) (early : called.browser < 2) :
      failure? (lookup 3 called) = some absent := by
    rw [lookup, if_pos (Nat.succ_lt_succ early)]
    rfl
  exact ⟨rfl, nonNegative, fails, by decide +kernel, by decide +kernel, by decide +kernel⟩

end Trial
end Retry
end PageContracts
