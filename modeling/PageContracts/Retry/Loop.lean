import PageContracts.World

/-! # Retrying

Trying a lookup again while it fails in an expected way and the budget has pauses left. The last
failure is the one that is reported.
-/
namespace PageContracts.Retry

variable {β α : Type}

/-- What is logged before a pause. -/
def retryMessage (budget : RetryBudget Value) (name : String) (attempt : Nat)
    (failure : Failure) (pause : Value) : Except Failure String := do
  let attempts ← budget.maxAttempts.spoken
  let pause ← pause.spoken
  return name ++ " attempt " ++ toString attempt ++ "/" ++ attempts ++ " failed: " ++
    failure.message ++ ". Retrying in " ++ pause ++ "s"

/-- What is logged when the budget is used up. -/
def giveUpMessage (name : String) (attempt : Nat) (failure : Failure) : String :=
  name ++ " failed " ++ toString attempt ++ " time(s), giving up: " ++ failure.message

/-- Go on after an expected failure of the given attempt: pause and try again while there are
pauses left. A pause that is nothing counts as none. -/
def after (budget : RetryBudget Value) (name : String) (expected : Failure → Bool)
    (body : Run β α) : Nat → Value → Nat → Failure → Run β α
  | 0, _, attempt, failure => giveUp attempt failure
  | _, .none, attempt, failure => giveUp attempt failure
  | left + 1, pause, attempt, failure => do
    Run.log .warning (← Run.ofExcept (retryMessage budget name attempt failure pause))
    Run.note (.sleep pause)
    try body
    catch later =>
      if expected later then do
        let next ← Run.ofExcept (budget.grow pause)
        after budget name expected body left next (attempt + 1) later
      else throw later
where
  /-- Report the last failure. -/
  giveUp (attempt : Nat) (failure : Failure) : Run β α := do
    Run.log .error (giveUpMessage name attempt failure)
    throw failure

/-- Run a lookup within a budget. -/
def run (budget : RetryBudget Value) (name : String) (expected : Failure → Bool)
    (body : Run β α) : Run β α :=
  try body
  catch failure =>
    if expected failure then do
      let left ← Run.ofExcept budget.pauseCount
      after budget name expected body left budget.delay 1 failure
    else throw failure

end PageContracts.Retry
