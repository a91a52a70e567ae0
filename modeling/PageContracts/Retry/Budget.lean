import PageContracts.Number.Reading
import PageContracts.Value.Arithmetic

/-! # Retry budgets

How often a lookup is tried and how long it pauses in between. The first pause is the given
delay; each later one is the one before times a factor, but no more than a bound.
-/
namespace PageContracts

/-- The arithmetic of pauses: multiplying, and taking the lesser of a pause and its bound. -/
class PauseArithmetic (α : Type) where
  times : α → α → Except Failure α
  atMost : α → α → Except Failure α

namespace PauseArithmetic

/-- Whatever can be read as a number as a double. -/
def asDouble (value : Value) : Except Failure Binary64 :=
  match value.core with
  | .text text =>
    match Reading.double? text with
    | some x => .ok x
    | none => .error (.valueBreach "could not convert text to a number")
  | core =>
    (Arithmetic.double? core).getD (.error (.typeBreach ("not a number: " ++ value.typeName)))

/-- A number, unless the bound is below it. -/
def lesser (a bound : Value) : Except Failure Value := do
  let bounded ← Arithmetic.isLess bound a
  return if bounded then bound else a

instance : PauseArithmetic Value where
  times := Arithmetic.product
  atMost := lesser

end PauseArithmetic

/-- An attempt budget: the number of attempts, the first pause, the factor by which pauses grow,
and the bound on them. The number of attempts is looked at only when an attempt has failed, so
it may turn out not to be a number. -/
structure RetryBudget (α : Type) where
  maxAttempts : Value
  delay : α
  multiplier : α
  maxDelay : α
  deriving Repr, Inhabited

namespace RetryBudget

/-- The budget that is used unless another is given: three attempts, half a second, doubling up
to five seconds. -/
def standard : RetryBudget Value where
  maxAttempts := .int 3
  delay := .float (.ofRatio false 1 2)
  multiplier := .float (.ofRatio false 2 1)
  maxDelay := .float (.ofRatio false 5 1)

variable {α : Type}

/-- The number of pauses: one less than the attempts, and none when there is no attempt to be
made. -/
def pauseCount (budget : RetryBudget α) : Except Failure Nat :=
  match budget.maxAttempts.toInt? with
  | some attempts => .ok (attempts - 1).toNat
  | none => .error (.typeBreach ("not an integer: " ++ budget.maxAttempts.typeName))

variable [PauseArithmetic α]

/-- The pause after another. -/
def grow (budget : RetryBudget α) (pause : α) : Except Failure α := do
  PauseArithmetic.atMost (← PauseArithmetic.times pause budget.multiplier) budget.maxDelay

/-- The pauses from one on, each in the form in which it is used. The one after is worked out when a
pause has been used, even when it was the last. -/
def pausesFrom {γ : Type} (budget : RetryBudget α) (use : α → Except Failure γ) :
    Nat → α → Except Failure (List γ)
  | 0, _ => .ok []
  | left + 1, pause => do
    let used ← use pause
    let next ← budget.grow pause
    return used :: (← budget.pausesFrom use left next)

/-- All pauses of a budget, in order and in the form in which they are used. -/
def pausesAs {γ : Type} (budget : RetryBudget α) (use : α → Except Failure γ) :
    Except Failure (List γ) := do
  budget.pausesFrom use (← budget.pauseCount) budget.delay

/-- All pauses of a budget, in order. -/
def pauses (budget : RetryBudget α) : Except Failure (List α) :=
  budget.pausesAs .ok

end RetryBudget
end PageContracts
