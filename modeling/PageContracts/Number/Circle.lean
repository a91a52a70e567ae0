import PageContracts.Number.Power

/-! # Sine and cosine

The sine and the cosine of a number, worked out in fixed point and rounded once. The number is taken
off by whole turns first.
-/
namespace PageContracts.Binary64.Circle

open Power

/-- The arc whose tangent is one over a number, in fixed point. -/
def arcOf (n : Int) : Int :=
  let z := one.fdiv n
  arcSum (-(times z z)) 120 1 z

/-- Half a turn in fixed point. -/
def half : Int := 4 * (4 * arcOf 5 - arcOf 239)

/-- The terms `term, -term * square / ((n + 1) * (n + 2)), …` summed. -/
def waveSum (square : Int) : Nat → Int → Int → Int
  | 0, _, _ => 0
  | fuel + 1, n, term =>
    term + waveSum square fuel (n + 2) (-((times term square).fdiv ((n + 1) * (n + 2))))

/-- A finite number in fixed point, less whole turns. -/
def angle (x : Binary64) : Option Int :=
  match x with
  | .finite negative significand exponent =>
    let (num, den) := toQuotient negative significand exponent
    some (((num * one).fdiv den).fmod (2 * half))
  | _ => none

/-- The double nearest to a number in fixed point. -/
def rounded (x : Int) : Binary64 :=
  ofRatio (x < 0) x.natAbs (Nat.pow 2 precision)

/-- The cosine of a number. -/
def cosine (x : Binary64) : Binary64 :=
  match angle x with
  | some a => rounded (waveSum (times a a) 100 0 one)
  | none => .nan

/-- The sine of a number. -/
def sine (x : Binary64) : Binary64 :=
  match angle x with
  | some a => rounded (waveSum (times a a) 100 1 a)
  | none => .nan

end PageContracts.Binary64.Circle
