/-! # Binary floating point

Double-precision numbers as plain data: a sign, a natural significand and a power of two. Every
operation is exact integer arithmetic followed by one rounding to nearest, ties to even.
-/
namespace PageContracts

/-- A double-precision number. A finite one is `significand * 2 ^ exponent` with its sign; the
constructor functions below keep it canonical: the significand is below `2 ^ 53`, and at least
`2 ^ 52` unless the exponent is the least one. -/
inductive Binary64 where
  | nan
  | infinity (negative : Bool)
  | finite (negative : Bool) (significand : Nat) (exponent : Int)
  deriving DecidableEq, Repr, Inhabited

namespace Binary64

/-- The exponent of the smallest numbers. -/
def leastExponent : Int := -1074

/-- The greatest exponent of a finite number. -/
def greatestExponent : Int := 971

/-- A number with the other sign. -/
def opposite : Binary64 → Binary64
  | .nan => .nan
  | .infinity negative => .infinity (!negative)
  | .finite negative significand exponent => .finite (!negative) significand exponent

/-- Zero of either sign. -/
def zero (negative : Bool) : Binary64 :=
  .finite negative 0 leastExponent

/-- The quotient `num * 2 ^ (-shift) / den` as a pair of naturals. -/
def scaled (num den : Nat) (shift : Int) : Nat × Nat :=
  if 0 ≤ shift then (num, den * Nat.pow 2 shift.toNat) else (num * Nat.pow 2 (-shift).toNat, den)

/-- A quotient of naturals rounded to the nearest natural, ties to even. -/
def roundHalfEven (num den : Nat) : Nat :=
  let q := num / den
  let r := num % den
  if 2 * r < den then q
  else if den < 2 * r then q + 1
  else if q % 2 = 0 then q else q + 1

/-- The exponent of the greatest power of two not above a positive quotient. -/
def floorLog2 (num den : Nat) : Int :=
  let estimate : Int := (num.log2 : Int) - den.log2
  let (n, d) := scaled num den estimate
  if d ≤ n then estimate else estimate - 1

/-- The double nearest to a quotient of naturals. -/
def ofRatio (negative : Bool) (num den : Nat) : Binary64 :=
  if num = 0 then zero negative
  else
    let exponent := max (floorLog2 num den - 52) leastExponent
    let (n, d) := scaled num den exponent
    let significand := roundHalfEven n d
    let (significand, exponent) :=
      if significand = Nat.pow 2 53 then (Nat.pow 2 52, exponent + 1) else (significand, exponent)
    if exponent > greatestExponent then .infinity negative
    else .finite negative significand exponent

/-- The magnitude of a finite number as a quotient of naturals. -/
def magnitude (significand : Nat) (exponent : Int) : Nat × Nat :=
  if 0 ≤ exponent then (significand * Nat.pow 2 exponent.toNat, 1)
  else (significand, Nat.pow 2 (-exponent).toNat)

/-- The double nearest to `coefficient * 10 ^ power`. Far beyond the range of doubles the answer
is known without computing the power. -/
def ofDecimal (negative : Bool) (coefficient : Nat) (power : Int) : Binary64 :=
  if coefficient = 0 then zero negative
  else
    let top : Int := (Nat.toDigits 10 coefficient).length + power
    if top > 400 then .infinity negative
    else if top < -400 then zero negative
    else if 0 ≤ power then ofRatio negative (coefficient * Nat.pow 10 power.toNat) 1
    else ofRatio negative coefficient (Nat.pow 10 (-power).toNat)

/-- The double nearest to an integer; `none` when it is beyond the range. -/
def ofInt? (i : Int) : Option Binary64 :=
  match ofRatio (decide (i < 0)) i.natAbs 1 with
  | .infinity _ => none
  | x => some x

/-- Whether the sign of a number is minus. -/
def isNegative : Binary64 → Bool
  | .nan => false
  | .infinity negative => negative
  | .finite negative _ _ => negative

/-- Whether a number is zero of either sign. -/
def isZero : Binary64 → Bool
  | .finite _ 0 _ => true
  | _ => false

/-- The number with a minus before it, if asked for. -/
def signed (negative : Bool) : Binary64 → Binary64
  | .nan => .nan
  | .infinity a => .infinity (a != negative)
  | .finite a m e => .finite (a != negative) m e

/-- The product of two numbers. -/
def mul : Binary64 → Binary64 → Binary64
  | .nan, _ => .nan
  | _, .nan => .nan
  | .infinity a, y => if y.isZero then .nan else .infinity (a != y.isNegative)
  | x, .infinity b => if x.isZero then .nan else .infinity (x.isNegative != b)
  | .finite a m e, .finite b n f =>
    let (num, den) := magnitude (m * n) (e + f)
    ofRatio (a != b) num den

/-- A signed quotient, its denominator positive: what finite numbers compare as. -/
def toQuotient (negative : Bool) (significand : Nat) (exponent : Int) : Int × Nat :=
  let (num, den) := magnitude significand exponent
  (if negative then -(num : Int) else num, den)

/-- The sum of two numbers. A sum of zero is negative only when both numbers are. -/
def add : Binary64 → Binary64 → Binary64
  | .nan, _ => .nan
  | _, .nan => .nan
  | .infinity a, .infinity b => if a = b then .infinity a else .nan
  | .infinity a, .finite .. => .infinity a
  | .finite .., .infinity b => .infinity b
  | .finite a m e, .finite b n f =>
    let (p, q) := toQuotient a m e
    let (r, s) := toQuotient b n f
    let sum := p * s + r * q
    if sum = 0 then zero (a && b) else ofRatio (decide (sum < 0)) sum.natAbs (q * s)

/-- Order of two numbers; nothing is below or above a number that is not one. -/
def lt : Binary64 → Binary64 → Bool
  | .nan, _ => false
  | _, .nan => false
  | .infinity a, .infinity b => a && !b
  | .infinity a, .finite .. => a
  | .finite .., .infinity b => !b
  | .finite a m e, .finite b n f =>
    let (p, q) := toQuotient a m e
    let (r, s) := toQuotient b n f
    p * s < r * q

/-- Whether a number is below an integer, compared exactly. -/
def ltInt : Binary64 → Int → Bool
  | .nan, _ => false
  | .infinity a, _ => a
  | .finite a m e, i =>
    let (p, q) := toQuotient a m e
    p < i * q

/-- Whether an integer is below a number, compared exactly. -/
def intLt : Int → Binary64 → Bool
  | _, .nan => false
  | _, .infinity b => !b
  | i, .finite b n f =>
    let (r, s) := toQuotient b n f
    i * s < r

/-- Whether a number equals an integer exactly. -/
def eqInt : Binary64 → Int → Bool
  | .finite a m e, i =>
    let (p, q) := toQuotient a m e
    p = i * q
  | _, _ => false

/-- Whether two numbers are equal: both zeros are, and nothing equals a number that is not
one. -/
def same : Binary64 → Binary64 → Bool
  | .nan, _ => false
  | _, .nan => false
  | x, y => (x.isZero && y.isZero) || x = y

/-- The integer part of a finite number. -/
def truncate? : Binary64 → Option Int
  | .finite negative significand exponent =>
    let (num, den) := magnitude significand exponent
    some (if negative then -((num / den : Nat) : Int) else (num / den : Nat))
  | _ => none

end Binary64
end PageContracts
