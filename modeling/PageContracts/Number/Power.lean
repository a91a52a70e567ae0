import PageContracts.Number.Binary64

/-! # Powers of doubles

A power is worked out as a quotient of integers that is exact or far more precise than a double,
and rounded once. Integral exponents of moderate size are exact; all others go through logarithms
in fixed point.
-/
namespace PageContracts.Binary64

/-- The greatest integer not above a finite number. -/
def floor? : Binary64 → Option Int
  | .finite negative significand exponent =>
    let (num, den) := toQuotient negative significand exponent
    some (num.fdiv den)
  | _ => none

/-- The integer a finite number is, if it is one. -/
def integer? (x : Binary64) : Option Int :=
  x.floor?.filter x.eqInt

namespace Power

/-- The number of binary digits behind the point of a number in fixed point. -/
def precision : Nat := 256

/-- One in fixed point. -/
def one : Int := Int.pow 2 precision

/-- The product of two numbers in fixed point. -/
def times (a b : Int) : Int :=
  (a * b).fdiv one

/-- The terms `term, term * square / 3, term * square² / 5, …` summed; the fuel is the number of
terms. -/
def arcSum (square : Int) : Nat → Int → Int → Int
  | 0, _, _ => 0
  | fuel + 1, odd, term => term.fdiv odd + arcSum square fuel (odd + 2) (times term square)

/-- The natural logarithm of a quotient in fixed point; accurate for quotients between a half and
two. -/
def logNear (num den : Int) : Int :=
  let z := ((num - den) * one).fdiv (num + den)
  2 * arcSum (times z z) 100 1 z

/-- The terms `term, term * x / n, term * x² / (n * (n + 1)), …` summed. -/
def expSum (x : Int) : Nat → Int → Int → Int
  | 0, _, _ => 0
  | fuel + 1, n, term => term + expSum x fuel (n + 1) ((times term x).fdiv n)

/-- The natural logarithm of two in fixed point. -/
def logTwo : Int := logNear 2 1

/-- The natural logarithm of a positive quotient in fixed point. -/
def log (num den : Nat) : Int :=
  let place := floorLog2 num den
  let (n, d) := scaled num den place
  place * logTwo + logNear n d

/-- The double nearest to the exponential of a number in fixed point, with a sign. -/
def exponential (negative : Bool) (x : Int) : Binary64 :=
  let place := x.fdiv logTwo
  if 1100 < place then .infinity negative
  else if place < -1200 then zero negative
  else
    let mantissa := (expSum (x - place * logTwo) 100 1 one).toNat
    if 0 ≤ place then ofRatio negative (mantissa * Nat.pow 2 place.toNat) (Nat.pow 2 precision)
    else ofRatio negative mantissa (Nat.pow 2 (precision + (-place).toNat))

/-- The greatest size of an exponent for which the power is worked out exactly. -/
def exactLimit : Nat := 2048

/-- A positive finite number to a finite power, with a sign. -/
def positive (negative : Bool) (m : Nat) (e : Int) (y : Binary64) : Binary64 :=
  let (num, den) := magnitude m e
  match y with
  | .finite below n f =>
    match y.integer? with
    | some i =>
      if i.natAbs ≤ exactLimit then
        if i < 0 then ofRatio negative (Nat.pow den i.natAbs) (Nat.pow num i.natAbs)
        else ofRatio negative (Nat.pow num i.natAbs) (Nat.pow den i.natAbs)
      else general negative num den below n f
    | none => general negative num den below n f
  | _ => .nan
where
  /-- The power through logarithms. -/
  general (negative : Bool) (num den : Nat) (below : Bool) (n : Nat) (f : Int) : Binary64 :=
    let (p, q) := toQuotient below n f
    exponential negative ((log num den * p).fdiv q)

end Power

/-- Why a number has no power among the doubles. -/
inductive PowerFlaw where
  | divisionByZero
  | overflow
  | complex
  deriving DecidableEq, Repr

/-- Whether a number is an odd integer. -/
def isOdd (x : Binary64) : Bool :=
  match x.integer? with
  | some i => i % 2 ≠ 0
  | none => false

/-- One. -/
def unit (negative : Bool) : Binary64 :=
  ofRatio negative 1 1

/-- A number to the power of another. -/
def pow (x y : Binary64) : Except PowerFlaw Binary64 :=
  if y.isZero || x = unit false then .ok (unit false)
  else
    match x, y with
    | .nan, _ => .ok .nan
    | _, .nan => .ok .nan
    | x, .infinity below =>
      let size := x.signed x.isNegative
      if size = unit false then .ok (unit false)
      else if (unit false).lt size = !below then .ok (.infinity false)
      else .ok (zero false)
    | .infinity a, y =>
      let negative := a && y.isOdd
      if y.isNegative then .ok (zero negative) else .ok (.infinity negative)
    | .finite a m e, y =>
      if m = 0 then
        if y.isNegative then .error .divisionByZero else .ok (zero (a && y.isOdd))
      else if a && y.integer?.isNone then .error .complex
      else
        match Power.positive (a && y.isOdd) m e y with
        | .infinity _ => .error .overflow
        | power => .ok power

/-- The quotient of two finite or infinite numbers that are no zero below the line. -/
def div (x y : Binary64) : Binary64 :=
  match x, y with
  | .finite a m e, .finite b n f =>
    let (p, q) := magnitude m e
    let (r, s) := magnitude n f
    ofRatio (a != b) (p * s) (q * r)
  | .finite a _ _, .infinity b => zero (a != b)
  | .infinity a, .finite b _ _ => .infinity (a != b)
  | _, _ => .nan

/-- What is left of a number when another is taken off as often as it fits whole, with the sign
of the number. -/
def remainder (x y : Binary64) : Binary64 :=
  match x, y with
  | .finite a m e, .finite b n f =>
    let (p, q) := toQuotient a m e
    let (r, s) := toQuotient b n f
    let left := p * s - r * q * (p * s).tdiv (r * q)
    if left = 0 then zero a else ofRatio (decide (left < 0)) left.natAbs (q * s)
  | .finite .., .infinity _ => x
  | _, _ => .nan

/-- What is left of a number when another is taken off as often as it fits whole, with the sign
of the other. -/
def modulo (x y : Binary64) : Binary64 :=
  let left := x.remainder y
  if left.isZero then zero y.isNegative
  else if left.isNegative ≠ y.isNegative then left.add y
  else left

/-- How often a number fits whole into another, rounded down. -/
def floorDiv (x y : Binary64) : Binary64 :=
  let left := x.remainder y
  let quotient := (x.add left.opposite).div y
  let quotient :=
    if !left.isZero && left.isNegative ≠ y.isNegative then quotient.add (unit true) else quotient
  if quotient.isZero then zero (x.div y).isNegative
  else
    match quotient.floor? with
    | none => quotient
    | some i =>
      let down := ofRatio (decide (i < 0)) i.natAbs 1
      if (ofRatio false 1 2).lt (quotient.add down.opposite) then down.add (unit false) else down

end PageContracts.Binary64
