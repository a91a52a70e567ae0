import PageContracts.Number.Binary64

/-! # Decimal forms of doubles

The shortest text that reads back as the same double, and the fixed, scientific and general
layouts of a given precision. All digits come from exact arithmetic.
-/
namespace PageContracts.Decimal

/-- Significant digits and the place of the point: `digits` read as `0.digits * 10 ^ point`. -/
structure Scientific where
  digits : List Char
  point : Int
  deriving DecidableEq, Repr

/-- Whether a quotient is at least a power of ten. -/
def atLeastPower (num den : Nat) (power : Int) : Bool :=
  if 0 ≤ power then den * Nat.pow 10 power.toNat ≤ num else den ≤ num * Nat.pow 10 (-power).toNat

/-- The number of digits before the point of a positive quotient, not positive for small ones:
`10 ^ (p - 1) ≤ num / den < 10 ^ p`. -/
def pointOf (num den : Nat) : Int :=
  let estimate := (Binary64.floorLog2 num den * 30103).fdiv 100000
  if atLeastPower num den (estimate + 1) then estimate + 2
  else if atLeastPower num den estimate then estimate + 1
  else estimate

/-- The quotient divided by a power of ten. -/
def shiftTen (num den : Nat) (power : Int) : Nat × Nat :=
  if 0 ≤ power then (num, den * Nat.pow 10 power.toNat) else (num * Nat.pow 10 (-power).toNat, den)

/-- Decimal digits without the zeros at their end; at least one digit is kept. -/
def dropZeros (digits : List Char) : List Char :=
  match (digits.reverse.dropWhile (· = '0')).reverse with
  | [] => ['0']
  | kept => kept

/-- A natural number of `count` digits, or the next power of ten, as significant digits. -/
def ofCoefficient (coefficient count : Nat) (point : Int) : Scientific :=
  let digits := Nat.toDigits 10 coefficient
  ⟨digits, point + ((digits.length : Int) - count)⟩

/-- The candidate with `count` digits nearest to the number among the two around it that read
back as it, if any does. -/
def candidate? (num den : Nat) (point : Int) (significand : Nat) (exponent : Int)
    (count : Nat) : Option Scientific :=
  let power := point - count
  let (n, d) := shiftTen num den power
  let low := n / d
  let back (c : Nat) : Bool :=
    Binary64.ofDecimal false c power = .finite false significand exponent
  let closer := Binary64.roundHalfEven n d
  if back closer then some (ofCoefficient closer count point)
  else if back low then some (ofCoefficient low count point)
  else if back (low + 1) then some (ofCoefficient (low + 1) count point)
  else none

/-- The shortest significant digits that read back as a positive finite number. Seventeen digits
always do. -/
def shortest (significand : Nat) (exponent : Int) : Scientific :=
  let (num, den) := Binary64.magnitude significand exponent
  let point := pointOf num den
  match (List.range 17).findSome? fun i =>
      candidate? num den point significand exponent (i + 1) with
  | some found => ⟨dropZeros found.digits, found.point⟩
  | none => ofCoefficient (Binary64.roundHalfEven num den) 17 point

/-- An exponent with its sign and at least two digits. -/
def exponentText (exponent : Int) : List Char :=
  let digits := Nat.toDigits 10 exponent.natAbs
  (if exponent < 0 then '-' else '+') :: (if digits.length < 2 then '0' :: digits else digits)

/-- Digits laid out around a point that stands before, inside or after them. -/
def positional (number : Scientific) : List Char × List Char :=
  if number.point ≤ 0 then
    (['0'], List.replicate (-number.point).toNat '0' ++ number.digits)
  else
    let place := number.point.toNat
    (number.digits.take place ++ List.replicate (place - number.digits.length) '0',
      number.digits.drop place)

/-- Whole part, point and fraction; the point is left out with an empty fraction unless it is
asked for. -/
def joinPoint (keepPoint : Bool) (whole fraction : List Char) : List Char :=
  if fraction.isEmpty && !keepPoint then whole else whole ++ '.' :: fraction

/-- One digit, the point, the other digits and the exponent. -/
def scientificText (mark : Char) (keepPoint : Bool) (number : Scientific) : List Char :=
  joinPoint keepPoint (number.digits.take 1) (number.digits.drop 1) ++
    mark :: exponentText (number.point - 1)

/-- The text of a positive finite number: positional between `1e-4` and `1e16`, with at least
one digit after the point, and scientific outside. -/
def shortestText (number : Scientific) : List Char :=
  if number.point ≤ -4 ∨ number.point > 16 then scientificText 'e' false number
  else
    let (whole, fraction) := positional number
    joinPoint true whole (if fraction.isEmpty then ['0'] else fraction)

/-- The number rounded to a given count of significant digits. -/
def significant (significand : Nat) (exponent : Int) (count : Nat) : Scientific :=
  if significand = 0 then ⟨List.replicate count '0', 1⟩
  else
    let (num, den) := Binary64.magnitude significand exponent
    let point := pointOf num den
    let (n, d) := shiftTen num den (point - count)
    let number := ofCoefficient (Binary64.roundHalfEven n d) count point
    ⟨number.digits.take count, number.point⟩

/-- Fixed layout with a given count of decimals. -/
def fixedText (keepPoint : Bool) (decimals significand : Nat) (exponent : Int) : List Char :=
  let (num, den) := Binary64.magnitude significand exponent
  let digits := Nat.toDigits 10 (Binary64.roundHalfEven (num * Nat.pow 10 decimals) den)
  let padded := List.replicate (decimals + 1 - digits.length) '0' ++ digits
  let place := padded.length - decimals
  joinPoint keepPoint (padded.take place) (padded.drop place)

/-- General layout: scientific for exponents below `-4` or not below the precision, fixed
otherwise; zeros at the end of the fraction are dropped unless the point is kept. -/
def generalText (mark : Char) (keepPoint : Bool) (precision significand : Nat)
    (exponent : Int) : List Char :=
  let number := significant significand exponent (max precision 1)
  let number := if keepPoint then number else ⟨dropZeros number.digits, number.point⟩
  if number.point ≤ -4 ∨ number.point > (max precision 1 : Nat) then
    scientificText mark keepPoint number
  else
    let (whole, fraction) := positional number
    joinPoint keepPoint whole fraction

/-- The sign of a number before its digits. -/
def signed (negative : Bool) (digits : List Char) : String :=
  String.ofList (if negative then '-' :: digits else digits)

/-- The shortest text that reads back as the number. -/
def display : Binary64 → String
  | .nan => "nan"
  | .infinity negative => signed negative "inf".toList
  | .finite negative significand exponent =>
    if significand = 0 then signed negative "0.0".toList
    else signed negative (shortestText (shortest significand exponent))

end PageContracts.Decimal
