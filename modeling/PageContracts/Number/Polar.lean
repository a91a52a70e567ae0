import PageContracts.Number.Circle

/-! # Length, direction and growth

The length and the direction of a point in the plane, the exponential and the natural logarithm of a
double, each worked out in fixed point or exactly, and rounded once.
-/
namespace PageContracts.Binary64

open Power

/-- The greatest natural number whose square is not above another, from a guess that is not below
it. The fuel is more than the number of steps, each of which halves what the guess is too large by. -/
def rootBelow (n : Nat) : Nat → Nat → Nat
  | 0, guess => guess
  | fuel + 1, guess =>
    let next := (guess + n / guess) / 2
    if next < guess then rootBelow n fuel next else guess

/-- The square root of a natural number, rounded down. -/
def naturalRoot (n : Nat) : Nat :=
  if n = 0 then 0 else rootBelow n (n.log2 + 10) (Nat.pow 2 (n.log2 / 2 + 1))

/-- The double nearest to the square root of a quotient. What the root leaves out of it only counts
for more than nothing. -/
def rootOfRatio (num den : Nat) : Binary64 :=
  let places := 200 + den.log2
  let scaled := num * Nat.pow 4 places
  let root := naturalRoot (scaled / den)
  if root * root * den = scaled then ofRatio false root (Nat.pow 2 places)
  else ofRatio false (2 * root + 1) (Nat.pow 2 (places + 1))

/-- The size of a double. -/
def size : Binary64 → Binary64
  | .finite _ significand exponent => .finite false significand exponent
  | .infinity _ => .infinity false
  | .nan => .nan

/-- The length of a point in the plane. -/
def hypotenuse (x y : Binary64) : Binary64 :=
  match x, y with
  | .infinity _, _ => .infinity false
  | _, .infinity _ => .infinity false
  | .finite _ m e, .finite _ n f =>
    let (p, q) := magnitude m e
    let (r, s) := magnitude n f
    rootOfRatio (p * p * (s * s) + r * r * (q * q)) (q * q * (s * s))
  | _, _ => .nan

/-- A quotient between zero and one in fixed point, as the arc whose tangent it is: the arc is halved
three times before it is summed. -/
def arcWithin (num den : Nat) : Int :=
  let halved (tangent : Int) : Int :=
    let square := times tangent tangent
    let root : Int := naturalRoot ((one + square) * one).toNat
    (tangent * one).fdiv (one + root)
  let tangent : Int := (num * Nat.pow 2 precision / den : Nat)
  let small := halved (halved (halved tangent))
  8 * arcSum (-(times small small)) 120 1 small

/-- The direction of a point in the plane with finite parts, as an arc from the right. -/
def finiteArc (p q r s : Nat) (isLeft : Bool) : Int :=
  let across := r * q
  let along := p * s
  let steep := Circle.half / 2
  let arc :=
    if across = 0 then 0
    else if across ≤ along then arcWithin across along
    else steep - arcWithin along across
  if isLeft then Circle.half - arc else arc

/-- The direction of a point in the plane: the arc between the right and the point. -/
def direction (y x : Binary64) : Binary64 :=
  let signed (arc : Int) : Binary64 := Binary64.signed y.isNegative (Circle.rounded arc)
  match x, y with
  | .nan, _ => .nan
  | _, .nan => .nan
  | .infinity isLeft, .infinity _ => signed (if isLeft then 3 * Circle.half / 4 else Circle.half / 4)
  | .infinity isLeft, _ => if isLeft then signed Circle.half else zero y.isNegative
  | _, .infinity _ => signed (Circle.half / 2)
  | .finite isLeft m e, .finite _ n f =>
    let (p, q) := magnitude m e
    let (r, s) := magnitude n f
    if r = 0 && !isLeft then zero y.isNegative
    else signed (finiteArc p q r s isLeft)

/-- The exponential of a double. -/
def exp (x : Binary64) : Binary64 :=
  match x with
  | .finite negative m e =>
    let (num, den) := toQuotient negative m e
    exponential false ((num * one).fdiv den)
  | .infinity negative => if negative then zero false else .infinity false
  | .nan => .nan

/-- The natural logarithm of a positive double. -/
def ln (x : Binary64) : Binary64 :=
  match x with
  | .finite _ m e =>
    let (num, den) := magnitude m e
    if num = 0 then .infinity true else Circle.rounded (log num den)
  | other => other

end PageContracts.Binary64
