import PageContracts.Language.Meaning
import PageContracts.Number.Polar
import PageContracts.Number.Reading
import PageContracts.Text.Cases

/-! # Complex numbers

Calculating with numbers of two parts. A number of one part meets one of two as a number whose second
part is zero.
-/
namespace PageContracts.Language.Complex

/-- A number as one of two parts. -/
def parts? (item : Meaning) : Option (Except Failure (Binary64 × Binary64)) :=
  match item.core with
  | .complex re im => some (.ok (re, im))
  | .constant value =>
    (Arithmetic.double? value).map fun x => x.map fun re => (re, Binary64.zero false)
  | _ => none

/-- The difference of two doubles. -/
def minus (x y : Binary64) : Binary64 :=
  x.add y.opposite

/-- The product of two complex numbers. -/
def times (a b c d : Binary64) : Binary64 × Binary64 :=
  (minus (a.mul c) (b.mul d), (a.mul d).add (b.mul c))

/-- The quotient of two complex numbers: the larger part below the line divides the smaller one
first. -/
def quotient (a b c d : Binary64) : Except Failure (Binary64 × Binary64) :=
  if c.isZero && d.isZero then Arithmetic.divisionByZero
  else if c.size.lt d.size then
    let ratio := c.div d
    let below := (c.mul ratio).add d
    .ok (((a.mul ratio).add b).div below, (minus (b.mul ratio) a).div below)
  else
    let ratio := d.div c
    let below := c.add (d.mul ratio)
    .ok ((a.add (b.mul ratio)).div below, (minus b (a.mul ratio)).div below)

/-- A complex number to a natural power times another: the base is squared for every binary digit of
the power, and multiplied where the digit is one. -/
def natPower (c d : Binary64) : Nat → Binary64 → Binary64 → Nat → Binary64 × Binary64
  | 0, _, _, _ => (c, d)
  | fuel + 1, a, b, n =>
    if n = 0 then (c, d)
    else
      let (c, d) := if n % 2 = 1 then times c d a b else (c, d)
      let (a, b) := times a b a b
      natPower c d fuel a b (n / 2)

/-- The greatest size of a whole power that is worked out by products. -/
def greatestPower : Nat := 100

/-- A complex number to any power, by its length and its direction. -/
def polarPower (a b c d : Binary64) : Except Failure (Binary64 × Binary64) :=
  if a.isZero && b.isZero then
    if !d.isZero || c.isNegative then Arithmetic.divisionByZero
    else .ok (Binary64.zero false, Binary64.zero false)
  else
    let length := a.hypotenuse b
    let arc := b.direction a
    let stretched :=
      match length.pow c with
      | .ok stretched => stretched
      | .error _ => .infinity false
    let (stretched, turned) :=
      if d.isZero then (stretched, arc.mul c)
      else (stretched.div (arc.mul d).exp, (arc.mul c).add (d.mul length.ln))
    .ok (stretched.mul (Binary64.Circle.cosine turned), stretched.mul (Binary64.Circle.sine turned))

/-- A complex number to a power. -/
def power (a b c d : Binary64) : Except Failure (Binary64 × Binary64) := do
  let one := Binary64.unit false
  let zero := Binary64.zero false
  let (re, im) ←
    match if d.isZero then c.integer? else none with
    | some n =>
      if greatestPower < n.natAbs then polarPower a b c d
      else
        let (e, f) := natPower one zero (greatestPower + 1) a b n.natAbs
        if 0 < n then .ok (e, f) else quotient one zero e f
    | none => if c.isZero && d.isZero then .ok (one, zero) else polarPower a b c d
  if re matches .infinity _ || im matches .infinity _ then
    throw (.breach .overflow "complex exponentiation")
  return (re, im)

/-- The power of a negative number that no real number is: its size to the power, turned as often by
half a turn as the power says. -/
def rootOf? (base exponent : Binary64) : Option (Binary64 × Binary64) :=
  match base.pow exponent, base.size.pow exponent with
  | .error .complex, .ok length =>
    let phase := (Binary64.Circle.rounded Binary64.Circle.half).mul exponent
    some (length.mul (Binary64.Circle.cosine phase), length.mul (Binary64.Circle.sine phase))
  | _, _ => none

/-- A power that no real number is; `none` when it is one, or none at all. -/
def realPower? (left right : Value) : Option Meaning :=
  match Arithmetic.double? left, Arithmetic.double? right with
  | some (.ok base), some (.ok exponent) =>
    (rootOf? base exponent).map fun (re, im) => .complex re im
  | _, _ => none

/-- The digits at the front of a text, with what may stand between them. -/
def digitsOf (text : List Char) : List Char :=
  text.takeWhile fun c => Characters.isDecimal c || c = '_'

/-- The exponent at the front of a text, if a digit belongs to it. -/
def exponentOf (text : List Char) : List Char :=
  match text with
  | mark :: rest =>
    let sign := (rest.take 1).filter fun c => c = '+' || c = '-'
    let digits := digitsOf (rest.drop sign.length)
    if (mark = 'e' || mark = 'E') && !digits.isEmpty then mark :: sign ++ digits else []
  | [] => []

/-- The double at the front of a text, and what follows it. -/
def doubleAt? (text : List Char) : Option (Binary64 × List Char) :=
  let sign := (text.take 1).filter fun c => c = '+' || c = '-'
  let rest := text.drop sign.length
  let word := ["infinity", "inf", "nan"].find? fun word =>
    word.toList.isPrefixOf (rest.map Char.toLower)
  let spelled :=
    match word with
    | some word => rest.take word.length
    | none =>
      let whole := digitsOf rest
      let point := ((rest.drop whole.length).take 1).filter (· = '.')
      let part := if point.isEmpty then [] else digitsOf (rest.drop (whole.length + 1))
      let number := whole ++ point ++ part
      number ++ exponentOf (rest.drop number.length)
  let all := sign ++ spelled
  (Reading.double? (String.ofList all)).map fun x => (x, text.drop all.length)

/-- The number of two parts that a text spells without blanks and parentheses. -/
def plainOf? (text : List Char) : Option (Binary64 × Binary64) :=
  let zero := Binary64.zero false
  let unit (rest : List Char) : Option (Binary64 × List Char) :=
    match rest with
    | '-' :: mark :: after => some (Binary64.unit true, mark :: after)
    | '+' :: mark :: after => some (Binary64.unit false, mark :: after)
    | rest => some (Binary64.unit false, rest)
  let second (re : Binary64) (found : Option (Binary64 × List Char)) : Option (Binary64 × Binary64) :=
    match found with
    | some (im, [mark]) => if mark = 'j' || mark = 'J' then some (re, im) else none
    | _ => none
  match doubleAt? text with
  | none => second zero (unit text)
  | some (x, []) => some (x, zero)
  | some (x, sign :: rest) =>
    if sign = '+' || sign = '-' then
      second x ((doubleAt? (sign :: rest)).or (unit (sign :: rest)))
    else second zero (some (x, sign :: rest))

/-- The number of two parts that a text spells: there may be blanks at its ends and parentheses
around it. -/
def ofText? (spelled : String) : Option (Binary64 × Binary64) :=
  let trimmed (text : List Char) : List Char :=
    ((text.dropWhile Characters.isBlank).reverse.dropWhile Characters.isBlank).reverse
  match trimmed spelled.toList with
  | '(' :: rest =>
    if rest.getLast? = some ')' then plainOf? (trimmed rest.dropLast) else none
  | text => plainOf? text

/-- An operation on two numbers of which one is complex; `none` when there is no such operation. -/
def operate? (sign : String) (left right : Meaning) : Option (Except Failure Meaning) :=
  match parts? left, parts? right with
  | some left, some right =>
    let made (f : Binary64 → Binary64 → Binary64 → Binary64 → Except Failure (Binary64 × Binary64)) :
        Option (Except Failure Meaning) :=
      some do
        let (a, b) ← left
        let (c, d) ← right
        let (re, im) ← f a b c d
        return .complex re im
    match sign with
    | "+" => made fun a b c d => .ok (a.add c, b.add d)
    | "-" => made fun a b c d => .ok (minus a c, minus b d)
    | "*" => made fun a b c d => .ok (times a b c d)
    | "/" => made quotient
    | "**" => made power
    | _ => none
  | _, _ => none

end PageContracts.Language.Complex
