import PageContracts.Number.Binary64
import PageContracts.Text.Characters

/-! # Reading numbers

Integers and doubles written as text: blanks around them, digits of any script, and single
underscores between digits.
-/
namespace PageContracts.Reading

open Characters

/-- The ASCII form of a character of a number: decimal digits of any script become ASCII
digits. -/
def asciiForm (c : Char) : Char :=
  if c.toNat < 127 then c
  else
    match digitValue? c with
    | some d => Char.ofNat ('0'.toNat + d)
    | none => c

/-- The characters of a number without the blanks around it. -/
def numberText (text : String) : List Char :=
  (trimBy isNumberBlank text.toList).map asciiForm

/-- The value of a list of ASCII digits read after the value `acc`. -/
def digitsValue (base acc : Nat) : List Char → Nat
  | [] => acc
  | c :: rest =>
    let lower := asciiLower c
    let d := if isAsciiDigit lower then lower.toNat - '0'.toNat else lower.toNat - 'a'.toNat + 10
    digitsValue base (acc * base + d) rest

/-- Take the underscores out of a text in which each stands between two digits; `before` is the
character in front of the text. -/
def withoutUnderscores (before : Char) : List Char → Option (List Char)
  | [] => some []
  | '_' :: rest =>
    match rest with
    | next :: _ =>
      if isAsciiDigit before && isAsciiDigit next then withoutUnderscores '_' rest else none
    | [] => none
  | c :: rest => (withoutUnderscores c rest).map (c :: ·)

/-- Split a sign off a text; `true` is minus. -/
def splitSign : List Char → Bool × List Char
  | '-' :: rest => (true, rest)
  | '+' :: rest => (false, rest)
  | text => (false, text)

/-- The most digits an integer may be written with. -/
def digitLimit : Nat := 4300

/-- A decimal natural number, digits only. -/
def natural? (digits : List Char) : Option Nat :=
  if !digits.isEmpty && digits.all isAsciiDigit && digits.length ≤ digitLimit then
    some (digitsValue 10 0 digits)
  else none

/-- An integer in decimal. -/
def integer? (text : String) : Option Int := do
  let (negative, rest) := splitSign (numberText text)
  let value ← natural? (← withoutUnderscores ' ' rest)
  return if negative then -(value : Int) else value

/-- Whether a character is a digit of a base, in either case. -/
def isDigitOf (base : Nat) (c : Char) : Bool :=
  let lower := asciiLower c
  (isAsciiDigit lower && lower.toNat < '0'.toNat + base) ||
    ('a' ≤ lower && lower.toNat + 10 < 'a'.toNat + base)

/-- The letter that marks digits of a base behind a zero. -/
def baseMark? (base : Nat) : Option Char :=
  if base = 2 then some 'b' else if base = 8 then some 'o' else if base = 16 then some 'x' else none

/-- A text without the mark of a base in front of its digits. -/
def withoutMark (base : Nat) (text : List Char) : List Char :=
  match text with
  | '0' :: mark :: rest => if some (asciiLower mark) = baseMark? base then rest else text
  | _ => text

/-- An integer in base two, eight or sixteen, of any length: with a sign or without, and with the
mark of its base or without. Underscores are not read. -/
def integerIn? (base : Nat) (text : List Char) : Option Int :=
  let (negative, rest) := splitSign (numberText (String.ofList text))
  let digits := withoutMark base rest
  if !digits.isEmpty && digits.all (isDigitOf base) then
    let value := digitsValue base 0 digits
    some (if negative then -(value : Int) else value)
  else none

/-- A decimal exponent after its mark. -/
def exponent? (text : List Char) : Option Int :=
  let (negative, digits) := splitSign text
  if !digits.isEmpty && digits.all isAsciiDigit then
    let value := digitsValue 10 0 digits
    some (if negative then -(value : Int) else value)
  else none

/-- An unsigned decimal number: digits around an optional point, at least one of them, and an
optional exponent. -/
def unsigned? (negative : Bool) (text : List Char) : Option Binary64 := do
  let whole := text.takeWhile isAsciiDigit
  let rest := text.dropWhile isAsciiDigit
  let (fraction, rest) :=
    match rest with
    | '.' :: tail => (tail.takeWhile isAsciiDigit, tail.dropWhile isAsciiDigit)
    | _ => ([], rest)
  guard (!(whole ++ fraction).isEmpty)
  let power ←
    match rest with
    | [] => some 0
    | 'e' :: tail => exponent? tail
    | 'E' :: tail => exponent? tail
    | _ => none
  return .ofDecimal negative (digitsValue 10 0 (whole ++ fraction)) (power - fraction.length)

/-- A double: a decimal number, or one of the words for infinity and for no number. -/
def double? (text : String) : Option Binary64 := do
  let number ← withoutUnderscores ' ' (numberText text)
  let (negative, rest) := splitSign number
  let word := String.ofList (rest.map asciiLower)
  if word = "inf" ∨ word = "infinity" then some (.infinity negative)
  else if word = "nan" then some .nan
  else unsigned? negative rest

end PageContracts.Reading
