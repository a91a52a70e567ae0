import PageContracts.Template.Fill
import PageContracts.Value.Conversion

/-! # Laying out values

A layout says how a value is written: filled up to a width on one side or both, with a sign, in a
base, in groups of digits, with some decimals. Which parts make sense depends on the value.
-/
namespace PageContracts

/-- A layout. -/
structure Layout where
  fill : Option Char := none
  align : Option Char := none
  sign : Option Char := none
  /-- Whether a zero that is only negative before rounding loses its sign. -/
  plainZero : Bool := false
  alternate : Bool := false
  zero : Bool := false
  width : Nat := 0
  grouping : Option Char := none
  precision : Option Nat := none
  letter : Option Char := none
  deriving DecidableEq, Repr, Inhabited

namespace Layout

open Characters

/-- The signs of alignment. -/
def alignments : List Char := ['<', '>', '=', '^']

/-- The failure of a layout that makes no sense. -/
def senseless {α : Type} (message : String) : Except Failure α :=
  .error (.valueBreach message)

/-- Whether a character is next; what follows is left if it is not. -/
def passed (wanted : List Char) (text : List Char) : Option Char × List Char :=
  match text with
  | c :: rest => if wanted.contains c then (some c, rest) else (none, text)
  | [] => (none, [])

/-- The number at the start of a text. -/
def number (text : List Char) : Except Failure (Option Nat × List Char) :=
  let digits := text.takeWhile fun c => (digitValue? c).isSome
  if digits.isEmpty then .ok (none, text)
  else
    let value := digits.foldl (fun n c => 10 * n + (digitValue? c).getD 0) 0
    if Nat.pow 2 63 ≤ value then senseless "Too many decimal digits in format string"
    else .ok (some value, text.drop digits.length)

/-- Read a layout. -/
def read (text : String) : Except Failure Layout := do
  let (fill, align, rest) :=
    match text.toList with
    | c :: d :: rest =>
      if alignments.contains d then (some c, some d, rest)
      else if alignments.contains c then (none, some c, d :: rest)
      else (none, none, c :: d :: rest)
    | [c] => if alignments.contains c then (none, some c, []) else (none, none, [c])
    | [] => (none, none, [])
  let (sign, rest) := passed ['+', '-', ' '] rest
  let (plain, rest) := passed ['z'] rest
  let (alternate, rest) := passed ['#'] rest
  let (zero, rest) :=
    if fill.isNone then passed ['0'] rest else (none, rest)
  let (width, rest) ← number rest
  let (grouping, rest) := passed [',', '_'] rest
  let (more, rest) := passed [',', '_'] rest
  if more.isSome then senseless "Cannot specify both ',' and '_'."
  let (precision, rest) ←
    match rest with
    | '.' :: rest =>
      match ← number rest with
      | (none, _) => senseless "Format specifier missing precision"
      | found => pure found
    | rest => pure (none, rest)
  if 1 < rest.length then senseless "Invalid format specifier"
  return { fill, align, sign, plainZero := plain.isSome, alternate := alternate.isSome,
           zero := zero.isSome, width := width.getD 0, grouping, precision, letter := rest.head? }

/-- The character that fills a text up. -/
def filler (layout : Layout) : Char :=
  layout.fill.getD (if layout.zero then '0' else ' ')

/-- A text filled up to the width; `front` stays in front when the filling goes inside. -/
def filled (layout : Layout) (standard : Char) (front body : List Char) : Except Failure String := do
  let room := layout.width - (front.length + body.length)
  Template.requireRoom layout.width
  let some' (n : Nat) : List Char := List.replicate n layout.filler
  return String.ofList <|
    match layout.align.getD standard with
    | '<' => front ++ body ++ some' room
    | '^' => some' (room / 2) ++ front ++ body ++ some' (room - room / 2)
    | '=' => front ++ some' room ++ body
    | _ => some' room ++ front ++ body

/-- Lay out a text. -/
def ofText (layout : Layout) (text : String) : Except Failure String := do
  if layout.sign.isSome then senseless "Sign not allowed in string format specifier"
  if layout.plainZero then senseless "Negative zero coercion (z) not allowed"
  if layout.alternate then senseless "Alternate form (#) not allowed"
  if layout.align = some '=' then senseless "'=' alignment not allowed"
  if layout.grouping.isSome then senseless "Cannot specify ',' with 's'."
  if layout.letter.isSome && layout.letter ≠ some 's' then senseless "Unknown format code"
  let body :=
    match layout.precision with
    | some n => text.toList.take n
    | none => text.toList
  layout.filled '<' [] body

/-- Digits in groups, with zeros in front up to a width. -/
def grouped (size : Nat) (mark : Char) (width : Nat) (digits : List Char) : List Char :=
  let lengthOf (n : Nat) : Nat := n + (n - 1) / size
  let wanted := (List.range (width + 1)).find? fun n =>
    digits.length ≤ n && width ≤ lengthOf n
  let digits := List.replicate (wanted.getD digits.length - digits.length) '0' ++ digits
  let last := digits.length - 1
  digits.zipIdx.flatMap fun (c, i) =>
    if i < last && (last - i) % size = 0 then [c, mark] else [c]

/-- Lay out a number: its sign, the mark of its base, its digits and what stands behind them. -/
def ofNumber (layout : Layout) (negative : Bool) (mark digits behind : List Char)
    (groupSize : Nat) : Except Failure String := do
  let sign :=
    if negative then ['-']
    else
      match layout.sign with
      | some '+' => ['+']
      | some ' ' => [' ']
      | _ => []
  let front := sign ++ mark
  let inside := layout.align = some '=' || (layout.align.isNone && layout.zero)
  Template.requireRoom layout.width
  let width :=
    if inside && layout.filler = '0' then layout.width - (front.length + behind.length) else 0
  let digits :=
    match layout.grouping with
    | some separator => if digits.isEmpty then [] else grouped groupSize separator width digits
    | none => digits
  let standard := if layout.zero then '=' else '>'
  layout.filled standard front (digits ++ behind)

/-- The base and its mark that a letter stands for. -/
def base? (letter : Char) : Option (Nat × Char) :=
  match letter with
  | 'b' => some (2, 'b')
  | 'o' => some (8, 'o')
  | 'x' => some (16, 'x')
  | 'X' => some (16, 'X')
  | _ => none

/-- Lay out a whole number by a letter for whole numbers. -/
def ofInteger (layout : Layout) (letter : Char) (i : Int) : Except Failure String := do
  if layout.precision.isSome then senseless "Precision not allowed in integer format specifier"
  if layout.plainZero then senseless "Negative zero coercion (z) not allowed"
  if letter = 'c' then
    if layout.sign.isSome then senseless "Sign not allowed with integer format specifier 'c'"
    if layout.alternate then senseless "Alternate form (#) not allowed"
    if layout.grouping.isSome then senseless "Cannot specify ',' with 'c'."
    if i < 0 || 0x110000 ≤ i then throw (.breach .overflow "%c arg not in range(0x110000)")
    layout.filled (if layout.zero then '=' else '<') [] [Char.ofNat i.toNat]
  else
    match base? letter with
    | some (base, mark) =>
      if layout.grouping = some ',' then senseless "Cannot specify ',' with this letter."
      let digits := Nat.toDigits base i.natAbs
      layout.ofNumber (i < 0) (if layout.alternate then ['0', mark] else [])
        (if letter = 'X' then digits.map asciiUpper else digits) [] 4
    | none =>
      if letter = 'n' && layout.grouping.isSome then senseless "Cannot specify ',' with 'n'."
      let _ ← (Value.int i).written Value.display
      layout.ofNumber (i < 0) [] (Nat.toDigits 10 i.natAbs) [] 3

/-- A number with a point behind its whole digits, if it has none there. -/
def pointed (text : List Char) : List Char :=
  let front := text.takeWhile fun c => c = '-' || isAsciiDigit c
  let behind := text.drop front.length
  if front.isEmpty || behind.head? = some '.' || behind.head? = some 'i' then text
  else front ++ '.' :: behind

/-- The text of a positive double without a letter: in the shortest way, or with some significant
digits and at least one decimal. -/
def plainDigits (alternate : Bool) (precision : Option Nat) (significand : Nat) (exponent : Int) :
    List Char :=
  match precision with
  | none =>
    if significand = 0 then "0.0".toList
    else
      let shown := Decimal.shortestText (Decimal.shortest significand exponent)
      if alternate then pointed shown else shown
  | some p =>
    let count := max p 1
    let number := Decimal.significant significand exponent count
    let number := if alternate then number else ⟨Decimal.dropZeros number.digits, number.point⟩
    if number.point ≤ -4 || (count : Int) - 1 < number.point then
      Decimal.scientificText 'e' alternate number
    else
      let (whole, fraction) := Decimal.positional number
      Decimal.joinPoint true whole (if fraction.isEmpty then ['0'] else fraction)

/-- Lay out a double. -/
def ofDouble (layout : Layout) (x : Binary64) : Except Failure String := do
  let letter := layout.letter.getD '-'
  if letter = 'n' && layout.grouping.isSome then senseless "Cannot specify ',' with 'n'."
  let upper := letter = 'E' || letter = 'F' || letter = 'G'
  let digits := layout.precision.getD 6
  Template.requireRoom digits
  let x := if letter = '%' then x.mul ((Binary64.ofInt? 100).getD .nan) else x
  let body : List Char :=
    match x with
    | .nan => "nan".toList
    | .infinity _ => "inf".toList
    | .finite _ significand exponent =>
      if letter = '-' then plainDigits layout.alternate layout.precision significand exponent
      else
        let form := if letter = '%' then 'f' else if letter = 'n' then 'g' else asciiLower letter
        Template.doubleText form layout.alternate digits (.finite false significand exponent)
  let isNumber := body.any fun c => isAsciiDigit c && c ≠ '0'
  let negative := x.isNegative && (!layout.plainZero || isNumber || body.head? = some 'i')
  let body := if upper then body.map asciiUpper else body
  let whole := body.takeWhile fun c => isAsciiDigit c
  let behind := body.drop whole.length ++ (if letter = '%' then ['%'] else [])
  layout.ofNumber negative [] whole behind 3

/-- Write a value by a layout. -/
def write (value : Value) (text : String) : Except Failure String := do
  if text.isEmpty then value.spoken
  else
    match value.core with
    | .text s => do (← read text).ofText s
    | .float x => do
      let layout ← read text
      if ['-', 'e', 'E', 'f', 'F', 'g', 'G', 'n', '%'].contains (layout.letter.getD '-') then
        layout.ofDouble x
      else senseless "Unknown format code"
    | core =>
      match core.toInt? with
      | none => throw (.typeBreach "unsupported format string")
      | some i =>
        let layout ← read text
        let letter := layout.letter.getD 'd'
        if ['b', 'c', 'd', 'o', 'x', 'X', 'n'].contains letter then layout.ofInteger letter i
        else if ['e', 'E', 'f', 'F', 'g', 'G', '%'].contains letter then
          layout.ofDouble (← Conversion.double (.int i))
        else senseless "Unknown format code"

end Layout
end PageContracts
