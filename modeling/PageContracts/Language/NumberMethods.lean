import PageContracts.Language.Arguments
import PageContracts.Language.Operators
import PageContracts.Value.Conversion

/-! # Methods of numbers

What whole numbers and doubles can be asked for: their digits, their parts as quotients, and their
bytes; and numbers rounded to some decimals.
-/
namespace PageContracts.Language.NumberMethod

open Meaning

/-- A natural number as bytes, the last digits first. -/
def littleBytes : Nat → Nat → List UInt8
  | 0, _ => []
  | count + 1, n => UInt8.ofNat (n % 256) :: littleBytes count (n / 256)

/-- The natural number of bytes, the last digits first. -/
def ofLittleBytes : List UInt8 → Nat
  | [] => 0
  | byte :: rest => byte.toNat + 256 * ofLittleBytes rest

/-- Whether the last digits come first, by the word for that. -/
def isLittle : Option Meaning → Except Failure Bool
  | none => .ok false
  | some item =>
    match item.text? with
    | some "big" => .ok false
    | some "little" => .ok true
    | some _ => .error (.valueBreach "byteorder must be either 'little' or 'big'")
    | none => Arguments.refused

/-- A whole number as bytes. -/
def toBytes (i : Int) (given : Arguments) : Except Failure Meaning := do
  let isSigned := ((given.named.lookup "signed").map truthy).getD false
  let given ← ({ given with named := given.named.filter fun entry => entry.1 ≠ "signed" } :
    Arguments).byName ["length", "byteorder"]
  let length ← Arguments.integerOr 1 (given.lookup "length")
  let little ← isLittle (given.lookup "byteorder")
  if length < 0 then throw (.valueBreach "length argument must be non-negative")
  if Int.pow 2 20 < length then throw (.breach .exhausted "out of memory")
  let whole : Int := Int.pow 2 (8 * length.toNat)
  if i < 0 && !isSigned then throw (.breach .overflow "can't convert negative int to unsigned")
  let fits :=
    if isSigned then decide (-(whole / 2) ≤ i) && (decide (i < whole / 2) || i = 0)
    else decide (i < whole)
  if !fits then throw (.breach .overflow "int too big to convert")
  let bytes := littleBytes length.toNat (if i < 0 then i + whole else i).toNat
  return .constant (.bytes (if little then bytes else bytes.reverse))

/-- The whole number of bytes. -/
def ofBytes (given : Arguments) : Except Failure Meaning := do
  let isSigned := ((given.named.lookup "signed").map truthy).getD false
  let given ← ({ given with named := given.named.filter fun entry => entry.1 ≠ "signed" } :
    Arguments).byName ["bytes", "byteorder"]
  let little ← isLittle (given.lookup "byteorder")
  match given.lookup "bytes" with
  | none => Arguments.refused
  | some source =>
    let items ← heldItems source.core
    let bytes ← Conversion.bytes (.list (toValues items))
    let n : Int := ofLittleBytes (if little then bytes else bytes.reverse)
    let whole : Int := Int.pow 2 (8 * bytes.length)
    return int (if isSigned && whole ≤ 2 * n then n - whole else n)

/-- A double as a quotient in lowest terms. -/
def ratio (x : Binary64) : Except Failure Meaning :=
  match x with
  | .nan => .error (.valueBreach "cannot convert NaN to integer ratio")
  | .infinity _ => .error (.breach .overflow "cannot convert Infinity to integer ratio")
  | .finite negative significand exponent =>
    let (num, den) := Binary64.magnitude significand exponent
    let common := Nat.gcd num den
    let num : Int := (num / common : Nat)
    .ok (.tuple [int (if negative then -num else num), int (den / common : Nat)])

/-- A double in hexadecimal digits. -/
def hexadecimal : Binary64 → String
  | .nan => "nan"
  | .infinity negative => if negative then "-inf" else "inf"
  | .finite negative significand exponent =>
    let sign := if negative then "-" else ""
    if significand = 0 then sign ++ "0x0.0p+0"
    else
      let shift := 52 - significand.log2
      let scaled := significand * Nat.pow 2 shift
      let exponent := exponent + 52 - shift
      let digits := String.ofList (Characters.hexDigits 13 (scaled % Nat.pow 2 52))
      sign ++ "0x1." ++ digits ++ "p" ++ (if exponent < 0 then "-" else "+") ++
        toString exponent.natAbs

/-- The failure of a text that spells no number in hexadecimal digits. -/
def notHexadecimal {α : Type} : Except Failure α :=
  .error (.valueBreach "invalid hexadecimal floating-point string")

/-- The exponent that the end of a number in hexadecimal digits spells. -/
def exponentOf : List Char → Except Failure Int
  | [] => .ok 0
  | mark :: rest => do
    if mark ≠ 'p' && mark ≠ 'P' then notHexadecimal (α := Unit)
    let (isNegative, digits) := Reading.splitSign rest
    if digits.isEmpty || !digits.all Characters.isAsciiDigit then notHexadecimal (α := Unit)
    let n : Int := Reading.digitsValue 10 0 digits
    return if isNegative then -n else n

/-- The greatest power of two that is calculated. -/
def greatestShift : Nat := 20000

/-- The double that a text spells in hexadecimal digits. -/
def ofHexadecimal (spelled : List Char) : Except Failure Binary64 := do
  let blank (c : Char) : Bool := c = ' ' || ('\t' ≤ c && c ≤ '\r')
  let (isNegative, rest) := Reading.splitSign (Characters.trimBy blank spelled)
  let lower := String.ofList (rest.map Characters.asciiLower)
  if lower = "inf" || lower = "infinity" then return .infinity isNegative
  if lower = "nan" then return .nan
  let rest := if lower.startsWith "0x" then rest.drop 2 else rest
  let whole := rest.takeWhile (Reading.isDigitOf 16)
  let after := rest.drop whole.length
  let (part, after) :=
    match after with
    | '.' :: after =>
      let part := after.takeWhile (Reading.isDigitOf 16)
      (part, after.drop part.length)
    | after => ([], after)
  let exponent ← exponentOf after
  let digits := whole ++ part
  if digits.isEmpty then notHexadecimal (α := Unit)
  let n := Reading.digitsValue 16 0 digits
  let shift := exponent - 4 * (part.length : Int)
  if n = 0 then return Binary64.zero isNegative
  let size : Int := (n.log2 : Int) + shift
  if (greatestShift : Int) < size then
    throw (.breach .overflow "hexadecimal value too large to represent as a float")
  if size < -(greatestShift : Int) then return Binary64.zero isNegative
  let x :=
    if 0 ≤ shift then Binary64.ofRatio isNegative (n * Nat.pow 2 shift.toNat) 1
    else Binary64.ofRatio isNegative n (Nat.pow 2 shift.natAbs)
  match x with
  | .infinity _ => throw (.breach .overflow "hexadecimal value too large to represent as a float")
  | x => return x

/-- The bytes that a text spells in pairs of hexadecimal digits with blanks between them. -/
def ofHexadecimalPairs : List Char → Except Failure (List UInt8)
  | [] => .ok []
  | c :: rest =>
    if c = ' ' || ('\t' ≤ c && c ≤ '\r') then ofHexadecimalPairs rest
    else
      match rest with
      | d :: rest => do
        if !Reading.isDigitOf 16 c || !Reading.isDigitOf 16 d then
          throw (.valueBreach "non-hexadecimal number found in fromhex() arg")
        let more ← ofHexadecimalPairs rest
        return UInt8.ofNat (Reading.digitsValue 16 0 [c, d]) :: more
      | [] => .error (.valueBreach "non-hexadecimal number found in fromhex() arg")

/-- A method of a whole number. -/
def onInteger (i : Int) (name : String) (given : Arguments) : Except Failure Meaning := do
  if name = "to_bytes" then return ← toBytes i given
  match name, ← given.unnamed with
  | "bit_length", [] => return int (if i = 0 then 0 else i.natAbs.log2 + 1 : Nat)
  | "bit_count", [] => return int ((Nat.toDigits 2 i.natAbs).filter (· = '1')).length
  | "conjugate", [] => return int i
  | "as_integer_ratio", [] => return .tuple [int i, int 1]
  | _, _ => Arguments.refused

/-- A method of a double. -/
def onDouble (x : Binary64) (name : String) (given : List Meaning) : Except Failure Meaning :=
  match name, given with
  | "is_integer", [] => .ok (bool x.integer?.isSome)
  | "conjugate", [] => .ok (.constant (.float x))
  | "as_integer_ratio", [] => ratio x
  | "hex", [] => .ok (text (hexadecimal x))
  | _, _ => Arguments.refused

/-- The whole number nearest to a quotient, the even one of two. -/
def nearest (num : Int) (den : Nat) : Int :=
  let n : Int := Binary64.roundHalfEven num.natAbs den
  if num < 0 then -n else n

/-- A double rounded to a whole number. -/
def roundedDouble (x : Binary64) : Except Failure Meaning :=
  match x with
  | .finite negative significand exponent =>
    let (num, den) := Binary64.magnitude significand exponent
    let n := nearest num den
    .ok (int (if negative then -n else n))
  | x => (Conversion.wholePart x).map int

/-- A double rounded to some decimals. -/
def roundedTo (x : Binary64) (decimals : Int) : Except Failure Meaning :=
  match x with
  | .finite negative significand exponent =>
    if 323 < decimals then .ok (.constant (.float x))
    else if decimals < -308 then .ok (.constant (.float (Binary64.zero negative)))
    else
      let (num, den) := Binary64.magnitude significand exponent
      let scale : Nat := Nat.pow 10 decimals.natAbs
      let n :=
        if 0 ≤ decimals then Binary64.roundHalfEven (num * scale) den
        else Binary64.roundHalfEven num (den * scale)
      match Binary64.ofDecimal negative n (-decimals) with
      | .infinity _ => .error (.breach .overflow "rounded value too large to represent")
      | y => .ok (.constant (.float y))
  | x => .ok (.constant (.float x))

/-- A number rounded. -/
def rounded (item : Meaning) (decimals : Option Meaning) : Except Failure Meaning := do
  let decimals := if decimals.any (fun d => same d nothing) then none else decimals
  match item.core, decimals with
  | .constant (.float x), none => roundedDouble x
  | .constant (.float x), some decimals => roundedTo x (← Arguments.integer decimals)
  | item, decimals =>
    match item.integer?, decimals with
    | none, _ => misuse "type doesn't define __round__ method"
    | some i, none => return int i
    | some i, some decimals =>
      let decimals ← Arguments.integer decimals
      if 0 ≤ decimals then return int i
      Arithmetic.requireBits (4 * decimals.natAbs)
      let unit : Nat := Nat.pow 10 decimals.natAbs
      return int (nearest i unit * unit)

end PageContracts.Language.NumberMethod
