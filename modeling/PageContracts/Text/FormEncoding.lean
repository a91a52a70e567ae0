import PageContracts.Text.Characters

/-! # Form encoding

Text inside a URL: unreserved ASCII characters stand for themselves, a space is written `+`, and
every other byte of the UTF-8 form is a percent escape. The decoder is the converse reading.
-/
namespace PageContracts.FormEncoding

open Characters

/-- Whether a character is written as itself. -/
def isUnreserved (c : Char) : Bool :=
  isAsciiLetter c || isAsciiDigit c || c = '_' || c = '.' || c = '-' || c = '~'

/-- An upper-case hexadecimal digit. -/
def hexDigit (n : Nat) : Char :=
  if n < 10 then Char.ofNat ('0'.toNat + n) else Char.ofNat ('A'.toNat + (n - 10))

/-- The value of a hexadecimal digit of either case. -/
def hexValue? (c : Char) : Option Nat :=
  if isAsciiDigit c then some (c.toNat - '0'.toNat)
  else
    let lower := asciiLower c
    if 'a' ≤ lower ∧ lower ≤ 'f' then some (lower.toNat - 'a'.toNat + 10) else none

/-- The encoded form of one byte. -/
def encodeByte (b : UInt8) : List Char :=
  let c := Char.ofNat b.toNat
  if isUnreserved c then [c]
  else if c = ' ' then ['+']
  else ['%', hexDigit (b.toNat / 16), hexDigit (b.toNat % 16)]

/-- The encoded form of a row of bytes. -/
def encodeBytes (bytes : List UInt8) : List Char :=
  bytes.flatMap encodeByte

/-- The encoded form of a text. -/
def encode (text : String) : String :=
  String.ofList (encodeBytes text.toUTF8.toList)

/-- The bytes an encoded text stands for; `none` when an escape is cut short or a character is
not ASCII. -/
def decodeBytes : List Char → Option (List UInt8)
  | [] => some []
  | '+' :: rest => (decodeBytes rest).map (32 :: ·)
  | '%' :: high :: low :: rest => do
    let h ← hexValue? high
    let l ← hexValue? low
    let tail ← decodeBytes rest
    return UInt8.ofNat (16 * h + l) :: tail
  | '%' :: _ => none
  | c :: rest =>
    if c.toNat < 128 then (decodeBytes rest).map (UInt8.ofNat c.toNat :: ·) else none

/-- The text an encoded text stands for, when its bytes are UTF-8. -/
def decode? (text : String) : Option String := do
  let bytes ← decodeBytes text.toList
  String.fromUTF8? ⟨bytes.toArray⟩

end PageContracts.FormEncoding
