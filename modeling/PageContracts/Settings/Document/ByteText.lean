import PageContracts.Text.Characters

/-! # Bytes as written

Bytes in a settings document are written in base 64: four characters for three bytes. Characters
outside its alphabet are passed over, and an equals sign closes an unfinished group.
-/
namespace PageContracts.Document.ByteText

open Characters

/-- The value of a character of the alphabet. -/
def digitValue? (c : Char) : Option Nat :=
  if 'A' ≤ c ∧ c ≤ 'Z' then some (c.toNat - 'A'.toNat)
  else if 'a' ≤ c ∧ c ≤ 'z' then some (c.toNat - 'a'.toNat + 26)
  else if isAsciiDigit c then some (c.toNat - '0'.toNat + 52)
  else if c = '+' then some 62
  else if c = '/' then some 63
  else none

/-- Read bytes. The group that is open is given by how many of its characters have been read and
by the value of those bits that have not become bytes; `closings` are the equals signs read in a
row behind it. Without enough of them an unfinished group is an error. -/
def readFrom (place left closings : Nat) : List Char → Option (List UInt8)
  | [] => if place = 0 then some [] else none
  | c :: rest =>
    if c = '=' then
      if 2 ≤ place then
        if 4 ≤ place + closings + 1 then some [] else readFrom place left (closings + 1) rest
      else readFrom place left closings rest
    else
      match digitValue? c with
      | none => readFrom place left closings rest
      | some value =>
        let bits := 64 * left + value
        match place with
        | 0 => readFrom 1 bits 0 rest
        | 1 => (readFrom 2 (bits % 16) 0 rest).map (UInt8.ofNat (bits / 16) :: ·)
        | 2 => (readFrom 3 (bits % 4) 0 rest).map (UInt8.ofNat (bits / 4) :: ·)
        | _ => (readFrom 0 0 0 rest).map (UInt8.ofNat bits :: ·)

/-- The bytes a text spells; only ASCII characters may spell bytes. -/
def read? (text : List Char) : Option (List UInt8) :=
  if text.all fun c => c.toNat < 0x80 then readFrom 0 0 0 text else none

end PageContracts.Document.ByteText
