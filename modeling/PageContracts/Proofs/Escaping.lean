import PageContracts.Text.FormEncoding

/-! # Escaping

An escaped text consists of characters that stand for themselves, plus signs and escapes of two
hexadecimal digits. None of them marks off a part of a URL, so an escaped text can be put anywhere into
one without changing which parts it has, and read back it is the text that was escaped. -/
namespace PageContracts.FormEncoding

open Characters

/-- Whether a character may stand in an escaped text. -/
def mayStand (c : Char) : Bool :=
  isUnreserved c || c = '+' || c = '%'

/-- An escaped text: characters that stand for themselves, plus signs, and escapes. -/
inductive Escaped : List Char → Prop
  | nil : Escaped []
  | kept {c : Char} {rest : List Char} (unreserved : isUnreserved c = true) (behind : Escaped rest) :
      Escaped (c :: rest)
  | blank {rest : List Char} (behind : Escaped rest) : Escaped ('+' :: rest)
  | escape {high low : Char} {rest : List Char} (first : (hexValue? high).isSome = true)
      (second : (hexValue? low).isSome = true) (behind : Escaped rest) :
      Escaped ('%' :: high :: low :: rest)

section Digits

variable {c d : Char}

theorem toNat_le_of_le (h : c ≤ d) : c.toNat ≤ d.toNat :=
  h

theorem toNat_lt_of_isUnreserved (h : isUnreserved c = true) : c.toNat < 128 := by
  simp only [isUnreserved, isAsciiLetter, isAsciiDigit, Bool.or_eq_true, Bool.and_eq_true,
    decide_eq_true_eq] at h
  rcases h with ((((((⟨-, small⟩ | ⟨-, capital⟩) | ⟨-, digit⟩) | rfl) | rfl) | rfl) | rfl)
  · exact Nat.lt_of_le_of_lt (toNat_le_of_le small) (by decide)
  · exact Nat.lt_of_le_of_lt (toNat_le_of_le capital) (by decide)
  · exact Nat.lt_of_le_of_lt (toNat_le_of_le digit) (by decide)
  all_goals decide

theorem isUnreserved_of_letter (h : isAsciiLetter c = true) : isUnreserved c = true := by
  simp [isUnreserved, h]

/-- The digits of an escape stand for themselves elsewhere. -/
theorem isUnreserved_of_hexValue? (h : (hexValue? c).isSome = true) : isUnreserved c = true := by
  unfold hexValue? at h
  split at h
  · next digit => simp [isUnreserved, digit]
  · dsimp only at h
    split at h
    · next letter =>
      refine isUnreserved_of_letter ?_
      unfold asciiLower at letter
      split at letter
      · next capital => simp [isAsciiLetter, capital]
      · have small : c ≤ 'z' := Nat.le_trans (toNat_le_of_le letter.2) (by decide)
        simp [isAsciiLetter, letter, small]
    · cases h

theorem hexValue?_hexDigit : ∀ n < 16, hexValue? (hexDigit n) = some n := by
  decide

end Digits

namespace Escaped

variable {text : List Char} {c : Char}

theorem mayStand_of_mem (h : Escaped text) : ∀ c ∈ text, mayStand c = true := by
  have kept {c : Char} (unreserved : isUnreserved c = true) : mayStand c = true := by
    simp [mayStand, unreserved]
  induction h with
  | nil => nofun
  | kept unreserved _ ih => exact List.forall_mem_cons.mpr ⟨kept unreserved, ih⟩
  | blank _ ih => exact List.forall_mem_cons.mpr ⟨rfl, ih⟩
  | escape first second _ ih =>
    have high := kept (isUnreserved_of_hexValue? first)
    have low := kept (isUnreserved_of_hexValue? second)
    exact List.forall_mem_cons.mpr
      ⟨rfl, List.forall_mem_cons.mpr ⟨high, List.forall_mem_cons.mpr ⟨low, ih⟩⟩⟩

/-- What marks off the parts of a URL does not stand in an escaped text. -/
theorem not_mem (h : Escaped text) (never : mayStand c = false) : c ∉ text := by
  intro listed
  rw [h.mayStand_of_mem c listed] at never
  cases never

end Escaped

section Bytes

/-- A byte is written as a character of its own, as a plus sign, or as an escape of its two digits. -/
theorem encodeByte_cases (b : UInt8) :
    (∃ c, isUnreserved c = true ∧ UInt8.ofNat c.toNat = b ∧ encodeByte b = [c]) ∨
      (b = 32 ∧ encodeByte b = ['+']) ∨
        ∃ high low, hexValue? high = some (b.toNat / 16) ∧ hexValue? low = some (b.toNat % 16) ∧
          encodeByte b = ['%', high, low] := by
  have small : b.toNat < 256 := b.toNat_lt_size
  have code : (Char.ofNat b.toNat).toNat = b.toNat := by
    have valid : b.toNat.isValidChar := .inl (by omega)
    rw [Char.ofNat, dif_pos valid]
    rfl
  have read : UInt8.ofNat (Char.ofNat b.toNat).toNat = b := by
    rw [code]
    exact UInt8.ofNat_toNat
  unfold encodeByte
  dsimp only
  split
  · next unreserved => exact .inl ⟨_, unreserved, read, rfl⟩
  · split
    · next blank =>
      rw [blank] at read
      exact .inr (.inl ⟨read.symm, rfl⟩)
    · exact .inr (.inr ⟨_, _, hexValue?_hexDigit _ (by omega), hexValue?_hexDigit _ (by omega), rfl⟩)

theorem decodeBytes_of_unreserved {c : Char} (h : isUnreserved c = true) (rest : List Char) :
    decodeBytes (c :: rest) = (decodeBytes rest).map (UInt8.ofNat c.toNat :: ·) := by
  have plus : c ≠ '+' := by
    rintro rfl
    cases h
  have percent : c ≠ '%' := by
    rintro rfl
    cases h
  rw [decodeBytes, if_pos (toNat_lt_of_isUnreserved h)]
  · exact fun blank => plus blank
  · exact fun _ _ _ escape _ => percent escape
  · exact fun escape => percent escape

theorem decodeBytes_of_escape {high low : Char} {first second : Nat}
    (upper : hexValue? high = some first) (lower : hexValue? low = some second) (rest : List Char) :
    decodeBytes ('%' :: high :: low :: rest) =
      (decodeBytes rest).map (UInt8.ofNat (16 * first + second) :: ·) := by
  rw [decodeBytes, upper, lower]
  cases decodeBytes rest <;> rfl

theorem decodeBytes_encodeByte (b : UInt8) (rest : List Char) :
    decodeBytes (encodeByte b ++ rest) = (decodeBytes rest).map (b :: ·) := by
  rcases encodeByte_cases b with
    ⟨c, unreserved, read, spelled⟩ | ⟨rfl, spelled⟩ | ⟨high, low, upper, lower, spelled⟩
  · rw [spelled, List.singleton_append, decodeBytes_of_unreserved unreserved, read]
  · rw [spelled]
    rfl
  · have whole : UInt8.ofNat (16 * (b.toNat / 16) + b.toNat % 16) = b := by
      rw [Nat.div_add_mod]
      exact UInt8.ofNat_toNat
    rw [spelled]
    exact (decodeBytes_of_escape upper lower rest).trans (by rw [whole])

theorem decodeBytes_encodeBytes (bytes : List UInt8) :
    decodeBytes (encodeBytes bytes) = some bytes := by
  induction bytes with
  | nil => rfl
  | cons b rest ih =>
    rw [encodeBytes, List.flatMap_cons, decodeBytes_encodeByte, ← encodeBytes, ih]
    rfl

theorem escaped_encodeBytes (bytes : List UInt8) : Escaped (encodeBytes bytes) := by
  induction bytes with
  | nil => exact .nil
  | cons b rest ih =>
    rw [encodeBytes, List.flatMap_cons, ← encodeBytes]
    rcases encodeByte_cases b with
      ⟨c, unreserved, -, spelled⟩ | ⟨-, spelled⟩ | ⟨high, low, upper, lower, spelled⟩
    · rw [spelled]
      exact .kept unreserved ih
    · rw [spelled]
      exact .blank ih
    · rw [spelled]
      exact .escape (by rw [upper]; rfl) (by rw [lower]; rfl) ih

end Bytes

section Texts

theorem toList_loop (bytes : ByteArray) (i : Nat) (read : List UInt8) :
    ByteArray.toList.loop bytes i read = read.reverse ++ bytes.data.toList.drop i := by
  induction i, read using ByteArray.toList.loop.induct bytes with
  | case1 i read more ih =>
    have more' : i < bytes.data.toList.length := more
    have same : bytes.get! i = bytes.data.toList[i] := getElem!_pos bytes.data i more
    rw [ByteArray.toList.loop, if_pos more, ih, List.drop_eq_getElem_cons more', List.reverse_cons,
      List.append_assoc, same]
    rfl
  | case2 i read done =>
    have beyond : bytes.data.toList.length ≤ i := Nat.not_lt.mp done
    rw [ByteArray.toList.loop, if_neg done, List.drop_eq_nil_of_le beyond, List.append_nil]

theorem toList_eq (bytes : ByteArray) : bytes.toList = bytes.data.toList :=
  toList_loop bytes 0 []

theorem toList_encode (text : String) :
    (encode text).toList = encodeBytes text.toUTF8.toList :=
  String.toList_ofList

theorem escaped_encode (text : String) : Escaped (encode text).toList := by
  rw [toList_encode]
  exact escaped_encodeBytes _

/-- An escaped text is read back as the text that was escaped. -/
theorem decode?_encode (text : String) : decode? (encode text) = some text := by
  have valid : String.fromUTF8? text.toUTF8 = some text := dif_pos text.isValidUTF8
  have bytes : (⟨text.toUTF8.toList.toArray⟩ : ByteArray) = text.toUTF8 := by
    rw [toList_eq, Array.toArray_toList]
  rw [decode?, toList_encode, decodeBytes_encodeBytes]
  exact (congrArg String.fromUTF8? bytes).trans valid

end Texts

end PageContracts.FormEncoding
