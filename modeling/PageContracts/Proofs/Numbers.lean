import Mathlib.Algebra.Order.Field.Rat
import Mathlib.Data.Rat.Cast.Order
import Mathlib.Tactic.Positivity
import PageContracts.Value.Arithmetic

/-! # The numbers that values stand for

A finite double stands for a rational number, and so does whatever counts as a whole number. Numbers of
both kinds are compared as what they stand for, without rounding. -/
namespace PageContracts
namespace Binary64

/-- The number that a double stands for. -/
def rational? : Binary64 → Option ℚ
  | .finite negative significand exponent =>
    some ((if negative then -1 else 1) * (significand * 2 ^ exponent))
  | _ => none

theorem magnitude_eq (significand : Nat) (exponent : Int) :
    0 < (magnitude significand exponent).2 ∧
      ((magnitude significand exponent).1 : ℚ) =
        significand * 2 ^ exponent * (magnitude significand exponent).2 := by
  unfold magnitude
  split
  · next whole =>
    obtain ⟨power, rfl⟩ := Int.eq_ofNat_of_zero_le whole
    simp
  · next broken =>
    obtain ⟨power, rfl⟩ : ∃ power : Nat, exponent = -power := ⟨(-exponent).toNat, by omega⟩
    refine ⟨Nat.pow_pos (by decide), ?_⟩
    have some : (2 : ℚ) ^ power ≠ 0 := by positivity
    simp [zpow_neg, zpow_natCast, some]

/-- A double is compared by a quotient of the number it stands for. -/
theorem toQuotient_eq {negative : Bool} {significand : Nat} {exponent : Int} {x : ℚ}
    (stands : rational? (.finite negative significand exponent) = some x) :
    0 < (toQuotient negative significand exponent).2 ∧
      ((toQuotient negative significand exponent).1 : ℚ) =
        x * (toQuotient negative significand exponent).2 := by
  obtain ⟨positive, same⟩ := magnitude_eq significand exponent
  cases stands
  refine ⟨positive, ?_⟩
  cases negative <;> simp [toQuotient, same]

theorem quotient_lt_iff {x y : ℚ} {p r : Int} {q s : Nat} (first : 0 < q) (second : 0 < s)
    (left : (p : ℚ) = x * q) (right : (r : ℚ) = y * s) : p * s < r * q ↔ x < y := by
  have positive : (0 : ℚ) < q * s := by positivity
  calc p * s < r * q
    _ ↔ (p : ℚ) * s < r * q := by norm_cast
    _ ↔ x * (q * s) < y * (q * s) := by
      rw [left, right, mul_assoc, mul_assoc, mul_comm (s : ℚ) q]
    _ ↔ x < y := mul_lt_mul_iff_left₀ positive

variable {a b : Binary64} {x y : ℚ} {i : Int}

theorem lt_of_rational (left : a.rational? = some x) (right : b.rational? = some y) :
    a.lt b = decide (x < y) := by
  cases a with
  | nan => cases left
  | infinity => cases left
  | finite =>
    cases b with
    | nan => cases right
    | infinity => cases right
    | finite =>
      obtain ⟨first, left⟩ := toQuotient_eq left
      obtain ⟨second, right⟩ := toQuotient_eq right
      exact decide_eq_decide.mpr (quotient_lt_iff first second left right)

theorem ltInt_of_rational (left : a.rational? = some x) : a.ltInt i = decide (x < i) := by
  cases a with
  | nan => cases left
  | infinity => cases left
  | finite =>
    obtain ⟨first, left⟩ := toQuotient_eq left
    have order := quotient_lt_iff first Nat.one_pos left (show (i : ℚ) = i * (1 : Nat) by simp)
    rw [Nat.cast_one, mul_one] at order
    exact decide_eq_decide.mpr order

theorem intLt_of_rational (right : b.rational? = some y) : intLt i b = decide ((i : ℚ) < y) := by
  cases b with
  | nan => cases right
  | infinity => cases right
  | finite =>
    obtain ⟨second, right⟩ := toQuotient_eq right
    have order := quotient_lt_iff Nat.one_pos second (show (i : ℚ) = i * (1 : Nat) by simp) right
    rw [Nat.cast_one, mul_one] at order
    exact decide_eq_decide.mpr order

end Binary64

/-- The number that a value is, if it is one. -/
def Value.rational? (value : Value) : Option ℚ :=
  match value.core with
  | .float a => a.rational?
  | core => core.toInt?.map Int.cast

namespace Arithmetic

variable {a b : Value} {x y : ℚ}

theorem onNumbers_of_whole {i j : Int} (left : a.toInt? = some i) (right : b.toInt? = some j) :
    onNumbers "<" a b = some (.ok (.bool (decide (i < j)))) := by
  unfold onNumbers
  dsimp only
  split
  · next p q =>
    cases left
    cases right
    cases p <;> cases q <;> rfl
  · rw [left, right]
    rfl

theorem onNumbers_of_whole_double {f : Binary64} {i : Int} (left : a.toInt? = some i)
    (right : f.rational? = some y) :
    onNumbers "<" a (.float f) = some (.ok (.bool (decide ((i : ℚ) < y)))) := by
  rw [← Binary64.intLt_of_rational right]
  unfold Value.toInt? at left
  split at left
  · cases left
    rfl
  · cases left
    rfl
  · cases left
    rfl
  · cases left

theorem onNumbers_of_double_whole {f : Binary64} {i : Int} (left : f.rational? = some x)
    (right : b.toInt? = some i) :
    onNumbers "<" (.float f) b = some (.ok (.bool (decide (x < i)))) := by
  rw [← Binary64.ltInt_of_rational left]
  unfold onNumbers
  dsimp only
  rw [right]
  rfl

/-- Numbers are compared as what they are exactly, whole ones and doubles alike. -/
theorem onNumbers_of_rational (left : a.rational? = some x) (right : b.rational? = some y) :
    onNumbers "<" a.core b.core = some (.ok (.bool (decide (x < y)))) := by
  unfold Value.rational? at left right
  split at left
  · next f first =>
    rw [first]
    split at right
    · next g second =>
      rw [second, ← Binary64.lt_of_rational left right]
      rfl
    · obtain ⟨j, whole, rfl⟩ := Option.map_eq_some_iff.mp right
      exact onNumbers_of_double_whole left whole
  · obtain ⟨i, whole, rfl⟩ := Option.map_eq_some_iff.mp left
    split at right
    · next g second =>
      rw [second]
      exact onNumbers_of_whole_double whole right
    · obtain ⟨j, other, rfl⟩ := Option.map_eq_some_iff.mp right
      rw [onNumbers_of_whole whole other]
      simp only [Int.cast_lt]

theorem isLess_of_rational (left : a.rational? = some x) (right : b.rational? = some y) :
    isLess a b = .ok (decide (x < y)) := by
  unfold isLess
  split
  · cases left
  · cases left
  · cases left
  · cases left
  · cases left
  · rw [onNumbers_of_rational left right]

end Arithmetic
end PageContracts
