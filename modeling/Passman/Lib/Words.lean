import Mathlib.Algebra.Ring.Nat
import Mathlib.Tactic.Common

/-!
# Saturating machine arithmetic

Clamped sums and differences of 64-bit words and the clamped conversion to a
signed word, each with the number it denotes.
-/
namespace Words

/-- The largest unsigned 64-bit word. -/
def maxU64 : UInt64 := 18446744073709551615

/-- The largest signed 64-bit word. -/
def maxI64 : Int64 := 9223372036854775807

/-- The sum, clamped at the largest word. -/
def saturatingAdd (left right : UInt64) : UInt64 :=
  if left.toNat + right.toNat < 2 ^ 64 then left + right else maxU64

/-- The difference, clamped at zero. -/
def saturatingSub (left right : UInt64) : UInt64 := if right ≤ left then left - right else 0

/-- The product, clamped at the largest word. -/
def saturatingMul (left right : UInt64) : UInt64 :=
  if left.toNat * right.toNat < 2 ^ 64 then left * right else maxU64

/-- The signed word of an unsigned one, clamped at the largest signed word. -/
def toI64 (word : UInt64) : Int64 := if word.toNat < 2 ^ 63 then word.toInt64 else maxI64

/-- A clamped sum denotes the smaller of the sum and the largest word. -/
theorem saturatingAdd_toNat (left right : UInt64) :
    (saturatingAdd left right).toNat = min (left.toNat + right.toNat) (2 ^ 64 - 1) := by
  rw [saturatingAdd]
  split
  · next fits =>
    rw [UInt64.toNat_add, Nat.mod_eq_of_lt fits]
    omega
  · next overflows =>
    have top : maxU64.toNat = 2 ^ 64 - 1 := rfl
    rw [top]
    omega

/-- A clamped successor is not zero. -/
theorem saturatingAdd_one_ne_zero (word : UInt64) : saturatingAdd word 1 ≠ 0 := by
  intro zero
  have counted := congrArg UInt64.toNat zero
  rw [saturatingAdd_toNat] at counted
  have one : (1 : UInt64).toNat = 1 := rfl
  have none : (0 : UInt64).toNat = 0 := rfl
  omega

/-- A clamped difference denotes the truncated difference. -/
theorem saturatingSub_toNat (left right : UInt64) :
    (saturatingSub left right).toNat = left.toNat - right.toNat := by
  rw [saturatingSub]
  split
  · next ordered => exact UInt64.toNat_sub_of_le left right ordered
  · next reversed =>
    rw [UInt64.le_iff_toNat_le] at reversed
    have zero : (0 : UInt64).toNat = 0 := rfl
    rw [zero]
    omega

/-- A clamped product denotes the smaller of the product and the largest word. -/
theorem saturatingMul_toNat (left right : UInt64) :
    (saturatingMul left right).toNat = min (left.toNat * right.toNat) (2 ^ 64 - 1) := by
  rw [saturatingMul]
  split
  · next fits =>
    rw [UInt64.toNat_mul, Nat.mod_eq_of_lt fits]
    omega
  · next overflows =>
    have top : maxU64.toNat = 2 ^ 64 - 1 := rfl
    rw [top]
    omega

/-- The larger word denotes the larger number. -/
theorem max_toNat (left right : UInt64) : (max left right).toNat = max left.toNat right.toNat := by
  change (if left ≤ right then right else left).toNat = _
  split
  · next ordered => exact (Nat.max_eq_right (UInt64.le_iff_toNat_le.mp ordered)).symm
  · next reversed =>
    rw [UInt64.le_iff_toNat_le] at reversed
    exact (Nat.max_eq_left (Nat.le_of_not_le reversed)).symm

/-- Taking the larger word again changes nothing. -/
theorem max_max (left right : UInt64) : max left (max left right) = max left right := by
  rw [← UInt64.toNat_inj, max_toNat, max_toNat, ← Nat.max_assoc, Nat.max_self]

/-- The smaller word denotes the smaller number. -/
theorem min_toNat (left right : UInt64) : (min left right).toNat = min left.toNat right.toNat := by
  change (if left ≤ right then left else right).toNat = _
  split
  · next ordered => exact (Nat.min_eq_left (UInt64.le_iff_toNat_le.mp ordered)).symm
  · next reversed =>
    rw [UInt64.le_iff_toNat_le] at reversed
    exact (Nat.min_eq_right (Nat.le_of_not_le reversed)).symm

/-- The smaller word is at most the left one. -/
theorem min_le_left (left right : UInt64) : min left right ≤ left := by
  rw [UInt64.le_iff_toNat_le, min_toNat]
  exact Nat.min_le_left _ _

/-- The smaller word is at most the right one. -/
theorem min_le_right (left right : UInt64) : min left right ≤ right := by
  rw [UInt64.le_iff_toNat_le, min_toNat]
  exact Nat.min_le_right _ _

/-- Below the signed range the conversion keeps the number. -/
theorem toI64_toInt (word : UInt64) (small : word.toNat < 2 ^ 63) :
    (toI64 word).toInt = word.toNat := by
  have signed : word.toInt64.toInt = word.toBitVec.toInt := rfl
  have half : 2 * word.toBitVec.toNat < 2 ^ 64 := by
    change 2 * word.toNat < 2 ^ 64
    omega
  rw [toI64, if_pos small, signed, BitVec.toInt_eq_toNat_of_lt half]
  rfl

/-- The conversion is never negative. -/
theorem toI64_nonneg (word : UInt64) : 0 ≤ toI64 word := by
  rw [Int64.le_iff_toInt_le]
  by_cases small : word.toNat < 2 ^ 63
  · rw [toI64_toInt word small]
    exact Int.natCast_nonneg _
  · rw [toI64, if_neg small]
    decide

/-- Below the signed range the conversion is undone by the unsigned reading. -/
theorem toUInt64_toI64 (word : UInt64) (small : word.toNat < 2 ^ 63) :
    (toI64 word).toUInt64 = word := by
  rw [toI64, if_pos small]
  rfl

/-- A positive word below the signed range is converted to a positive one. -/
theorem toI64_pos (word : UInt64) (positive : 0 < word.toNat) (small : word.toNat < 2 ^ 63) :
    ¬ toI64 word ≤ 0 := by
  rw [Int64.le_iff_toInt_le, toI64_toInt word small]
  have zero : (0 : Int64).toInt = 0 := rfl
  omega

/-- The larger signed word is the left one when it bounds the right one. -/
theorem max_eq_left_of_le {left right : Int64} (ordered : right ≤ left) :
    max left right = left := by
  change (if left ≤ right then right else left) = left
  split
  · next reversed => exact Int64.le_antisymm ordered reversed
  · rfl

/-- The larger signed word denotes the larger number. -/
theorem max_toInt (left right : Int64) : (max left right).toInt = max left.toInt right.toInt := by
  change (if left ≤ right then right else left).toInt = _
  by_cases ordered : left ≤ right
  · rw [if_pos ordered]
    exact (Int.max_eq_right (Int64.le_iff_toInt_le.mp ordered)).symm
  · rw [if_neg ordered]
    rw [Int64.le_iff_toInt_le, Int.not_le] at ordered
    exact (Int.max_eq_left (Int.le_of_lt ordered)).symm

/-- A positive signed word denotes the same number as an unsigned one. -/
theorem toUInt64_toNat {word : Int64} (positive : 0 < word.toInt) :
    (word.toUInt64.toNat : Int) = word.toInt := by
  have signed : word.toInt = word.toUInt64.toBitVec.toInt := rfl
  have unsigned : word.toUInt64.toNat = word.toUInt64.toBitVec.toNat := rfl
  rw [signed] at positive ⊢
  rw [unsigned]
  have split := BitVec.toInt_eq_toNat_cond word.toUInt64.toBitVec
  have bound := word.toUInt64.toBitVec.isLt
  by_cases low : 2 * word.toUInt64.toBitVec.toNat < 2 ^ 64
  · rw [split, if_pos low]
  · rw [split, if_neg low] at positive
    omega

section Checked

/-- The sum, unless it overflows. -/
def checkedAdd (left right : UInt64) : Option UInt64 :=
  if left.toNat + right.toNat < 2 ^ 64 then some (left + right) else none

/-- The difference, unless it underflows. -/
def checkedSub (left right : UInt64) : Option UInt64 :=
  if right.toNat ≤ left.toNat then some (left - right) else none

/-- The product, unless it overflows. -/
def checkedMul (left right : UInt64) : Option UInt64 :=
  if left.toNat * right.toNat < 2 ^ 64 then some (left * right) else none

/-- The word shifted to the left, unless a bit is lost. -/
def checkedShl (word places : UInt64) : Option UInt64 :=
  if word.toNat * 2 ^ places.toNat < 2 ^ 64 then some (word <<< places) else none

/-- A sum in range is the clamped sum. -/
theorem checkedAdd_of_fits {left right : UInt64} (fits : left.toNat + right.toNat < 2 ^ 64) :
    checkedAdd left right = some (saturatingAdd left right) := by
  rw [checkedAdd, saturatingAdd, if_pos fits, if_pos fits]

/-- A product in range is the clamped product. -/
theorem checkedMul_of_fits {left right : UInt64} (fits : left.toNat * right.toNat < 2 ^ 64) :
    checkedMul left right = some (saturatingMul left right) := by
  rw [checkedMul, saturatingMul, if_pos fits, if_pos fits]

/-- A difference in range is the difference. -/
theorem checkedSub_of_le {left right : UInt64} (ordered : right ≤ left) :
    checkedSub left right = some (left - right) := by
  rw [UInt64.le_iff_toNat_le] at ordered
  rw [checkedSub, if_pos ordered]

end Checked

end Words
