import Mathlib.Algebra.BigOperators.Group.List.Basic
import Mathlib.Algebra.Ring.Nat
import Atari800XL.Disk.Checksum
import Atari800XL.Proofs.Bytes

namespace Atari800XL.Disk

def endAround (n : Nat) : Nat := if n = 0 then 0 else (n - 1) % 255 + 1

theorem endAround_of_le {n : Nat} (h : n ≤ 255) : endAround n = n := by
  unfold endAround
  split <;> omega

theorem endAround_le (n : Nat) : endAround n ≤ 255 := by
  unfold endAround
  split <;> omega

theorem endAround_add (n m : Nat) : endAround (endAround n + m) = endAround (n + m) := by
  unfold endAround
  split <;> split <;> split <;> omega

theorem endAround_eq_iff {n m : Nat} :
    endAround n = endAround m ↔ (n = 0 ↔ m = 0) ∧ n % 255 = m % 255 := by
  unfold endAround
  split <;> split <;> omega

def byteSum (bytes : List UInt8) : Nat := (bytes.map UInt8.toNat).sum

def runningSum (bytes : List UInt8) : UInt16 := bytes.foldl addWithEndCarry 0

section

variable {sum : UInt16} {bytes other : List UInt8}

theorem byteSum_cons (b : UInt8) (bytes : List UInt8) :
    byteSum (b :: bytes) = b.toNat + byteSum bytes := List.sum_cons

theorem byteSum_append_cons (before : List UInt8) (b : UInt8) (after : List UInt8) :
    byteSum (before ++ b :: after) = b.toNat + byteSum (before ++ after) := by
  simp only [byteSum, List.map_append, List.map_cons, List.sum_append_nat, List.sum_cons]
  omega

theorem byteSum_eq_zero_iff : byteSum bytes = 0 ↔ ∀ b ∈ bytes, b = 0 := by
  simp only [byteSum, List.sum_eq_zero_iff_forall_eq_nat, List.forall_mem_map, ← UInt8.toNat_inj,
    UInt8.toNat_zero]

theorem exists_ne_zero_iff : (∃ b ∈ bytes, b ≠ 0) ↔ byteSum bytes ≠ 0 := by
  rw [Ne, byteSum_eq_zero_iff]
  push Not
  rfl

theorem byteSum_perm (same : other.Perm bytes) : byteSum other = byteSum bytes :=
  (same.map UInt8.toNat).sum_nat

theorem toNat_add_byte (low : sum.toNat ≤ 255) (b : UInt8) :
    (sum + b.toUInt16).toNat = sum.toNat + b.toNat := by
  have byte := b.toNat_lt
  rw [UInt16.toNat_add, UInt8.toNat_toUInt16]
  omega

theorem toNat_addWithEndCarry (low : sum.toNat ≤ 255) (b : UInt8) :
    (addWithEndCarry sum b).toNat = endAround (sum.toNat + b.toNat) := by
  have byte := b.toNat_lt
  have added := toNat_add_byte low b
  unfold addWithEndCarry
  dsimp only
  generalize sum + b.toUInt16 = total at added ⊢
  rw [← added]
  split
  · rename_i carried
    have carried : 255 < total.toNat := UInt16.lt_iff_toNat_lt.1 carried
    have rest : (total &&& 0xFF).toNat = total.toNat % 256 :=
      (UInt16.toNat_and ..).trans (Nat.and_two_pow_sub_one_eq_mod _ 8)
    rw [UInt16.toNat_add, rest, UInt16.toNat_one, endAround, if_neg (by omega)]
    omega
  · rename_i below
    have below : total.toNat ≤ 255 :=
      Nat.le_of_not_lt fun carried => below (UInt16.lt_iff_toNat_lt.2 carried)
    exact (endAround_of_le below).symm

theorem toNat_foldl (low : sum.toNat ≤ 255) (bytes : List UInt8) :
    (bytes.foldl addWithEndCarry sum).toNat = endAround (sum.toNat + byteSum bytes) := by
  induction bytes generalizing sum with
  | nil => exact (endAround_of_le low).symm
  | cons b bytes ih =>
    have next := toNat_addWithEndCarry low b
    rw [List.foldl_cons, ih (next ▸ endAround_le _), next, endAround_add, byteSum_cons,
      Nat.add_assoc]

theorem toNat_runningSum (bytes : List UInt8) :
    (runningSum bytes).toNat = endAround (byteSum bytes) := by
  rw [runningSum, toNat_foldl (Nat.zero_le _), UInt16.toNat_zero, Nat.zero_add]

theorem runningSum_le (bytes : List UInt8) : (runningSum bytes).toNat ≤ 255 :=
  toNat_runningSum bytes ▸ endAround_le _

theorem checksum_eq (bytes : List UInt8) :
    checksum bytes.toByteArray = (runningSum bytes).toUInt8 := by
  rw [checksum, foldl_eq_foldl_toList, List.data_toByteArray, runningSum]

theorem toNat_checksum (bytes : List UInt8) :
    (checksum bytes.toByteArray).toNat = endAround (byteSum bytes) := by
  have low := runningSum_le bytes
  rw [checksum_eq, UInt16.toNat_toUInt8, Nat.mod_eq_of_lt (by omega), toNat_runningSum]

theorem checksum_eq_iff : checksum other.toByteArray = checksum bytes.toByteArray ↔
    (byteSum other = 0 ↔ byteSum bytes = 0) ∧ byteSum other % 255 = byteSum bytes % 255 := by
  rw [← UInt8.toNat_inj, toNat_checksum, toNat_checksum, endAround_eq_iff]

theorem checksum_change_iff (before : List UInt8) {b c : UInt8} (differ : b ≠ c)
    (after : List UInt8) :
    checksum (before ++ c :: after).toByteArray = checksum (before ++ b :: after).toByteArray ↔
      (b = 0x00 ∧ c = 0xFF ∨ b = 0xFF ∧ c = 0x00) ∧ ∃ x ∈ before ++ after, x ≠ 0 := by
  have b_lt := b.toNat_lt
  have c_lt := c.toNat_lt
  rw [checksum_eq_iff, byteSum_append_cons, byteSum_append_cons, exists_ne_zero_iff]
  simp only [Ne, ← UInt8.toNat_inj] at differ ⊢
  generalize byteSum (before ++ after) = rest
  show (c.toNat + rest = 0 ↔ b.toNat + rest = 0) ∧
      (c.toNat + rest) % 255 = (b.toNat + rest) % 255 ↔
    (b.toNat = 0 ∧ c.toNat = 255 ∨ b.toNat = 255 ∧ c.toNat = 0) ∧ ¬rest = 0
  omega

end

/-- The checksum is the sum of the bytes, counted up to 255 and on from 1. The sum on the way never
exceeds 510, so no carry is lost. The order of the bytes does not matter, and a single byte that is
changed changes the checksum, unless it changes between zero and 255 among others that are not all
zero. -/
theorem checksum_counts (bytes : List UInt8) :
    ((∀ b ∈ bytes, b = 0) → checksum bytes.toByteArray = 0) ∧
      ((∃ b ∈ bytes, b ≠ 0) → (checksum bytes.toByteArray).toNat =
        ((bytes.map UInt8.toNat).sum - 1) % 255 + 1) ∧
      (checksum bytes.toByteArray = (runningSum bytes).toUInt8 ∧
        ∀ before b after, bytes = before ++ b :: after →
          (runningSum before + b.toUInt16).toNat = (runningSum before).toNat + b.toNat ∧
            (runningSum before).toNat + b.toNat ≤ 510) ∧
      (∀ other : List UInt8, other.Perm bytes →
        checksum other.toByteArray = checksum bytes.toByteArray) ∧
      ∀ before b after, bytes = before ++ b :: after → ∀ c, c ≠ b →
        checksum (before ++ c :: after).toByteArray = checksum bytes.toByteArray →
          (b = 0x00 ∧ c = 0xFF ∨ b = 0xFF ∧ c = 0x00) ∧ ∃ x ∈ before ++ after, x ≠ 0 := by
  refine ⟨fun zeros => ?_, fun some => ?_, ⟨checksum_eq bytes, fun before b after _ => ?_⟩,
    fun other same => ?_, ?_⟩
  · rw [← UInt8.toNat_inj, toNat_checksum, byteSum_eq_zero_iff.2 zeros]
    rfl
  · rw [toNat_checksum, endAround, if_neg (exists_ne_zero_iff.1 some)]
    rfl
  · have low := runningSum_le before
    have byte := b.toNat_lt
    exact ⟨toNat_add_byte low b, by omega⟩
  · rw [checksum_eq_iff, byteSum_perm same]
    exact ⟨Iff.rfl, rfl⟩
  · rintro before b after rfl c differ same
    exact (checksum_change_iff before differ.symm after).1 same

theorem checksum_counts_sample :
    (checksum [0x31, 0x00].toByteArray).toNat = 0x31 ∧
      checksum [0x00, 0x31].toByteArray = checksum [0x31, 0x00].toByteArray ∧
      (0xFF : UInt8) ≠ 0x00 ∧
      checksum [0x31, 0xFF].toByteArray = checksum [0x31, 0x00].toByteArray ∧
      ∃ x ∈ [0x31], x ≠ (0 : UInt8) := by
  obtain ⟨-, value, -, order, changed⟩ := checksum_counts [0x31, 0x00]
  have differ : (0xFF : UInt8) ≠ 0x00 := by decide
  have same : checksum [0x31, 0xFF].toByteArray = checksum [0x31, 0x00].toByteArray := by decide
  exact ⟨value ⟨0x31, List.mem_cons_self, by decide⟩, order [0x00, 0x31] (.swap ..), differ, same,
    (changed [0x31] 0x00 [] rfl 0xFF differ same).2⟩

end Atari800XL.Disk
