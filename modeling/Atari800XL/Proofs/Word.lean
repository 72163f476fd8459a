import Mathlib.Algebra.Group.Nat.Defs
import Atari800XL.Word

namespace Atari800XL

theorem toNat_lowByte (w : UInt16) : (lowByte w).toNat = w.toNat % 256 := UInt16.toNat_toUInt8 w

theorem toNat_highByte (w : UInt16) : (highByte w).toNat = w.toNat / 256 := by
  have lt := w.toNat_lt
  have shift : (w >>> 8).toNat = w.toNat / 256 := by
    rw [UInt16.toNat_shiftRight, Nat.shiftRight_eq_div_pow]
    rfl
  rw [highByte, UInt16.toNat_toUInt8, shift]
  exact Nat.mod_eq_of_lt (by omega)

theorem toNat_word (low high : UInt8) : (word low high).toNat = low.toNat + 256 * high.toNat := by
  have small : low.toNat < 2 ^ 8 := low.toNat_lt
  have shift : (high.toUInt16 <<< 8).toNat = high.toNat <<< 8 := by
    have lt := high.toNat_lt
    rw [UInt16.toNat_shiftLeft, Nat.shiftLeft_eq, Nat.shiftLeft_eq]
    exact Nat.mod_eq_of_lt (by show high.toNat * 256 < _; omega)
  rw [word, UInt16.toNat_or, shift, UInt8.toNat_toUInt16, ← Nat.shiftLeft_add_eq_or_of_lt small,
    Nat.shiftLeft_eq]
  omega

theorem word_ofNat (n : Nat) : word (UInt8.ofNat n) (UInt8.ofNat (n / 256)) = UInt16.ofNat n := by
  rw [← UInt16.toNat_inj, toNat_word, UInt8.toNat_ofNat', UInt8.toNat_ofNat', UInt16.toNat_ofNat']
  omega

theorem ofNat_toNat_add (low high : UInt8) :
    UInt16.ofNat (low.toNat + 256 * high.toNat) = word low high := by
  rw [← toNat_word, UInt16.ofNat_toNat]

theorem word_lowByte_highByte (w : UInt16) : word (lowByte w) (highByte w) = w := by
  rw [← UInt16.toNat_inj, toNat_word, toNat_lowByte, toNat_highByte, Nat.mod_add_div]

theorem lowByte_word (low high : UInt8) : lowByte (word low high) = low := by
  have := low.toNat_lt
  rw [← UInt8.toNat_inj, toNat_lowByte, toNat_word]
  omega

theorem highByte_word (low high : UInt8) : highByte (word low high) = high := by
  have := low.toNat_lt
  rw [← UInt8.toNat_inj, toNat_highByte, toNat_word]
  omega

theorem toNat_and_15 (b : UInt8) : (b &&& 0x0F).toNat = b.toNat % 16 := by
  rw [UInt8.toNat_and]
  exact Nat.and_two_pow_sub_one_eq_mod _ 4

theorem and_upper (w : UInt16) : w &&& 0xFF00 = word 0 (highByte w) := by
  have upper : ∀ i, (inside : i < 16) → (0xFF00#16)[i] = decide (8 ≤ i) := by decide
  apply UInt16.toBitVec_inj.1
  ext i inside
  by_cases low : i < 8
  · simp [word, highByte, upper, low, Nat.not_le.2 low, -UInt16.toUInt16_toUInt8]
  · have place : i - 8 < 8 := by omega
    simp [word, highByte, upper, low, Nat.not_lt.1 low, place, BitVec.getLsbD_eq_getElem inside,
      -UInt16.toUInt16_toUInt8]

theorem and_lower (w : UInt16) : w &&& 0x00FF = (lowByte w).toUInt16 := by
  rw [← UInt16.toNat_inj, UInt16.toNat_and, UInt8.toNat_toUInt16, toNat_lowByte]
  exact Nat.and_two_pow_sub_one_eq_mod _ 8

theorem hasBit_eq_testBit {mask : UInt8} {i : Nat} (single : mask.toNat = 2 ^ i) (value : UInt8) :
    hasBit value mask = value.toNat.testBit i := by
  have alone (j : Nat) :
      (value &&& mask).toNat.testBit j = (value.toNat.testBit j && decide (i = j)) := by
    rw [UInt8.toNat_and, Nat.testBit_and, single, Nat.testBit_two_pow]
  cases set : value.toNat.testBit i with
  | true =>
    rw [hasBit, bne_iff_ne]
    intro none
    simpa [none, set] using alone i
  | false =>
    have none : value &&& mask = 0 := by
      apply UInt8.toNat_inj.1
      apply Nat.eq_of_testBit_eq
      intro j
      by_cases here : i = j <;> simp_all
    rw [hasBit, none]
    rfl

theorem withBit_and (value mask others : UInt8) (on : Bool) :
    withBit value mask on &&& others = withBit (value &&& others) (mask &&& others) on := by
  apply UInt8.toBitVec_inj.1
  ext i inside
  cases on <;> cases other : others.toBitVec[i] <;> simp [withBit, other]

theorem withBit_and_of_apart {mask others : UInt8} (apart : mask &&& others = 0) (value : UInt8)
    (on : Bool) : withBit value mask on &&& others = value &&& others := by
  rw [withBit_and, apart]
  cases on <;> simp [withBit]

theorem hasBit_withBit_of_apart {mask other : UInt8} (apart : mask &&& other = 0) (value : UInt8)
    (on : Bool) : hasBit (withBit value mask on) other = hasBit value other := by
  rw [hasBit, withBit_and_of_apart apart, hasBit]

theorem hasBit_withBit (value : UInt8) {mask : UInt8} (some : mask ≠ 0) (on : Bool) :
    hasBit (withBit value mask on) mask = on := by
  have alone : withBit value mask on &&& mask = if on then mask else 0 := by
    apply UInt8.toBitVec_inj.1
    ext i
    cases on <;> cases bit : mask.toBitVec[i] <;> simp_all [withBit]
  rw [hasBit, alone]
  cases on with
  | false => rfl
  | true => simpa using some

end Atari800XL
