import Mathlib.Data.Nat.Bitwise
import Atari800XL.Proofs.Pokey.Noise

namespace Atari800XL.Pokey

open Function

theorem and_xor_right (a b mask : UInt32) : (a ^^^ b) &&& mask = (a &&& mask) ^^^ (b &&& mask) := by
  apply UInt32.toNat_inj.1
  simp only [UInt32.toNat_and, UInt32.toNat_xor, Nat.and_xor_distrib_right]

theorem shiftLeft_or_low (a b : UInt32) :
    (a <<< (1 : UInt32)) ||| (b &&& (1 : UInt32)) = (a <<< (1 : UInt32)) ^^^ (b &&& (1 : UInt32)) := by
  apply UInt32.toBitVec_inj.1
  ext i inside
  by_cases lowest : i = 0 <;> simp [lowest]

theorem shiftIn_xor (size tap a b : UInt32) :
    shiftIn size tap (a ^^^ b) = shiftIn size tap a ^^^ shiftIn size tap b := by
  simp only [shiftIn, shiftLeft_or_low]
  simp only [UInt32.shiftLeft_xor, UInt32.shiftRight_xor, and_xor_right]
  ac_rfl

theorem toNat_shiftIn_le (size tap r : UInt32) :
    (shiftIn size tap r).toNat ≤ (((1 : UInt32) <<< size) - 1).toNat := by
  rw [shiftIn, UInt32.toNat_and]
  exact Nat.and_le_right

theorem isPeriodicPt_xor {f : UInt32 → UInt32} {n : Nat} {a b : UInt32}
    (linear : Semiconj₂ f (· ^^^ ·) (· ^^^ ·)) (ha : IsPeriodicPt f n a) (hb : IsPeriodicPt f n b) :
    IsPeriodicPt f n (a ^^^ b) :=
  (linear.iterate n a b).trans (congrArg₂ (· ^^^ ·) ha hb)

def unit (k : Nat) : UInt32 := UInt32.ofNat (2 ^ k)

theorem toNat_unit {k : Nat} (inside : k < 32) : (unit k).toNat = 2 ^ k :=
  UInt32.toNat_ofNat_of_lt' (Nat.pow_lt_pow_right (by decide) inside)

theorem xor_two_pow_lt {x k : Nat} (bit : 2 ^ k ≤ x) (inside : x < 2 ^ (k + 1)) :
    x ^^^ 2 ^ k < 2 ^ k := by
  apply Nat.lt_pow_two_of_testBit
  intro i behind
  rw [Nat.testBit_xor]
  rcases Nat.eq_or_lt_of_le behind with rfl | above
  · rw [Nat.testBit_of_two_pow_le_and_two_pow_add_one_gt bit inside, Nat.testBit_two_pow_self]
    rfl
  · have high : x < 2 ^ i := Nat.lt_of_lt_of_le inside (Nat.pow_le_pow_right (by decide) above)
    rw [Nat.testBit_lt_two_pow high, Nat.testBit_two_pow_of_ne (Nat.ne_of_lt above)]
    rfl

/-- All bits of a register can be had from the state `full`: the lowest one is what a step changes
there, and each other one is a step behind the one below it, but for the lowest. -/
structure Register (f : UInt32 → UInt32) (size : Nat) (full : UInt32) : Prop where
  linear : Semiconj₂ f (· ^^^ ·) (· ^^^ ·)
  lowest : f full ^^^ full = unit 0
  climbs : ∀ k < size - 1, f (unit k) = unit (k + 1) ∨ f (unit k) = unit (k + 1) ^^^ unit 0
  fits : size ≤ 32

namespace Register

variable {f : UInt32 → UInt32} {size n : Nat} {full : UInt32} (register : Register f size full)
  (start : IsPeriodicPt f n full)
include register start

theorem isPeriodicPt_unit {k : Nat} (inside : k < size) : IsPeriodicPt f n (unit k) := by
  have step {a : UInt32} (h : IsPeriodicPt f n a) : IsPeriodicPt f n (f a) := h.apply_iterate 1
  have lowest : IsPeriodicPt f n (unit 0) :=
    register.lowest ▸ isPeriodicPt_xor register.linear (step start) start
  induction k with
  | zero => exact lowest
  | succ k ih =>
    have below := step (ih (Nat.lt_of_succ_lt inside))
    rcases register.climbs k (by omega) with next | next
    · exact next ▸ below
    · have both := isPeriodicPt_xor register.linear below lowest
      rwa [next, UInt32.xor_assoc, UInt32.xor_self, UInt32.xor_zero] at both

theorem isPeriodicPt {a : UInt32} (inside : a.toNat < 2 ^ size) : IsPeriodicPt f n a := by
  have fits := register.fits
  suffices below : ∀ k ≤ size, ∀ a : UInt32, a.toNat < 2 ^ k → IsPeriodicPt f n a from
    below size le_rfl a inside
  intro k
  induction k with
  | zero =>
    intro _ a none
    have zero : a = full ^^^ full := by
      rw [UInt32.xor_self]
      exact UInt32.toNat_inj.1 (Nat.lt_one_iff.1 none)
    exact zero ▸ isPeriodicPt_xor register.linear start start
  | succ k ih =>
    intro le a inside
    by_cases low : a.toNat < 2 ^ k
    · exact ih (Nat.le_of_succ_le le) a low
    · have bit := register.isPeriodicPt_unit start (Nat.lt_of_succ_le le)
      have rest : (a ^^^ unit k).toNat < 2 ^ k := by
        rw [UInt32.toNat_xor, toNat_unit (by omega)]
        exact xor_two_pow_lt (Nat.not_lt.1 low) inside
      have both := isPeriodicPt_xor register.linear (ih (Nat.le_of_succ_le le) _ rest) bit
      rwa [UInt32.xor_assoc, UInt32.xor_self, UInt32.xor_zero] at both

end Register

theorem register4 : Register step4 4 0x0F where
  linear := shiftIn_xor 4 2
  lowest := by decide
  climbs := by decide
  fits := by decide

theorem register5 : Register step5 5 0x1F where
  linear := shiftIn_xor 5 2
  lowest := by decide
  climbs := by decide
  fits := by decide

theorem register9 : Register step9 9 0x1FF where
  linear := shiftIn_xor 9 4
  lowest := by decide
  climbs := by decide
  fits := by decide

theorem register17 : Register step17 17 0x1FFFF where
  linear := shiftIn_xor 17 13
  lowest := by decide
  climbs := by decide
  fits := by decide

theorem iterate_ne_zero {f : UInt32 → UInt32} (zero : f 0 = 0) {m : Nat} {a : UInt32}
    (cycle : IsPeriodicPt f (m + 1) a) (nonzero : a ≠ 0) (n : Nat) : f^[n] a ≠ 0 := by
  intro clear
  have back : f^[m * n + n] a = a := by
    rw [← Nat.succ_mul]
    exact cycle.mul_const n
  rw [iterate_add_apply, clear, iterate_fixed zero] at back
  exact nonzero back.symm

namespace Polynomials

structure InRange (p : Polynomials) : Prop where
  four : p.poly4.toNat < 2 ^ 4
  five : p.poly5.toNat < 2 ^ 5
  nine : p.poly9.toNat < 2 ^ 9
  seventeen : p.poly17.toNat < 2 ^ 17

variable {p : Polynomials}

theorem inRange_step (p : Polynomials) : p.step.InRange where
  four := Nat.lt_of_le_of_lt (toNat_shiftIn_le 4 2 p.poly4) (by decide)
  five := Nat.lt_of_le_of_lt (toNat_shiftIn_le 5 2 p.poly5) (by decide)
  nine := Nat.lt_of_le_of_lt (toNat_shiftIn_le 9 4 p.poly9) (by decide)
  seventeen := Nat.lt_of_le_of_lt (toNat_shiftIn_le 17 13 p.poly17) (by decide)

theorem InRange.iterate (h : p.InRange) (n : Nat) : (step^[n] p).InRange := by
  cases n with
  | zero => exact h
  | succ n =>
    rw [iterate_succ_apply']
    exact inRange_step _

theorem inRange_start : ({} : Polynomials).InRange :=
  ⟨by decide, by decide, by decide, by decide⟩

theorem InRange.cyclic (h : p.InRange) : p.Cyclic where
  four := register4.isPeriodicPt cyclic_start.four h.four
  five := register5.isPeriodicPt cyclic_start.five h.five
  nine := register9.isPeriodicPt cyclic_start.nine h.nine
  seventeen := register17.isPeriodicPt cyclic_start.seventeen h.seventeen

theorem Cyclic.skip_skip (h : p.Cyclic) {a b : UInt64} (fits : a.toNat + b.toNat < 2 ^ 64) :
    (p.skip a).skip b = p.skip (a + b) := by
  have skipped : (p.skip a).Cyclic := by
    rw [h.skip_eq]
    exact h.iterate _
  have sum : (a + b).toNat = b.toNat + a.toNat := by
    rw [UInt64.toNat_add, Nat.mod_eq_of_lt fits, Nat.add_comm]
  rw [skipped.skip_eq, h.skip_eq, h.skip_eq, ← iterate_add_apply, sum]

/-- To skip steps is to take them, for whatever the registers hold: each is back after its period,
skips add up, and from the start none of them is ever clear. -/
theorem InRange.skip_eq_steps (h : p.InRange) :
    (∀ n : UInt64, p.skip n = step^[n.toNat] p) ∧
      ((step^[15] p).poly4 = p.poly4 ∧ (step^[31] p).poly5 = p.poly5 ∧
        (step^[511] p).poly9 = p.poly9 ∧ (step^[131071] p).poly17 = p.poly17) ∧
      (∀ a b : UInt64, a.toNat + b.toNat < 2 ^ 64 → (p.skip a).skip b = p.skip (a + b)) ∧
      ∀ n, (step^[n] {}).poly4 ≠ 0 ∧ (step^[n] {}).poly5 ≠ 0 ∧ (step^[n] {}).poly9 ≠ 0 ∧
        (step^[n] {}).poly17 ≠ 0 := by
  have cyclic := h.cyclic
  refine ⟨cyclic.skip_eq, ?_, fun a b fits => cyclic.skip_skip fits, fun n => ?_⟩
  · simp only [iterate_step]
    exact ⟨cyclic.four, cyclic.five, cyclic.nine, cyclic.seventeen⟩
  · rw [iterate_step]
    exact ⟨iterate_ne_zero (by decide) cyclic_start.four (by decide) n,
      iterate_ne_zero (by decide) cyclic_start.five (by decide) n,
      iterate_ne_zero (by decide) cyclic_start.nine (by decide) n,
      iterate_ne_zero (by decide) cyclic_start.seventeen (by decide) n⟩

def sampleCounters : Polynomials := { poly4 := 0x6, poly5 := 0, poly9 := 0x155, poly17 := 0x0F00D }

theorem skip_eq_steps_sample :
    sampleCounters.InRange ∧
      sampleCounters.skip 0xFFFFFFFFFFFFFFFF = step^[0xFFFFFFFFFFFFFFFF] sampleCounters ∧
      (step^[131071] sampleCounters).poly17 = 0x0F00D ∧
      (sampleCounters.skip 131000).skip 72 = sampleCounters.skip 131072 ∧
      (step^[131000] {}).poly17 ≠ 0 := by
  have inRange : sampleCounters.InRange := ⟨by decide, by decide, by decide, by decide⟩
  obtain ⟨steps, ⟨-, -, -, long⟩, sum, nonzero⟩ := inRange.skip_eq_steps
  exact ⟨inRange, steps _, long, sum 131000 72 (by decide), (nonzero 131000).2.2.2⟩

end Polynomials

end Atari800XL.Pokey
