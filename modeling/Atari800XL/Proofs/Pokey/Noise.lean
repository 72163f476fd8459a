import Mathlib.Dynamics.PeriodicPts.Defs
import Atari800XL.Pokey.Polynomials

namespace Atari800XL.Pokey

open Function

theorem iterate_eq (f : UInt32 → UInt32) (n : Nat) (r : UInt32) : iterate f n r = f^[n] r := by
  induction n generalizing r with
  | zero => rfl
  | succ n ih => exact ih (f r)

def step17Nat (x : Nat) : Nat :=
  Nat.land
    (Nat.lor (Nat.mod (Nat.shiftLeft x 1) 0x100000000)
      (Nat.land (Nat.xor (Nat.shiftRight x 16) (Nat.shiftRight x 13)) 1))
    0x1FFFF

theorem toNat_step17 (r : UInt32) : (step17 r).toNat = step17Nat r.toNat := by
  simp only [step17, shiftIn, UInt32.toNat_and, UInt32.toNat_or, UInt32.toNat_xor,
    UInt32.toNat_shiftLeft, UInt32.toNat_shiftRight]
  rfl

noncomputable def advance (f : Nat → Nat) (n : Nat) : Nat → Nat :=
  Nat.rec id (fun _ next x => Nat.rec (next 0) (fun y _ => next y.succ) (f x)) n

theorem advance_eq (f : Nat → Nat) (n x : Nat) : advance f n x = f^[n] x := by
  induction n generalizing x with
  | zero => rfl
  | succ n ih =>
    have next : advance f (n + 1) x = advance f n (f x) := by
      show @Nat.rec (fun _ => Nat) (advance f n 0) (fun y _ => advance f n y.succ) (f x) = _
      cases f x <;> rfl
    rw [next, ih, iterate_succ_apply]

theorem iterate_step17Nat : step17Nat^[257 * 510 + 1] 0x1FFFF = 0x1FFFF := by
  have rounds : advance (advance step17Nat 257) 510 (step17Nat 0x1FFFF) = 0x1FFFF := by
    decide +kernel
  have round : advance step17Nat 257 = step17Nat^[257] := funext (advance_eq step17Nat 257)
  rw [iterate_succ_apply, iterate_mul, ← round, ← advance_eq, rounds]

theorem isPeriodicPt_step17 : IsPeriodicPt step17 period17.toNat 0x1FFFF := by
  have numbers : Semiconj UInt32.toNat step17 step17Nat := toNat_step17
  apply UInt32.toNat_inj.1
  rw [numbers.iterate_right]
  exact iterate_step17Nat

namespace Polynomials

structure Cyclic (p : Polynomials) : Prop where
  four : IsPeriodicPt step4 period4.toNat p.poly4
  five : IsPeriodicPt step5 period5.toNat p.poly5
  nine : IsPeriodicPt step9 period9.toNat p.poly9
  seventeen : IsPeriodicPt step17 period17.toNat p.poly17

theorem cyclic_start : ({} : Polynomials).Cyclic where
  four := by decide +kernel
  five := by decide +kernel
  nine := by decide +kernel
  seventeen := isPeriodicPt_step17

variable {p : Polynomials}

theorem iterate_step (p : Polynomials) (n : Nat) :
    step^[n] p = ⟨step4^[n] p.poly4, step5^[n] p.poly5, step9^[n] p.poly9, step17^[n] p.poly17⟩ := by
  induction n generalizing p with
  | zero => rfl
  | succ n ih => exact ih p.step

theorem Cyclic.iterate (h : p.Cyclic) (n : Nat) : (step^[n] p).Cyclic := by
  rw [iterate_step]
  exact ⟨h.four.apply_iterate n, h.five.apply_iterate n, h.nine.apply_iterate n,
    h.seventeen.apply_iterate n⟩

theorem Cyclic.skip_eq (h : p.Cyclic) (cycles : UInt64) : p.skip cycles = step^[cycles.toNat] p := by
  rw [iterate_step]
  simp only [skip, iterate_eq, UInt64.toNat_mod, h.four.iterate_mod_apply, h.five.iterate_mod_apply,
    h.nine.iterate_mod_apply, h.seventeen.iterate_mod_apply]

def period : Nat := period4.toNat * period5.toNat * period9.toNat * period17.toNat

theorem Cyclic.isPeriodicPt (h : p.Cyclic) : IsPeriodicPt step period p := by
  have four : period4.toNat ∣ period := ⟨31 * 511 * 131071, rfl⟩
  have five : period5.toNat ∣ period := ⟨15 * 511 * 131071, rfl⟩
  have nine : period9.toNat ∣ period := ⟨15 * 31 * 131071, rfl⟩
  have seventeen : period17.toNat ∣ period := ⟨15 * 31 * 511, rfl⟩
  show step^[period] p = p
  rw [iterate_step, h.four.trans_dvd four, h.five.trans_dvd five, h.nine.trans_dvd nine,
    h.seventeen.trans_dvd seventeen]

def rewind (p : Polynomials) (n : Nat) : Polynomials := step^[(period - 1) * n] p

theorem Cyclic.rewind (h : p.Cyclic) (n : Nat) : (p.rewind n).Cyclic := h.iterate _

theorem Cyclic.iterate_back (h : p.Cyclic) (n : Nat) : step^[(period - 1) * n + n] p = p := by
  have steps : (period - 1) * n + n = period * n := (Nat.succ_mul (period - 1) n).symm
  rw [steps, h.isPeriodicPt.mul_const n]

theorem Cyclic.iterate_rewind (h : p.Cyclic) (n : Nat) : step^[n] (p.rewind n) = p := by
  rw [Polynomials.rewind, ← iterate_add_apply, Nat.add_comm, h.iterate_back]

theorem Cyclic.rewind_iterate (h : p.Cyclic) (n k : Nat) :
    (step^[k] p).rewind (n + k) = p.rewind n := by
  rw [Polynomials.rewind, ← iterate_add_apply, Nat.mul_add, Nat.add_assoc, iterate_add_apply,
    h.iterate_back]
  rfl

end Polynomials

end Atari800XL.Pokey
