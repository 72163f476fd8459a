import Atari800XL.Proofs.Memory.Low
import Atari800XL.Proofs.Word

namespace Atari800XL.Memory

variable {m : Memory} {a b start : UInt16} {value : UInt8} {bytes : List UInt8}

theorem peek_poke (ram : m.accessAt a = .ram) (value : UInt8) (b : UInt16) :
    (m.poke a value).peek b = if a = b then value else m.peek b := by
  have shown := congrArg Cell.shown (m.cell_poke a b value)
  by_cases same : a = b
  · rw [if_pos ⟨same, ram⟩] at shown
    rw [if_pos same]
    exact shown
  · rw [if_neg (fun both => same both.1)] at shown
    rw [if_neg same]
    exact shown

theorem peek_poke_self (ram : m.accessAt a = .ram) (value : UInt8) :
    (m.poke a value).peek a = value := by
  rw [peek_poke ram, if_pos rfl]

theorem peek_poke_of_ne (ne : a ≠ b) (value : UInt8) : (m.poke a value).peek b = m.peek b := by
  have shown := congrArg Cell.shown (m.cell_poke a b value)
  rw [if_neg (fun both => ne both.1)] at shown
  exact shown

def pokeAll (m : Memory) (start : UInt16) : List UInt8 → Memory
  | [] => m
  | byte :: bytes => (m.poke start byte).pokeAll (start + 1) bytes

theorem pokes_pokeAll (m : Memory) (start : UInt16) (bytes : List UInt8) :
    m.Pokes (m.pokeAll start bytes) := by
  induction bytes generalizing m start with
  | nil => exact .refl
  | cons byte bytes ih => exact .trans (.poke _ _ .refl) (ih _ _)

theorem add_one_add_ofNat (start : UInt16) (k : Nat) :
    start + 1 + UInt16.ofNat k = start + UInt16.ofNat (k + 1) := by
  rw [UInt16.ofNat_add, UInt16.add_assoc, UInt16.add_comm 1]
  rfl

theorem toNat_sub_succ (ne : b ≠ start) :
    (b - start).toNat = (b - (start + 1)).toNat + 1 := by
  have differ : b.toNat ≠ start.toNat := fun same => ne (UInt16.toNat_inj.1 same)
  have := b.toNat_lt
  have := start.toNat_lt
  simp only [UInt16.toNat_sub, UInt16.toNat_add, UInt16.toNat_one]
  omega

theorem peek_pokeAll (ram : ∀ k < bytes.length, m.accessAt (start + UInt16.ofNat k) = .ram)
    (fits : bytes.length ≤ 65536) (b : UInt16) :
    (m.pokeAll start bytes).peek b = bytes.getD (b - start).toNat (m.peek b) := by
  induction bytes generalizing m start with
  | nil => rfl
  | cons byte bytes ih =>
    rw [List.length_cons] at fits ram
    have first : m.accessAt start = .ram := by simpa using ram 0 (Nat.succ_pos _)
    have rest : ∀ k < bytes.length,
        (m.poke start byte).accessAt (start + 1 + UInt16.ofNat k) = .ram := by
      intro k lt
      rw [accessAt_poke, add_one_add_ofNat]
      exact ram _ (Nat.succ_lt_succ lt)
    rw [pokeAll, ih rest (by omega)]
    by_cases same : b = start
    · -- Counted from the second address, the first one comes last of all.
      subst same
      have far : bytes.length ≤ (b - (b + 1)).toNat := by
        have := b.toNat_lt
        simp only [UInt16.toNat_sub, UInt16.toNat_add, UInt16.toNat_one]
        omega
      rw [List.getD_eq_getElem?_getD, List.getElem?_eq_none far, Option.getD_none,
        peek_poke_self first, UInt16.sub_self]
      rfl
    · rw [toNat_sub_succ same, List.getD_cons_succ, peek_poke_of_ne (Ne.symm same)]

theorem peek_pokeAll_of_apart (apart : ∀ k < bytes.length, b ≠ start + UInt16.ofNat k) :
    (m.pokeAll start bytes).peek b = m.peek b := by
  induction bytes generalizing m start with
  | nil => rfl
  | cons byte bytes ih =>
    have first : start ≠ b := by simpa using (apart 0 (Nat.succ_pos _)).symm
    have rest : ∀ k < bytes.length, b ≠ start + 1 + UInt16.ofNat k := by
      intro k lt
      rw [add_one_add_ofNat]
      exact apart _ (Nat.succ_lt_succ lt)
    rw [pokeAll, ih rest, peek_poke_of_ne first]

theorem peek_pokeAll_of_lt (ram : ∀ k < bytes.length, m.accessAt (start + UInt16.ofNat k) = .ram)
    (fits : bytes.length ≤ 65536) {k : Nat} (lt : k < bytes.length) :
    (m.pokeAll start bytes).peek (start + UInt16.ofNat k) = bytes[k] := by
  have place : (start + UInt16.ofNat k - start).toNat = k := by
    rw [UInt16.add_comm, UInt16.add_sub_cancel, UInt16.toNat_ofNat']
    exact Nat.mod_eq_of_lt (by omega)
  rw [peek_pokeAll ram fits, place, List.getD_eq_getElem?_getD, List.getElem?_eq_getElem lt,
    Option.getD_some]

def peekAll (m : Memory) (start : UInt16) : Nat → List UInt8
  | 0 => []
  | n + 1 => m.peek start :: m.peekAll (start + 1) n

@[simp] theorem length_peekAll (m : Memory) (start : UInt16) (n : Nat) :
    (m.peekAll start n).length = n := by
  induction n generalizing start with
  | zero => rfl
  | succ n ih => rw [peekAll, List.length_cons, ih]

theorem getElem_peekAll {n k : Nat} (lt : k < (m.peekAll start n).length) :
    (m.peekAll start n)[k] = m.peek (start + UInt16.ofNat k) := by
  induction n generalizing start k with
  | zero => cases lt
  | succ n ih =>
    cases k with
    | zero => exact congrArg m.peek (UInt16.add_zero start).symm
    | succ k =>
      refine (ih (Nat.lt_of_succ_lt_succ lt)).trans (congrArg m.peek ?_)
      rw [add_one_add_ofNat]

theorem peekAll_eq_of_peek (h : ∀ k (lt : k < bytes.length),
    m.peek (start + UInt16.ofNat k) = bytes[k]) : m.peekAll start bytes.length = bytes := by
  apply List.ext_getElem (length_peekAll m start _)
  intro k _ lt
  rw [getElem_peekAll, h k lt]

theorem peekAll_pokeAll (ram : ∀ k < bytes.length, m.accessAt (start + UInt16.ofNat k) = .ram)
    (fits : bytes.length ≤ 65536) :
    (m.pokeAll start bytes).peekAll start bytes.length = bytes :=
  peekAll_eq_of_peek fun _ lt => peek_pokeAll_of_lt ram fits lt

theorem LowIsRam.pokeAll (low : m.LowIsRam) (start : UInt16) (bytes : List UInt8) :
    (m.pokeAll start bytes).LowIsRam :=
  (pokes_pokeAll m start bytes).lowIsRam low

theorem LowIsRam.accessAt_add (low : m.LowIsRam) {k : Nat} (lt : start.toNat + k < lowEnd) :
    m.accessAt (start + UInt16.ofNat k) = .ram := by
  have small : lowEnd ≤ 65536 := by decide
  refine low _ ?_
  rw [UInt16.toNat_add, UInt16.toNat_ofNat']
  omega

theorem LowIsRam.peek_pokeAll (low : m.LowIsRam) (below : start.toNat + bytes.length ≤ lowEnd)
    (b : UInt16) : (m.pokeAll start bytes).peek b = bytes.getD (b - start).toNat (m.peek b) := by
  have small : lowEnd ≤ 65536 := by decide
  exact Memory.peek_pokeAll (fun k lt => low.accessAt_add (by omega)) (by omega) b

theorem LowIsRam.peekAll_pokeAll (low : m.LowIsRam)
    (below : start.toNat + bytes.length ≤ lowEnd) :
    (m.pokeAll start bytes).peekAll start bytes.length = bytes := by
  have small : lowEnd ≤ 65536 := by decide
  exact Memory.peekAll_pokeAll (fun k lt => low.accessAt_add (by omega)) (by omega)

theorem peek_create_of_low (os : Bytes RomKind.os.size)
    (basic : Option (Bytes RomKind.basic.size)) (low : a.toNat < lowEnd) :
    (create os basic).peek a = 0 :=
  (congrArg Cell.shown (cell_applyPortB_of_low _ low)).trans (Ram.read_filled 0 a)

end Atari800XL.Memory
