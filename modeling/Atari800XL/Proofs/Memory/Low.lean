import Atari800XL.Proofs.Memory.Cell

namespace Atari800XL.Memory

variable {m m' m'' : Memory} {a : UInt16}

theorem access_cell (m : Memory) (a : UInt16) : (m.cell a).access = m.accessAt a := rfl

inductive Pokes (m : Memory) : Memory → Prop
  | refl : Pokes m m
  | poke {m' : Memory} (address : UInt16) (value : UInt8) :
      Pokes m m' → Pokes m (m'.poke address value)

theorem Pokes.trans (h : m.Pokes m') (h' : m'.Pokes m'') : m.Pokes m'' := by
  induction h' with
  | refl => exact h
  | poke address value _ ih => exact .poke address value ih

theorem accessAt_poke (m : Memory) (address : UInt16) (value : UInt8) (a : UInt16) :
    (m.poke address value).accessAt a = m.accessAt a := by
  unfold poke
  split <;> rfl

theorem Pokes.accessAt (h : m.Pokes m') (a : UInt16) : m'.accessAt a = m.accessAt a := by
  induction h with
  | refl => rfl
  | poke address value _ ih => rw [accessAt_poke, ih]

theorem Pokes.banks (h : m.Pokes m') : m'.banks = m.banks := by
  induction h with
  | refl => rfl
  | poke address value _ ih => rw [banks_poke, ih]

theorem poke_eq (m : Memory) (address : UInt16) (value : UInt8) :
    m.poke address value = { m with visible := (m.poke address value).visible } := by
  unfold poke
  split <;> rfl

theorem Pokes.eq_of_visible (h : m.Pokes m') : m' = { m with visible := m'.visible } := by
  induction h with
  | refl => rfl
  | @poke m' address value _ ih =>
    rw [poke_eq, ih]

def lowEnd : Nat := Window.selfTest.start

def LowIsRam (m : Memory) : Prop := ∀ a : UInt16, a.toNat < lowEnd → m.accessAt a = .ram

theorem not_window_of_low (h : a.toNat < lowEnd) : ∀ w ∈ Window.all, ¬w.Holds a := by
  have above : ∀ w ∈ Window.all, lowEnd ≤ w.start := by decide
  intro w hw held
  exact absurd held.1 (Nat.not_le.2 (Nat.lt_of_lt_of_le h (above w hw)))

theorem not_page_of_low (h : a.toNat < lowEnd) : ∀ page ∈ ioPages, ¬page.Holds a := by
  have above : ∀ page ∈ ioPages, lowEnd ≤ page.start := by decide
  intro page hp held
  exact absurd held.1 (Nat.not_le.2 (Nat.lt_of_lt_of_le h (above page hp)))

theorem Pokes.lowIsRam (h : m.Pokes m') (low : m.LowIsRam) : m'.LowIsRam := by
  intro a ha
  rw [h.accessAt, low a ha]

theorem cell_applyPortB_of_low (pins : UInt8) (h : a.toNat < lowEnd) :
    (m.applyPortB pins).cell a = m.cell a := by
  have out := not_window_of_low h
  simp only [Window.all, List.forall_mem_cons] at out
  rw [cell_applyPortB_of_not_page m pins (not_page_of_low h), if_neg out.1, if_neg out.2.1,
    if_neg out.2.2.1, if_neg out.2.2.2.1]

theorem LowIsRam.applyPortB (low : m.LowIsRam) (pins : UInt8) : (m.applyPortB pins).LowIsRam := by
  intro a ha
  rw [← access_cell, cell_applyPortB_of_low pins ha, access_cell, low a ha]

theorem lowIsRam_create (os : Bytes RomKind.os.size) (basic : Option (Bytes RomKind.basic.size)) :
    (create os basic).LowIsRam := by
  apply LowIsRam.applyPortB
  intro a _
  exact AccessMap.lookup_replicate .ram a

theorem lowIsRam_reset (m : Memory) : m.reset.LowIsRam := lowIsRam_create m.os m.basic

def ChipsInPages (m : Memory) : Prop :=
  ∀ a : UInt16, (∀ page ∈ ioPages, ¬page.Holds a) → m.accessAt a = .ram ∨ m.accessAt a = .rom

theorem not_page_of_vector (h : 0xFFFA ≤ a) : ∀ page ∈ ioPages, ¬page.Holds a := by
  have below : ∀ page ∈ ioPages, page.start + 0x100 ≤ (0xFFFA : UInt16).toNat := by decide
  intro page hp held
  exact absurd held.2 (Nat.not_lt.2 (Nat.le_trans (below page hp) (UInt16.le_iff_toNat_le.1 h)))

theorem Pokes.chipsInPages (h : m.Pokes m') (chips : m.ChipsInPages) : m'.ChipsInPages := by
  intro a plain
  rw [h.accessAt]
  exact chips a plain

theorem access_switch (c : Cell) (now wanted : Bool) (byte : UInt8)
    (plain : c.access = .ram ∨ c.access = .rom) :
    (c.switch now wanted byte).access = .ram ∨ (c.switch now wanted byte).access = .rom := by
  unfold Cell.switch
  split
  · exact plain
  · split
    · exact .inr rfl
    · exact .inl rfl

theorem ChipsInPages.applyPortB (chips : m.ChipsInPages) (pins : UInt8) :
    (m.applyPortB pins).ChipsInPages := by
  intro a plain
  have before : (m.cell a).access = .ram ∨ (m.cell a).access = .rom := chips a plain
  rw [← access_cell, cell_applyPortB_of_not_page m pins plain]
  split
  · exact access_switch _ _ _ _ before
  · split
    · exact access_switch _ _ _ _ before
    · split
      · exact access_switch _ _ _ _ before
      · split
        · exact access_switch _ _ _ _ before
        · exact before

theorem chipsInPages_create (os : Bytes RomKind.os.size)
    (basic : Option (Bytes RomKind.basic.size)) : (create os basic).ChipsInPages := by
  apply ChipsInPages.applyPortB
  intro a _
  exact .inl (AccessMap.lookup_replicate .ram a)

theorem chipsInPages_reset (m : Memory) : m.reset.ChipsInPages := chipsInPages_create m.os m.basic

end Atari800XL.Memory
