import Atari800XL.Proofs.Memory.Cell
import Mathlib.Logic.Function.Basic

/-! Banked memory against its description: one RAM of sixty-four kilobytes that nothing but a write
changes, under ROMs and registers that lie over it as the port's pins say. -/

namespace Atari800XL

namespace Memory

/-- What happens to the memory of a machine whose ROMs stay the same. -/
inductive Op
  | poke (address : UInt16) (value : UInt8)
  | switch (pins : UInt8)
  | reset
  deriving DecidableEq, Repr, Inhabited

def perform (m : Memory) : Op → Memory
  | .poke address value => m.poke address value
  | .switch pins => m.applyPortB pins
  | .reset => m.reset

def performAll (m : Memory) (ops : List Op) : Memory := ops.foldl perform m

end Memory

structure Overlay where
  os : Bytes RomKind.os.size
  basic : Option (Bytes RomKind.basic.size)
  pins : UInt8 := 0xFF
  ram : UInt16 → UInt8 := fun _ => 0

namespace Overlay

def view (o : Overlay) (address : UInt16) : Access × UInt8 :=
  let a := address.toNat
  let os (offset : Nat) : Access × UInt8 := (.rom, o.os.getD offset)
  let ram : Access × UInt8 := (.ram, o.ram address)
  if 0xD000 ≤ a ∧ a ≤ 0xD0FF then (.gtia, 0)
  else if 0xD200 ≤ a ∧ a ≤ 0xD2FF then (.pokey, 0)
  else if 0xD300 ≤ a ∧ a ≤ 0xD3FF then (.pia, 0)
  else if 0xD400 ≤ a ∧ a ≤ 0xD4FF then (.antic, 0)
  else if 0xD100 ≤ a ∧ a ≤ 0xD1FF ∨ 0xD500 ≤ a ∧ a ≤ 0xD7FF then (.rom, 0xFF)
  else if 0xC000 ≤ a then if hasBit o.pins 0x01 then os (a - 0xC000) else ram
  else if 0xA000 ≤ a then
    match o.basic with
    | some rom => if hasBit o.pins 0x02 then ram else (.rom, rom.getD (a - 0xA000))
    | none => ram
  else if 0x5000 ≤ a ∧ a ≤ 0x57FF then
    if hasBit o.pins 0x01 ∧ ¬hasBit o.pins 0x80 then os (a - 0x5000 + 0x1000) else ram
  else ram

def perform (o : Overlay) : Memory.Op → Overlay
  | .poke address value =>
    if (o.view address).1 = .ram then { o with ram := Function.update o.ram address value } else o
  | .switch pins => { o with pins }
  | .reset => { o with pins := 0xFF, ram := fun _ => 0 }

def performAll (o : Overlay) (ops : List Memory.Op) : Overlay := ops.foldl perform o

structure Rests (o : Overlay) (a : UInt16) (c : Cell) : Prop where
  osLow : Window.osLow.Holds a →
    c.Shows (hasBit o.pins 0x01) (Window.osLow.byte o.os a) (o.ram a)
  osHigh : Window.osHigh.Holds a →
    c.Shows (hasBit o.pins 0x01) (Window.osHigh.byte o.os a) (o.ram a)
  selfTest : Window.selfTest.Holds a →
    c.Shows (hasBit o.pins 0x01 && !hasBit o.pins 0x80) (Window.selfTest.byte o.os a) (o.ram a)
  basic : Window.basic.Holds a →
    c.Shows (!hasBit o.pins 0x02 && o.basic.isSome) (o.basic.elim 0 (Window.basic.byte · a))
      (o.ram a)
  blank : ∀ page ∈ ioPages, page.Holds a → page.chip.isSome → c.shown = 0
  plain : (∀ w ∈ Window.all, ¬w.Holds a) → (∀ page ∈ ioPages, ¬page.Holds a) →
    c.access = .ram ∧ c.shown = o.ram a

structure Lays (o : Overlay) (a : UInt16) (c : Cell) : Prop extends o.Rests a c where
  registers : ∀ page ∈ ioPages, page.Holds a → c.access = page.chip.getD .rom
  open_bus : ∀ page ∈ ioPages, page.Holds a → page.chip = none → c.shown = 0xFF

def banks (o : Overlay) : Banks :=
  { os := o.os
    basic := o.basic
    osMapped := hasBit o.pins 0x01
    basicMapped := !hasBit o.pins 0x02 && o.basic.isSome
    selfTestMapped := hasBit o.pins 0x01 && !hasBit o.pins 0x80 }

/-- The memory is the overlay, with the RAM that ROMs cover kept behind them. -/
structure Backs (o : Overlay) (m : Memory) : Prop where
  banks : m.banks = o.banks
  cell : ∀ a, o.Lays a (m.cell a)

variable {o : Overlay} {m : Memory} {a : UInt16} {c : Cell}

theorem Lays.lay {page : IoPage} (hp : page ∈ ioPages) (held : page.Holds a)
    (blank : page.chip.isSome → c.shown = 0) : o.Lays a (page.lay c) := by
  have same : ∀ other ∈ ioPages, other.Holds a → other = page := fun other ho h =>
    IoPage.eq_of_holds ho hp h held
  have out : ∀ w ∈ Window.all, ¬w.Holds a := fun w hw => IoPage.not_holds hp hw held
  exact
    { osLow := fun h => absurd h (out _ (by decide))
      osHigh := fun h => absurd h (out _ (by decide))
      selfTest := fun h => absurd h (out _ (by decide))
      basic := fun h => absurd h (out _ (by decide))
      blank := fun other ho h some => by
        have some := same other ho h ▸ some
        rw [IoPage.lay, if_pos some]
        exact blank some
      plain := fun _ none => absurd held (none page hp)
      registers := fun other ho h => by rw [same other ho h, IoPage.lay]
      open_bus := fun other ho h none => by
        rw [same other ho h] at none
        rw [IoPage.lay, none]
        rfl }

theorem Backs.switch (banks : m.banks = o.banks) (cell : ∀ a, o.Rests a (m.cell a))
    (pins : UInt8) : (o.perform (.switch pins)).Backs (m.applyPortB pins) := by
  simp only [Memory.banks, Overlay.banks, Banks.mk.injEq] at banks
  obtain ⟨os, basic, osMapped, basicMapped, selfTestMapped⟩ := banks
  refine ⟨by rw [Memory.banks_applyPortB, os, basic]; rfl, fun a => ?_⟩
  by_cases io : ∃ page ∈ ioPages, page.Holds a
  · obtain ⟨page, hp, held⟩ := io
    rw [m.cell_applyPortB_of_page pins hp held]
    exact .lay hp held ((cell a).blank page hp held)
  · have none : ∀ page ∈ ioPages, ¬page.Holds a := fun page hp h => io ⟨page, hp, h⟩
    have byte : m.basicByte a = o.basic.elim 0 (Window.basic.byte · a) := by
      rw [Memory.basicByte, basic]
    rw [m.cell_applyPortB_of_not_page pins none, osMapped, basicMapped, selfTestMapped, byte, os,
      basic]
    have apart {w v : Window} (hw : w ∈ Window.all) (hv : v ∈ Window.all) (ne : w ≠ v)
        (h : w.Holds a) : ¬v.Holds a := Window.not_holds_of_ne hw hv ne h
    exact
      { osLow := fun low => by
          rw [if_pos low]
          exact ((cell a).osLow low).switch _
        osHigh := fun high => by
          rw [if_neg (apart (by decide) (by decide) (by decide) high), if_pos high]
          exact ((cell a).osHigh high).switch _
        selfTest := fun test => by
          rw [if_neg (apart (by decide) (by decide) (by decide) test),
            if_neg (apart (by decide) (by decide) (by decide) test), if_pos test]
          exact ((cell a).selfTest test).switch _
        basic := fun basic => by
          rw [if_neg (apart (by decide) (by decide) (by decide) basic),
            if_neg (apart (by decide) (by decide) (by decide) basic),
            if_neg (apart (by decide) (by decide) (by decide) basic), if_pos basic]
          exact ((cell a).basic basic).switch _
        blank := fun page hp h => absurd h (none page hp)
        plain := fun out _ => by
          simp only [Window.all, List.forall_mem_cons] at out
          obtain ⟨low, high, test, basic, -⟩ := out
          rw [if_neg low, if_neg high, if_neg test, if_neg basic]
          exact (cell a).plain (by simp [Window.all, *]) none
        registers := fun page hp h => absurd h (none page hp)
        open_bus := fun page hp h => absurd h (none page hp) }

theorem Lays.view (h : o.Lays a c) : o.view a = (c.access, c.shown) := by
  have lt := a.toNat_lt
  by_cases io : ∃ page ∈ ioPages, page.Holds a
  · obtain ⟨page, hp, held⟩ := io
    have access := h.registers page hp held
    have chip := h.blank page hp held
    have none := h.open_bus page hp held
    simp only [ioPages, List.mem_cons, List.not_mem_nil, or_false] at hp
    rcases hp with rfl | rfl | rfl | rfl | rfl | rfl | rfl | rfl <;>
      simp only [IoPage.Holds, Option.isSome_some, Option.isSome_none, Option.getD_some,
        Option.getD_none, forall_const] at held access chip none <;>
      simp (disch := omega) only [Overlay.view, if_pos, if_neg] <;>
      simp [*]
  have none : ∀ page ∈ ioPages, ¬page.Holds a := fun page hp held => io ⟨page, hp, held⟩
  have out : a.toNat < 0xD000 ∨ 0xD800 ≤ a.toNat := by
    simp only [ioPages, List.forall_mem_cons, IoPage.Holds] at none
    omega
  by_cases high : Window.osHigh.Holds a
  · have shows := (h.osHigh high).view
    simp only [Window.Holds, Window.osHigh] at high
    have byte : Window.osHigh.byte o.os a = o.os.getD (a.toNat - 0xC000) :=
      Window.byte_eq _ (by simp only [Window.osHigh]; omega)
    rw [shows, byte]
    simp (disch := omega) only [Overlay.view, if_pos, if_neg]
  by_cases low : Window.osLow.Holds a
  · have shows := (h.osLow low).view
    simp only [Window.Holds, Window.osLow] at low
    have byte : Window.osLow.byte o.os a = o.os.getD (a.toNat - 0xC000) :=
      Window.byte_eq _ (by simp only [Window.osLow]; omega)
    rw [shows, byte]
    simp (disch := omega) only [Overlay.view, if_pos, if_neg]
  by_cases basic : Window.basic.Holds a
  · have shows := (h.basic basic).view
    simp only [Window.Holds, Window.basic] at basic
    rw [shows]
    simp (disch := omega) only [Overlay.view, if_pos, if_neg]
    cases o.basic with
    | none => simp
    | some rom =>
      have byte : Window.basic.byte rom a = rom.getD (a.toNat - 0xA000) :=
        Window.byte_eq rom (by simp only [Window.basic]; omega)
      rw [Option.elim_some, byte]
      cases hasBit o.pins 0x02 <;> simp
  by_cases test : Window.selfTest.Holds a
  · have shows := (h.selfTest test).view
    simp only [Window.Holds, Window.selfTest] at test
    have byte : Window.selfTest.byte o.os a = o.os.getD (a.toNat - 0x5000 + 0x1000) :=
      Window.byte_eq _ (by simp only [Window.selfTest])
    rw [shows, byte]
    simp (disch := omega) only [Overlay.view, if_pos, if_neg]
    cases hasBit o.pins 0x01 <;> cases hasBit o.pins 0x80 <;> simp
  · have shows := h.plain (by simp [Window.all, *]) none
    simp only [Window.Holds, Window.osHigh, Window.osLow, Window.basic, Window.selfTest] at *
    rw [shows.1, shows.2]
    simp (disch := omega) only [Overlay.view, if_neg]

theorem Backs.view (h : o.Backs m) (a : UInt16) : o.view a = (m.accessAt a, m.peek a) :=
  (h.cell a).view

theorem register_ne_ram : ∀ page ∈ ioPages, page.chip.getD .rom ≠ .ram := by decide

theorem Lays.poke (h : o.Lays a c) (ram : c.access = .ram) (value : UInt8) :
    Lays { o with ram := Function.update o.ram a value } a { c with shown := value } := by
  have same : Function.update o.ram a value a = value := Function.update_self ..
  have off {on : Bool} {byte : UInt8} (shows : c.Shows on byte (o.ram a)) :
      Cell.Shows { c with shown := value } on byte (Function.update o.ram a value a) := by
    cases on
    · exact ⟨ram, same.symm⟩
    · rw [Cell.Shows, if_pos rfl] at shows
      rw [shows] at ram
      cases ram
  have not_page : ∀ page ∈ ioPages, ¬page.Holds a := fun page hp held =>
    register_ne_ram page hp ((h.registers page hp held).symm.trans ram)
  exact
    { osLow := fun low => off (h.osLow low)
      osHigh := fun high => off (h.osHigh high)
      selfTest := fun test => off (h.selfTest test)
      basic := fun basic => off (h.basic basic)
      blank := fun page hp held => absurd held (not_page page hp)
      plain := fun _ _ => ⟨ram, same.symm⟩
      registers := fun page hp held => absurd held (not_page page hp)
      open_bus := fun page hp held => absurd held (not_page page hp) }

theorem Lays.congr_ram (h : o.Lays a c) {ram : UInt16 → UInt8} (same : ram a = o.ram a) :
    Lays { o with ram } a c :=
  { osLow := by simpa only [same] using h.osLow
    osHigh := by simpa only [same] using h.osHigh
    selfTest := by simpa only [same] using h.selfTest
    basic := by simpa only [same] using h.basic
    blank := h.blank
    plain := by simpa only [same] using h.plain
    registers := h.registers
    open_bus := h.open_bus }

theorem Backs.poke (h : o.Backs m) (address : UInt16) (value : UInt8) :
    (o.perform (.poke address value)).Backs (m.poke address value) := by
  have access : (o.view address).1 = m.accessAt address := by rw [h.view]
  by_cases ram : m.accessAt address = .ram
  · rw [perform, if_pos (access.trans ram)]
    refine ⟨(m.banks_poke ..).trans h.banks, fun a => ?_⟩
    rw [m.cell_poke]
    by_cases same : address = a
    · subst same
      rw [if_pos ⟨rfl, ram⟩]
      exact (h.cell address).poke ram value
    · rw [if_neg fun both => same both.1]
      exact (h.cell a).congr_ram (Function.update_of_ne (Ne.symm same) ..)
  · rw [perform, if_neg fun r => ram (access.symm.trans r)]
    refine ⟨(m.banks_poke ..).trans h.banks, fun a => ?_⟩
    rw [m.cell_poke, if_neg fun both => ram both.2]
    exact h.cell a

theorem backs_create (os : Bytes RomKind.os.size) (basic : Option (Bytes RomKind.basic.size)) :
    Backs { os, basic } (Memory.create os basic) := by
  let empty : Memory :=
    { visible := Ram.filled 0
      hidden := Ram.filled 0
      access := Vector.replicate _ .ram
      os, basic
      osMapped := false
      basicMapped := false
      selfTestMapped := false }
  have cell (a : UInt16) : empty.cell a = { access := .ram, shown := 0, hidden := 0 } := by
    rw [Memory.cell, Memory.accessAt, AccessMap.lookup_replicate, Memory.peek, Ram.read_filled]
  have os_off : hasBit (0x02 : UInt8) 0x01 = false := by decide
  have basic_off : hasBit (0x02 : UInt8) 0x02 = true := by decide
  -- With these pins no ROM is selected.
  have rests (a : UInt16) : Rests { os, basic, pins := 0x02 } a (empty.cell a) := by
    rw [cell]
    exact
      { osLow := fun _ => by
          rw [os_off]
          exact ⟨rfl, rfl⟩
        osHigh := fun _ => by
          rw [os_off]
          exact ⟨rfl, rfl⟩
        selfTest := fun _ => by
          rw [os_off]
          exact ⟨rfl, rfl⟩
        basic := fun _ => by
          rw [basic_off]
          exact ⟨rfl, rfl⟩
        blank := fun _ _ _ _ => rfl
        plain := fun _ _ => ⟨rfl, rfl⟩ }
  have banks : empty.banks = Overlay.banks { os, basic, pins := 0x02 } := by
    rw [Overlay.banks, os_off, basic_off]
    rfl
  exact Backs.switch banks rests 0xFF

theorem Backs.reset (h : o.Backs m) : (o.perform .reset).Backs m.reset := by
  have os : m.os = o.os := congrArg Banks.os h.banks
  have basic : m.basic = o.basic := congrArg Banks.basic h.banks
  rw [Memory.reset, os, basic]
  exact backs_create o.os o.basic

theorem Backs.perform (h : o.Backs m) (op : Memory.Op) : (o.perform op).Backs (m.perform op) := by
  cases op with
  | poke address value => exact h.poke address value
  | switch pins => exact .switch h.banks (fun a => (h.cell a).toRests) pins
  | reset => exact h.reset

theorem Backs.performAll (h : o.Backs m) (ops : List Memory.Op) :
    (o.performAll ops).Backs (m.performAll ops) := by
  induction ops generalizing o m with
  | nil => exact h
  | cons op ops ih => exact ih (h.perform op)

end Overlay

/-- However writes, bank switches and resets follow each other, every address is and shows what the
overlay says: the ROMs and registers that the latest pins select, and elsewhere the byte written to
the RAM last. -/
theorem Memory.performAll_eq_overlay (os : Bytes RomKind.os.size)
    (basic : Option (Bytes RomKind.basic.size)) (ops : List Memory.Op) (a : UInt16) :
    (((create os basic).performAll ops).accessAt a, ((create os basic).performAll ops).peek a) =
      (Overlay.performAll { os, basic } ops).view a :=
  (((Overlay.backs_create os basic).performAll ops).view a).symm

end Atari800XL
