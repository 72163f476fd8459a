import Atari800XL.Memory.Basic

namespace Atari800XL

theorem Ram.read_filled (value : UInt8) (a : UInt16) : (Ram.filled value).read a = value :=
  Array.getElem_replicate (by simpa using a.toNat_lt)

theorem AccessMap.lookup_replicate (access : Access) (a : UInt16) :
    AccessMap.lookup (Vector.replicate _ access) a = access := by
  simp [AccessMap.lookup]

structure Cell where
  access : Access
  shown : UInt8
  hidden : UInt8
  deriving DecidableEq, Repr, Inhabited

namespace Cell

def switch (c : Cell) (now wanted : Bool) (byte : UInt8) : Cell :=
  if wanted == now then c
  else if wanted then { access := .rom, shown := byte, hidden := c.shown }
  else { access := .ram, shown := c.hidden, hidden := c.hidden }

def Shows (c : Cell) (on : Bool) (byte value : UInt8) : Prop :=
  if on then c = { access := .rom, shown := byte, hidden := value }
  else c.access = .ram ∧ c.shown = value

theorem Shows.view {c : Cell} {on : Bool} {byte value : UInt8} (h : c.Shows on byte value) :
    (c.access, c.shown) = if on then (.rom, byte) else (.ram, value) := by
  cases on
  · exact Prod.ext h.1 h.2
  · rw [Shows, if_pos rfl] at h
    rw [h, if_pos rfl]

theorem Shows.switch {c : Cell} {now : Bool} {byte value : UInt8} (h : c.Shows now byte value)
    (wanted : Bool) : (c.switch now wanted byte).Shows wanted byte value := by
  cases now <;> cases wanted
  · exact h
  · rw [Shows, if_pos rfl]
    exact congrArg (Cell.mk .rom byte) h.2
  · rw [Shows, if_pos rfl] at h
    subst h
    exact ⟨rfl, rfl⟩
  · exact h

end Cell

structure Banks where
  os : Bytes RomKind.os.size
  basic : Option (Bytes RomKind.basic.size)
  osMapped : Bool
  basicMapped : Bool
  selfTestMapped : Bool

def Window.Holds (w : Window) (a : UInt16) : Prop :=
  w.start ≤ a.toNat ∧ a.toNat < w.start + w.length

instance (w : Window) (a : UInt16) : Decidable (w.Holds a) := inferInstanceAs (Decidable (_ ∧ _))

def Window.all : List Window := [.osLow, .osHigh, .selfTest, .basic]

theorem Window.eq_of_holds {w v : Window} (hw : w ∈ Window.all) (hv : v ∈ Window.all) {a : UInt16}
    (hwa : w.Holds a) (hva : v.Holds a) : w = v := by
  have apart : ∀ w ∈ Window.all, ∀ v ∈ Window.all,
      w = v ∨ w.start + w.length ≤ v.start ∨ v.start + v.length ≤ w.start := by decide
  rw [Holds] at hwa hva
  rcases apart w hw v hv with same | before | behind
  · exact same
  · omega
  · omega

theorem Window.not_holds_of_ne {w v : Window} (hw : w ∈ Window.all) (hv : v ∈ Window.all)
    (ne : w ≠ v) {a : UInt16} (h : w.Holds a) : ¬v.Holds a :=
  fun other => ne (eq_of_holds hw hv h other)

def Window.byte {n : Nat} (w : Window) (rom : Bytes n) (a : UInt16) : UInt8 :=
  rom.getD (a.toNat - w.start + w.offset)

theorem Window.byte_eq {n : Nat} {w : Window} (rom : Bytes n) {a : UInt16} {i : Nat}
    (h : a.toNat - w.start + w.offset = i) : w.byte rom a = rom.getD i := by
  rw [byte, h]

def IoPage.Holds (page : IoPage) (a : UInt16) : Prop :=
  page.start ≤ a.toNat ∧ a.toNat < page.start + 0x100

instance (page : IoPage) (a : UInt16) : Decidable (page.Holds a) :=
  inferInstanceAs (Decidable (_ ∧ _))

def IoPage.lay (page : IoPage) (c : Cell) : Cell :=
  { c with
    access := page.chip.getD .rom
    shown := if page.chip.isSome then c.shown else 0xFF }

namespace IoPage

theorem lay_lay (page : IoPage) (c : Cell) : page.lay (page.lay c) = page.lay c := by
  cases h : page.chip <;> simp [lay, h]

theorem holds_iff {page : IoPage} (h : page ∈ ioPages) {a : UInt16} :
    page.Holds a ↔ a.toNat / 0x100 = page.start / 0x100 := by
  have aligned : page.start % 0x100 = 0 := by
    revert page
    decide
  rw [Holds]
  omega

theorem eq_of_holds {p q : IoPage} (hp : p ∈ ioPages) (hq : q ∈ ioPages) {a : UInt16}
    (hpa : p.Holds a) (hqa : q.Holds a) : p = q := by
  have apart : ∀ p ∈ ioPages, ∀ q ∈ ioPages, p.start / 0x100 = q.start / 0x100 → p = q := by decide
  rw [holds_iff hp] at hpa
  rw [holds_iff hq] at hqa
  exact apart p hp q hq (hpa.symm.trans hqa)

theorem not_holds {page : IoPage} (hp : page ∈ ioPages) {w : Window} (hw : w ∈ Window.all)
    {a : UInt16} (h : page.Holds a) : ¬w.Holds a := by
  have apart : ∀ page ∈ ioPages, ∀ w ∈ Window.all,
      page.start + 0x100 ≤ w.start ∨ w.start + w.length ≤ page.start := by decide
  have := apart page hp w hw
  rw [Holds] at h
  rw [Window.Holds]
  omega

end IoPage

namespace Memory

variable (m : Memory)

def cell (a : UInt16) : Cell :=
  { access := m.accessAt a, shown := m.peek a, hidden := Ram.read m.hidden a }

def banks : Banks :=
  { os := m.os
    basic := m.basic
    osMapped := m.osMapped
    basicMapped := m.basicMapped
    selfTestMapped := m.selfTestMapped }

theorem cell_cover {n : Nat} (w : Window) (rom : Bytes n) (a : UInt16) :
    (m.cover w rom).cell a =
      if w.Holds a then (m.cell a).switch false true (w.byte rom a) else m.cell a := by
  have lt := a.toNat_lt
  by_cases h : w.Holds a <;> rw [Window.Holds] at h <;>
    simp [cell, cover, accessAt, AccessMap.lookup, AccessMap.getElem_fill, peek, Ram.read,
      Bytes.get_update, Bytes.getD, Window.Holds, Window.byte, Cell.switch, h, lt]

theorem cell_uncover (w : Window) (byte : UInt8) (a : UInt16) :
    (m.uncover w).cell a =
      if w.Holds a then (m.cell a).switch true false byte else m.cell a := by
  have lt := a.toNat_lt
  by_cases h : w.Holds a <;> rw [Window.Holds] at h <;>
    simp [cell, uncover, accessAt, AccessMap.lookup, AccessMap.getElem_fill, peek, Ram.read,
      Bytes.get_update, Bytes.getD, Window.Holds, Cell.switch, h, lt]

theorem cell_poke (a b : UInt16) (value : UInt8) :
    (m.poke a value).cell b =
      if a = b ∧ m.accessAt a = .ram then { m.cell b with shown := value } else m.cell b := by
  unfold poke
  split
  next h =>
    by_cases hab : a = b
    · subst hab
      rw [if_pos ⟨rfl, h⟩]
      simp [cell, accessAt, peek]
    · simp [cell, accessAt, peek, hab]
  next h => rw [if_neg (fun both => h both.2)]

theorem cell_installPage (page : IoPage) (a : UInt16) :
    (m.installPage page).cell a = if page.Holds a then page.lay (m.cell a) else m.cell a := by
  unfold installPage
  cases hc : page.chip <;> by_cases h : page.Holds a <;> rw [IoPage.Holds] at h <;>
    simp [cell, accessAt, AccessMap.lookup, AccessMap.getElem_fill, peek, Ram.read,
      Bytes.get_update, IoPage.Holds, IoPage.lay, h, hc]

theorem cell_foldl_installPage_of_not_holds {pages : List IoPage} {a : UInt16}
    (h : ∀ page ∈ pages, ¬page.Holds a) : (pages.foldl installPage m).cell a = m.cell a := by
  induction pages generalizing m with
  | nil => rfl
  | cons first rest ih =>
    rw [List.foldl_cons, ih _ fun page hp => h page (.tail _ hp), cell_installPage,
      if_neg (h first (.head _))]

theorem cell_foldl_installPage {pages : List IoPage} {page : IoPage} {a : UInt16}
    (mem : page ∈ pages) (holds : page.Holds a)
    (only : ∀ other ∈ pages, other.Holds a → other = page) :
    (pages.foldl installPage m).cell a = page.lay (m.cell a) := by
  induction pages generalizing m with
  | nil => simp at mem
  | cons first rest ih =>
    rw [List.foldl_cons]
    by_cases later : page ∈ rest
    -- Laying a page twice is laying it once.
    · rw [ih _ later fun other h => only other (.tail _ h), cell_installPage]
      split
      next h => rw [only first (.head _) h, page.lay_lay]
      next => rfl
    · have same : page = first := (List.mem_cons.1 mem).resolve_right later
      have out : ∀ other ∈ rest, ¬other.Holds a := fun other h held =>
        later (only other (.tail _ h) held ▸ h)
      rw [cell_foldl_installPage_of_not_holds _ out, cell_installPage, same, if_pos (same ▸ holds)]

theorem cell_installIo_of_holds {page : IoPage} (hp : page ∈ ioPages) {a : UInt16}
    (h : page.Holds a) : m.installIo.cell a = page.lay (m.cell a) :=
  m.cell_foldl_installPage hp h fun _ ho held => IoPage.eq_of_holds ho hp held h

theorem cell_installIo_of_not_holds {a : UInt16} (h : ∀ page ∈ ioPages, ¬page.Holds a) :
    m.installIo.cell a = m.cell a :=
  m.cell_foldl_installPage_of_not_holds h

theorem cell_switchOs (on : Bool) (a : UInt16) :
    (m.switchOs on).cell a =
      if Window.osLow.Holds a then (m.cell a).switch m.osMapped on (Window.osLow.byte m.os a)
      else if Window.osHigh.Holds a then
        (m.cell a).switch m.osMapped on (Window.osHigh.byte m.os a)
      else m.cell a := by
  have apart : Window.osLow.Holds a → ¬Window.osHigh.Holds a := 
    Window.not_holds_of_ne (by decide) (by decide) (by decide)
  cases on <;> cases h : m.osMapped
  · simp [switchOs, h, Cell.switch]
  · have out : m.switchOs false =
        ({ m with osMapped := false }.uncover .osLow).uncover .osHigh := by
      simp [switchOs, h]
    rw [out, cell_uncover _ _ (Window.osHigh.byte m.os a),
      cell_uncover _ _ (Window.osLow.byte m.os a)]
    by_cases low : Window.osLow.Holds a
    · rw [if_neg (apart low), if_pos low, if_pos low]
      rfl
    · rw [if_neg low, if_neg low]
      rfl
  · have covered : m.switchOs true =
        ({ m with osMapped := true }.cover .osLow m.os).cover .osHigh m.os := by
      simp [switchOs, h]
    rw [covered, cell_cover, cell_cover]
    by_cases low : Window.osLow.Holds a
    · rw [if_neg (apart low), if_pos low, if_pos low]
      rfl
    · rw [if_neg low, if_neg low]
      rfl
  · simp [switchOs, h, Cell.switch]

theorem cell_switchSelfTest (on : Bool) (a : UInt16) :
    (m.switchSelfTest on).cell a =
      if Window.selfTest.Holds a then
        (m.cell a).switch m.selfTestMapped on (Window.selfTest.byte m.os a)
      else m.cell a := by
  unfold switchSelfTest
  cases on <;> cases h : m.selfTestMapped
  · simp [Cell.switch]
  · exact cell_uncover { m with selfTestMapped := false } _ _ a
  · exact cell_cover { m with selfTestMapped := true } _ _ a
  · simp [Cell.switch]

def basicByte (a : UInt16) : UInt8 := m.basic.elim 0 (Window.basic.byte · a)

theorem cell_switchBasic (on : Bool) (a : UInt16) (h : on = true → m.basic.isSome) :
    (m.switchBasic on).cell a =
      if Window.basic.Holds a then (m.cell a).switch m.basicMapped on (m.basicByte a)
      else m.cell a := by
  cases on <;> cases hm : m.basicMapped
  · simp [switchBasic, hm, Cell.switch]
  · have out : m.switchBasic false = { m with basicMapped := false }.uncover .basic := by
      cases hb : m.basic <;> simp [switchBasic, hm, hb]
    rw [out, cell_uncover _ _ (m.basicByte a)]
    rfl
  · obtain ⟨rom, hb⟩ := Option.isSome_iff_exists.1 (h rfl)
    have covered : m.switchBasic true = { m with basicMapped := true }.cover .basic rom := by
      simp [switchBasic, hm, hb]
    have byte : m.basicByte a = Window.basic.byte rom a := by
      rw [basicByte, hb, Option.elim_some]
    rw [covered, cell_cover, byte]
    rfl
  · simp [switchBasic, hm, Cell.switch]

theorem banks_poke (a : UInt16) (value : UInt8) : (m.poke a value).banks = m.banks := by
  unfold poke
  split <;> rfl

theorem banks_switchOs (on : Bool) : (m.switchOs on).banks = { m.banks with osMapped := on } := by
  cases on <;> cases h : m.osMapped <;> simp [switchOs, banks, cover, uncover, h]

theorem banks_switchSelfTest (on : Bool) :
    (m.switchSelfTest on).banks = { m.banks with selfTestMapped := on } := by
  cases on <;> cases h : m.selfTestMapped <;> simp [switchSelfTest, banks, cover, uncover, h]

theorem banks_switchBasic (on : Bool) :
    (m.switchBasic on).banks = { m.banks with basicMapped := on } := by
  cases on <;> cases h : m.basicMapped <;> cases hb : m.basic <;>
    simp [switchBasic, banks, cover, uncover, h, hb]

theorem banks_installPage (page : IoPage) : (m.installPage page).banks = m.banks := by
  unfold installPage
  split <;> rfl

theorem banks_installIo : m.installIo.banks = m.banks := by
  have all (pages : List IoPage) : (pages.foldl installPage m).banks = m.banks := by
    induction pages generalizing m with
    | nil => rfl
    | cons page rest ih => rw [List.foldl_cons, ih, banks_installPage]
  exact all ioPages

theorem banks_applyPortB (pins : UInt8) :
    (m.applyPortB pins).banks =
      { os := m.os
        basic := m.basic
        osMapped := hasBit pins 0x01
        basicMapped := !hasBit pins 0x02 && m.basic.isSome
        selfTestMapped := hasBit pins 0x01 && !hasBit pins 0x80 } := by
  unfold applyPortB
  rw [banks_installIo, banks_switchBasic, banks_switchSelfTest, banks_switchOs]
  rfl

theorem cell_switchBanks (os selfTest basic : Bool) (h : basic = true → m.basic.isSome)
    (a : UInt16) :
    (((m.switchOs os).switchSelfTest selfTest).switchBasic basic).cell a =
      if Window.osLow.Holds a then (m.cell a).switch m.osMapped os (Window.osLow.byte m.os a)
      else if Window.osHigh.Holds a then
        (m.cell a).switch m.osMapped os (Window.osHigh.byte m.os a)
      else if Window.selfTest.Holds a then
        (m.cell a).switch m.selfTestMapped selfTest (Window.selfTest.byte m.os a)
      else if Window.basic.Holds a then (m.cell a).switch m.basicMapped basic (m.basicByte a)
      else m.cell a := by
  have first := m.banks_switchOs os
  have both := (m.switchOs os).banks_switchSelfTest selfTest
  rw [first] at both
  simp only [banks, Banks.mk.injEq] at first both
  obtain ⟨os₁, -, -, -, selfTest₁⟩ := first
  obtain ⟨-, basic₂, -, basicMapped₂, -⟩ := both
  have byte : ((m.switchOs os).switchSelfTest selfTest).basicByte a = m.basicByte a := by
    rw [basicByte, basic₂, basicByte]
  rw [cell_switchBasic _ _ _ (basic₂ ▸ h), cell_switchSelfTest, cell_switchOs, os₁, selfTest₁,
    basicMapped₂, byte]
  by_cases low : Window.osLow.Holds a
  · have := Window.not_holds_of_ne (v := .selfTest) (by decide) (by decide) (by decide) low
    have := Window.not_holds_of_ne (v := .basic) (by decide) (by decide) (by decide) low
    simp [*]
  by_cases high : Window.osHigh.Holds a
  · have := Window.not_holds_of_ne (v := .selfTest) (by decide) (by decide) (by decide) high
    have := Window.not_holds_of_ne (v := .basic) (by decide) (by decide) (by decide) high
    simp [*]
  by_cases test : Window.selfTest.Holds a
  · have := Window.not_holds_of_ne (v := .basic) (by decide) (by decide) (by decide) test
    simp [*]
  · simp [*]

theorem cell_applyPortB_of_page (pins : UInt8) {page : IoPage} (hp : page ∈ ioPages) {a : UInt16}
    (h : page.Holds a) : (m.applyPortB pins).cell a = page.lay (m.cell a) := by
  have out : ∀ w ∈ Window.all, ¬w.Holds a := fun w hw => IoPage.not_holds hp hw h
  simp only [Window.all, List.forall_mem_cons] at out
  obtain ⟨low, high, test, basic, -⟩ := out
  rw [applyPortB, cell_installIo_of_holds _ hp h, cell_switchBanks _ _ _ _ (by simp), if_neg low,
    if_neg high, if_neg test, if_neg basic]

theorem cell_applyPortB_of_not_page (pins : UInt8) {a : UInt16}
    (h : ∀ page ∈ ioPages, ¬page.Holds a) :
    (m.applyPortB pins).cell a =
      if Window.osLow.Holds a then
        (m.cell a).switch m.osMapped (hasBit pins 0x01) (Window.osLow.byte m.os a)
      else if Window.osHigh.Holds a then
        (m.cell a).switch m.osMapped (hasBit pins 0x01) (Window.osHigh.byte m.os a)
      else if Window.selfTest.Holds a then
        (m.cell a).switch m.selfTestMapped (hasBit pins 0x01 && !hasBit pins 0x80)
          (Window.selfTest.byte m.os a)
      else if Window.basic.Holds a then
        (m.cell a).switch m.basicMapped (!hasBit pins 0x02 && m.basic.isSome) (m.basicByte a)
      else m.cell a := by
  rw [applyPortB, cell_installIo_of_not_holds _ h, cell_switchBanks _ _ _ _ (by simp)]

end Memory

end Atari800XL
