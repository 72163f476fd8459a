import Atari800XL.Proofs.Antic.Fetching

namespace Atari800XL.Antic

open Display

namespace LineState

theorem cycles_le_followList (s : LineState) (m : Memory) (line : Nat) (start : UInt64) :
    s.cycles ≤ (s.followList m line start).cycles := by
  unfold followList
  split
  · exact Nat.le_refl _
  · split
    · exact Nat.le_add_right _ _
    · exact Nat.le_refl _

theorem cycles_le_drawPlayfield (s : LineState) (m : Memory) (line : Nat) :
    s.cycles ≤ (s.drawPlayfield m line).cycles := by
  unfold drawPlayfield
  split
  · exact Nat.le_refl _
  · exact Nat.le_refl _
  · exact Nat.le_trans (Nat.le_add_right _ _) (Nat.le_add_right _ _)

theorem cycles_le_display (s : LineState) (m : Memory) (line : Nat) (start : UInt64) :
    s.cycles ≤ (s.display m line start).cycles :=
  calc
    s.cycles ≤ (s.fetchObjects m line).cycles := Nat.le_add_right _ _
    _ ≤ ((s.fetchObjects m line).followList m line start).cycles :=
      cycles_le_followList _ m line start
    _ ≤ (s.display m line start).cycles := cycles_le_drawPlayfield _ m line

end LineState

def modeLine (a : Antic) : Mode × Nat := (a.mode, a.modeStart)

theorem modeLine_drawPlayfield (s : LineState) (m : Memory) (line : Nat) :
    (s.drawPlayfield m line).antic.modeLine = s.antic.modeLine := by
  unfold LineState.drawPlayfield
  split
  · rfl
  · rfl
  · rename_i width _ _
    show (if line == s.antic.modeStart then s.antic.fetchData m width
      else (0, s.antic)).2.modeLine = _
    split <;> rfl

theorem modeLine_followList (s : LineState) (m : Memory) (line : Nat) (start : UInt64) :
    (s.followList m line start).antic.mode = .blank ∨
      (s.followList m line start).antic.modeStart = line ∨
      (s.followList m line start).antic.modeLine = s.antic.modeLine := by
  unfold LineState.followList
  split
  · exact .inl rfl
  · split
    · exact .inr (.inl rfl)
    · exact .inr (.inr rfl)

section

variable (a : Antic) (m : Memory) (g : Gtia) (start : UInt64) (s : Schedule)

def followed : LineState :=
  ((a.undrawn g s).fetchObjects m a.scanline).followList m a.scanline start

theorem modeLine_drawn_of_shown (shown : isShown a.scanline = true) :
    (a.drawn m g start s).antic.modeLine = (a.followed m g start s).antic.modeLine := by
  rw [drawn, if_pos shown]
  exact modeLine_drawPlayfield _ m a.scanline

theorem modeLine_processLine :
    (a.processLine m g start s).antic.modeLine = (a.drawn m g start s).antic.modeLine := by
  have next (a : Antic) : a.nextLine.2.modeLine = a.modeLine := by
    unfold nextLine
    dsimp only
    split <;> rfl
  refine (next (a.blanked m g start s).2).trans ?_
  unfold blanked
  split <;> rfl

theorem blankInterrupt_processLine :
    (a.processLine m g start s).report.blankInterrupt =
      (a.scanline == verticalBlankLine && hasBit a.interruptEnable blankInterrupt) := by
  have enable : (a.drawn m g start s).antic.interruptEnable = a.interruptEnable :=
    congrArg (·.2.1) (a.latches_drawn m g start s)
  show (a.blanked m g start s).1 = _
  unfold blanked
  split
  · rename_i here
    rw [here, Bool.true_and, ← enable]
    rfl
  · rename_i other
    rw [Bool.eq_false_iff.2 other]
    rfl

theorem interruptStatus_processLine :
    (a.processLine m g start s).antic.interruptStatus =
      if a.scanline == verticalBlankLine then a.fireBlankInterrupt.2.interruptStatus
      else a.interruptStatus := by
  have next (a : Antic) : a.nextLine.2.interruptStatus = a.interruptStatus := by
    unfold nextLine
    dsimp only
    split <;> rfl
  have status : (a.drawn m g start s).antic.interruptStatus = a.interruptStatus :=
    congrArg (·.2.2) (a.latches_drawn m g start s)
  refine (next (a.blanked m g start s).2).trans ?_
  unfold blanked fireBlankInterrupt
  split
  · rw [← status]
  · exact status

theorem interruptEnable_processLine :
    (a.processLine m g start s).antic.interruptEnable = a.interruptEnable := by
  have next (a : Antic) : a.nextLine.2.interruptEnable = a.interruptEnable := by
    unfold nextLine
    dsimp only
    split <;> rfl
  have enable : (a.drawn m g start s).antic.interruptEnable = a.interruptEnable :=
    congrArg (·.2.1) (a.latches_drawn m g start s)
  refine (next (a.blanked m g start s).2).trans (Eq.trans ?_ enable)
  unfold blanked
  split <;> rfl

theorem cycles_processLine :
    refreshCycles ≤ (a.processLine m g start s).report.cycles ∧
      (a.processLine m g start s).report.cycles ≤ maxCycles := by
  have least : refreshCycles ≤ (a.drawn m g start s).cycles := by
    unfold drawn
    split
    · exact LineState.cycles_le_display (a.undrawn g s) m a.scanline start
    · exact Nat.le_refl refreshCycles
  show refreshCycles ≤ min (a.drawn m g start s).cycles maxCycles ∧ _
  exact ⟨Nat.le_min.2 ⟨least, by decide⟩, Nat.min_le_right _ _⟩

end

/-- What may happen to the chip from outside. The rest of the machine may have become anything when
it does. -/
inductive Operation
  | processLine (m : Memory) (g : Gtia) (start : UInt64) (s : Schedule)
  | write (register value : UInt8) (s : Schedule)
  | fireListInterrupt

def Operation.isLine : Operation → Bool
  | .processLine .. => true
  | _ => false

def apply (a : Antic) : Operation → Antic
  | .processLine m g start s => (a.processLine m g start s).antic
  | .write register value s => (a.write register value s).1
  | .fireListInterrupt => a.fireListInterrupt.2

def applyAll (a : Antic) (operations : List Operation) : Antic := operations.foldl apply a

structure Turn where
  antic : Antic
  memory : Memory
  gtia : Gtia
  start : UInt64
  schedule : Schedule

namespace Turn

variable (t : Turn)

def report : LineReport := (t.antic.processLine t.memory t.gtia t.start t.schedule).report

def followed : LineState := t.antic.followed t.memory t.gtia t.start t.schedule

end Turn

def turns (a : Antic) : List Operation → List Turn
  | [] => []
  | .processLine m g start s :: operations =>
    ⟨a, m, g, start, s⟩ :: turns (a.apply (.processLine m g start s)) operations
  | operation :: operations => turns (a.apply operation) operations

theorem length_turns (a : Antic) (operations : List Operation) :
    (a.turns operations).length = operations.countP (·.isLine) := by
  induction operations generalizing a with
  | nil => rfl
  | cons o operations ih =>
    cases o with
    | processLine m g start s =>
      rw [turns, List.length_cons, ih, List.countP_cons_of_pos rfl]
    | write | fireListInterrupt =>
      rw [List.countP_cons_of_neg Bool.false_ne_true]
      exact ih _

inductive Started : Nat → Antic → Prop
  | fresh (linesPerFrame : Nat) : Started linesPerFrame { linesPerFrame }
  | reset (a : Antic) : Started a.linesPerFrame a.reset

/-- So many lines have been processed. What is shown began on one of those of this picture, and of
the two interrupts the status shows the latest one at most. -/
structure Paced (lines count : Nat) (a : Antic) : Prop where
  linesPerFrame : a.linesPerFrame = lines
  scanline : a.scanline = count % lines
  modeStart : firstDisplayLine < a.scanline → a.mode ≠ .blank → a.modeStart < a.scanline
  status : hasBit a.interruptStatus listInterrupt = false ∨
    hasBit a.interruptStatus blankInterrupt = false

theorem hasBit_cleared : hasBit 0 listInterrupt = false := by decide

theorem Started.paced {lines : Nat} {a : Antic} (started : Started lines a) : Paced lines 0 a := by
  cases started <;> exact ⟨rfl, (Nat.zero_mod _).symm, nofun, .inl hasBit_cleared⟩

section

variable {lines count : Nat} {a : Antic}

theorem opening_of_blank (first : a.scanline = firstDisplayLine) : a.opening.mode = .blank := by
  rw [opening_of_first first]
  rfl

theorem modeLine_opening_of_ne (other : a.scanline ≠ firstDisplayLine) :
    a.opening.modeLine = a.modeLine := by
  rw [opening_of_ne other]
  rfl

namespace Paced

theorem modeStart_followed (h : Paced lines count a) (m : Memory) (g : Gtia) (start : UInt64)
    (s : Schedule) (first : firstDisplayLine ≤ a.scanline)
    (shows : (a.followed m g start s).antic.mode ≠ .blank) :
    (a.followed m g start s).antic.modeStart ≤ a.scanline := by
  rcases modeLine_followList ((a.undrawn g s).fetchObjects m a.scanline) m a.scanline start with
    blank | here | same
  · exact absurd blank shows
  · exact Nat.le_of_eq here
  · obtain ⟨mode, modeStart⟩ : (a.followed m g start s).antic.mode = a.opening.mode ∧
        (a.followed m g start s).antic.modeStart = a.opening.modeStart := Prod.mk.inj same
    rw [mode] at shows
    rw [modeStart]
    rcases Nat.eq_or_lt_of_le first with top | below
    · exact absurd (opening_of_blank top.symm) shows
    · obtain ⟨mode, modeStart⟩ : a.opening.mode = a.mode ∧ a.opening.modeStart = a.modeStart :=
        Prod.mk.inj (modeLine_opening_of_ne (Nat.ne_of_gt below))
      rw [mode] at shows
      rw [modeStart]
      exact Nat.le_of_lt (h.modeStart below shows)

theorem write (h : Paced lines count a) (register value : UInt8) (s : Schedule) :
    Paced lines count (a.write register value s).1 := by
  unfold Antic.write
  split
  case h_11 => exact { h with status := .inl hasBit_cleared }
  all_goals exact { h with }

theorem fireListInterrupt (h : Paced lines count a) : Paced lines count a.fireListInterrupt.2 :=
  { h with status := .inr (hasBit_withBit _ (by decide) false) }

theorem processLine (h : Paced lines count a) (long : verticalBlankLine < lines) (m : Memory)
    (g : Gtia) (start : UInt64) (s : Schedule) :
    Paced lines (count + 1) (a.processLine m g start s).antic where
  linesPerFrame := (a.linesPerFrame_processLine m g start s).trans h.linesPerFrame
  scanline := by
    have inside : count % lines < lines := Nat.mod_lt count (Nat.zero_lt_of_lt long)
    rw [scanline_processLine, h.linesPerFrame, h.scanline, ← Nat.mod_add_mod count]
    split
    · have last : count % lines + 1 = lines := by omega
      rw [last, Nat.mod_self]
    · exact (Nat.mod_eq_of_lt (by omega)).symm
  modeStart := by
    obtain ⟨mode, modeStart⟩ := Prod.mk.inj (a.modeLine_processLine m g start s)
    rw [mode, modeStart, scanline_processLine, h.linesPerFrame]
    split
    · exact nofun
    · intro behind shows
      have first : firstDisplayLine ≤ a.scanline := Nat.lt_succ_iff.1 behind
      refine Nat.lt_succ_of_le ?_
      cases shown : isShown a.scanline with
      | true =>
        obtain ⟨mode, modeStart⟩ := Prod.mk.inj (a.modeLine_drawn_of_shown m g start s shown)
        rw [mode] at shows
        rw [modeStart]
        exact h.modeStart_followed m g start s first shows
      | false =>
        have below : firstDisplayLine < a.scanline := by
          refine Nat.lt_of_le_of_ne first fun top => ?_
          rw [← top] at shown
          exact absurd shown (by decide)
        have undrawn : (a.drawn m g start s).antic.modeLine = a.opening.modeLine := by
          rw [drawn, shown]
          rfl
        obtain ⟨mode, modeStart⟩ :=
          Prod.mk.inj (undrawn.trans (modeLine_opening_of_ne (Nat.ne_of_gt below)))
        rw [mode] at shows
        rw [modeStart]
        exact Nat.le_of_lt (h.modeStart below shows)
  status := by
    rw [interruptStatus_processLine]
    split
    · exact .inl (hasBit_withBit _ (by decide) false)
    · exact h.status

theorem apply (h : Paced lines count a) (long : verticalBlankLine < lines) (o : Operation) :
    Paced lines (count + if o.isLine then 1 else 0) (a.apply o) :=
  match o with
  | .processLine m g start s => h.processLine long m g start s
  | .write register value s => h.write register value s
  | .fireListInterrupt => h.fireListInterrupt

theorem applyAll (h : Paced lines count a) (long : verticalBlankLine < lines)
    (operations : List Operation) :
    Paced lines (count + operations.countP (·.isLine)) (a.applyAll operations) := by
  induction operations generalizing a count with
  | nil => exact h
  | cons o operations ih =>
    rw [List.countP_cons, Nat.add_comm (operations.countP _), ← Nat.add_assoc]
    exact ih (h.apply long o)

theorem turns (h : Paced lines count a) (long : verticalBlankLine < lines)
    (operations : List Operation) {i : Nat} {t : Turn} (taken : (a.turns operations)[i]? = some t) :
    Paced lines (count + i) t.antic := by
  induction operations generalizing a count i with
  | nil => cases taken
  | cons o operations ih =>
    cases o with
    | processLine m g start s =>
      cases i with
      | zero =>
        cases taken
        exact h
      | succ i =>
        rw [show count + (i + 1) = count + 1 + i by omega]
        exact ih (h.processLine long m g start s) taken
    | write register value s => exact ih (h.write register value s) taken
    | fireListInterrupt => exact ih h.fireListInterrupt taken

end Paced

end

/-- What the line that comes behind `count` others comes to. -/
structure Turn.InFrame (lines count : Nat) (t : Turn) : Prop where
  scanline : t.report.scanline = count % lines
  frameDone : t.report.frameDone = true ↔ count % lines = lines - 1
  blankInterrupt : t.report.blankInterrupt = true ↔
    count % lines = 248 ∧ hasBit t.antic.interruptEnable 0x40 = true
  row : ∀ r, t.report.visibleRow? = some r ↔ count % lines = r + 8 ∧ r < 240
  cycles : 9 ≤ t.report.cycles ∧ t.report.cycles ≤ 105
  modeStart : isShown t.report.scanline = true → t.followed.antic.mode ≠ .blank →
    t.followed.antic.modeStart ≤ t.report.scanline

theorem isShown_iff {line : Nat} :
    isShown line = true ↔ firstDisplayLine ≤ line ∧ line < verticalBlankLine := by
  rw [isShown, Bool.and_eq_true, decide_eq_true_eq, decide_eq_true_eq]

def rowOf? (line : Nat) : Option Nat :=
  if isShown line then some (line - firstDisplayLine) else none

theorem rowOf?_eq_some_iff {line r : Nat} : rowOf? line = some r ↔ line = r + 8 ∧ r < 240 := by
  unfold rowOf?
  split
  · rename_i shown
    obtain ⟨first, last⟩ := isShown_iff.1 shown
    unfold firstDisplayLine at *
    unfold verticalBlankLine at *
    rw [Option.some.injEq]
    omega
  · rename_i hidden
    rw [isShown_iff] at hidden
    unfold firstDisplayLine verticalBlankLine at hidden
    exact iff_of_false nofun (by omega)

theorem filterMap_rowOf? {lines : Nat} (long : verticalBlankLine < lines) :
    (List.range lines).filterMap rowOf? = List.range 240 := by
  obtain ⟨below, rfl⟩ := Nat.exists_eq_add_of_lt long
  have shown : (List.range verticalBlankLine).filterMap rowOf? = List.range 240 := by
    decide +kernel
  have hidden : ((List.range (below + 1)).map (verticalBlankLine + ·)).filterMap rowOf? = [] := by
    refine List.filterMap_eq_nil_iff.2 fun line mem => ?_
    obtain ⟨i, -, rfl⟩ := List.mem_map.1 mem
    refine if_neg fun shown => ?_
    have := (isShown_iff.1 shown).2
    omega
  rw [Nat.add_assoc, List.range_add, List.filterMap_append, shown, hidden, List.append_nil]

theorem Paced.inFrame {lines count : Nat} {t : Turn} (h : Paced lines count t.antic)
    (long : verticalBlankLine < lines) : t.InFrame lines count where
  scanline := h.scanline
  frameDone := by
    have done := t.antic.frameDone_processLine t.memory t.gtia t.start t.schedule
    have inside : count % lines < lines := Nat.mod_lt count (Nat.zero_lt_of_lt long)
    rw [Turn.report, done, scanline_processLine, h.linesPerFrame, h.scanline, decide_eq_true_eq]
    split <;> omega
  blankInterrupt := by
    have due := t.antic.blankInterrupt_processLine t.memory t.gtia t.start t.schedule
    rw [Turn.report, due, Bool.and_eq_true, beq_iff_eq, h.scanline]
    rfl
  row r := by
    rw [← h.scanline]
    exact rowOf?_eq_some_iff
  cycles := t.antic.cycles_processLine t.memory t.gtia t.start t.schedule
  modeStart shown :=
    h.modeStart_followed t.memory t.gtia t.start t.schedule (isShown_iff.1 shown).1

theorem Paced.rows {lines : Nat} {a : Antic} (h : Paced lines 0 a)
    (long : verticalBlankLine < lines) (operations : List Operation) {n : Nat}
    (whole : (n + 1) * lines ≤ (a.turns operations).length) :
    (((a.turns operations).drop (n * lines)).take lines).filterMap (·.report.visibleRow?) =
      List.range 240 := by
  have numbers : (((a.turns operations).drop (n * lines)).take lines).map (·.report.scanline) =
      List.range lines := by
    apply List.ext_getElem
    · rw [Nat.succ_mul] at whole
      simp
      omega
    · intro i inside inside'
      have here : i < lines := by simpa using inside'
      have taken : n * lines + i < (a.turns operations).length := by
        rw [Nat.succ_mul] at whole
        omega
      rw [List.getElem_map, List.getElem_take, List.getElem_drop, List.getElem_range]
      refine (h.turns long operations (List.getElem?_eq_getElem taken)).scanline.trans ?_
      rw [Nat.zero_add, Nat.mul_comm, Nat.mul_add_mod, Nat.mod_eq_of_lt here]
  rw [← filterMap_rowOf? long, ← numbers, List.filterMap_map]
  rfl

theorem Paced.read {lines count : Nat} {a : Antic} (h : Paced lines count a) :
    hasBit (a.read 0x0F) 0x80 = false ∨ hasBit (a.read 0x0F) 0x40 = false := by
  have shows {mask : UInt8} (apart : 0x1F &&& mask = 0) :
      hasBit (a.read 0x0F) mask = hasBit a.interruptStatus mask :=
    hasBit_withBit_of_apart apart a.interruptStatus true
  rw [shows (by decide), shows (by decide)]
  exact h.status

end Atari800XL.Antic
