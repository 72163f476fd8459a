import Atari800XL.Antic.Scanline
import Atari800XL.Proofs.Word

namespace Atari800XL.Antic

open Display

def fetches (a : Antic) : Bool :=
  isShown a.scanline && hasBit a.dmaControl 0x20 &&
    (a.scanline == firstDisplayLine || !a.waiting && a.scanline == a.nextFetch)

def linesOf (a : Antic) : Instruction → Nat
  | .blank lines => lines
  | .jump _ => 1
  | .modeLine mode _ _ vertical =>
    let scrolled := a.inScrollRegion && a.scanline != firstDisplayLine
    let rows := rowRange mode scrolled vertical a.verticalScroll
    rowCount rows.1 rows.2

structure Fetch where
  command : UInt8
  count : Nat

def fetch? (a : Antic) (m : Memory) : Option Fetch :=
  if a.fetches then
    let command := m.peek a.displayList
    some { command, count := a.linesOf (Instruction.decode command) }
  else none

theorem fetches_iff {a : Antic} :
    a.fetches ↔ (firstDisplayLine ≤ a.scanline ∧ a.scanline < verticalBlankLine) ∧
      hasBit a.dmaControl 0x20 = true ∧
        (a.scanline = firstDisplayLine ∨ a.waiting = false ∧ a.scanline = a.nextFetch) := by
  simp [fetches, isShown, and_assoc]

theorem fetch?_eq_some {a : Antic} {m : Memory} {f : Fetch} :
    a.fetch? m = some f ↔ a.fetches ∧
      ⟨m.peek a.displayList, a.linesOf (Instruction.decode (m.peek a.displayList))⟩ = f := by
  simp [fetch?]

def Fetch.expect (f : Fetch) (lineStart : UInt64) (s : Schedule) : Schedule :=
  if Instruction.interrupts f.command then
    s.set .displayListInterrupt (interruptDeadline lineStart f.count)
  else s

theorem rowCount_bounds (first last : UInt8) :
    1 ≤ rowCount first last ∧ rowCount first last ≤ 16 := by
  have low : ((last - first) &&& 0x0F).toNat < 16 := by
    rw [toNat_and_15]
    exact Nat.mod_lt _ (by decide)
  exact ⟨Nat.succ_le_succ (Nat.zero_le _), low⟩

theorem count_perform_bounds (a : Antic) (m : Memory) (command : UInt8) :
    1 ≤ (a.perform m (Instruction.decode command)).1 ∧
      (a.perform m (Instruction.decode command)).1 ≤ 16 := by
  unfold Instruction.decode
  split
  · have few : ((command >>> 4) &&& 0x07).toNat ≤ 7 := by
      rw [UInt8.toNat_and]
      exact Nat.and_le_right
    exact ⟨Nat.succ_le_succ (Nat.zero_le _), Nat.succ_le_succ (Nat.le_trans few (by decide))⟩
  · exact ⟨Nat.le_refl 1, Nat.succ_le_succ (Nat.zero_le _)⟩
  · exact rowCount_bounds _ _

structure Place where
  linesPerFrame : Nat
  scanline : Nat
  nextFetch : Nat

def place (a : Antic) : Place where
  linesPerFrame := a.linesPerFrame
  scanline := a.scanline
  nextFetch := a.nextFetch

def Place.next (p : Place) : Place :=
  { p with scanline := if p.linesPerFrame ≤ p.scanline + 1 then 0 else p.scanline + 1 }

theorem place_nextLine (a : Antic) : a.nextLine.2.place = a.place.next := by
  by_cases last : a.linesPerFrame ≤ a.scanline + 1
  · simp [nextLine, Place.next, place, last]
  · simp [nextLine, Place.next, place, last]

theorem place_perform (a : Antic) (m : Memory) (i : Instruction) :
    (a.perform m i).2.place = a.place := by
  cases i with
  | blank lines => rfl
  | jump wait => rfl
  | modeLine mode newAddress sideways vertical => cases newAddress <;> rfl

theorem place_write (a : Antic) (register value : UInt8) (s : Schedule) :
    (a.write register value s).1.place = a.place := by
  unfold write
  split <;> rfl

def opening (a : Antic) : Antic :=
  let begun := { a with currentLine := a.scanline }
  if a.scanline == firstDisplayLine then begun.startFrame else begun

theorem opening_of_first {a : Antic} (first : a.scanline = firstDisplayLine) :
    a.opening = { a with currentLine := a.scanline }.startFrame := if_pos (beq_iff_eq.2 first)

theorem opening_of_ne {a : Antic} (other : a.scanline ≠ firstDisplayLine) :
    a.opening = { a with currentLine := a.scanline } := if_neg (mt beq_iff_eq.1 other)

theorem place_opening (a : Antic) :
    a.opening.place =
      { a.place with
        nextFetch := if a.scanline = firstDisplayLine then firstDisplayLine else a.nextFetch } := by
  by_cases first : a.scanline = firstDisplayLine
  · rw [opening_of_first first, if_pos first]
    rfl
  · rw [opening_of_ne first, if_neg first]
    rfl

theorem fetches_opening (a : Antic) :
    a.fetches = (isShown a.scanline && hasBit a.opening.dmaControl 0x20 &&
      (!a.opening.waiting && a.scanline == a.opening.nextFetch)) := by
  by_cases first : a.scanline = firstDisplayLine
  · simp [fetches, opening_of_first first, first, startFrame]
  · have other : (a.scanline == firstDisplayLine) = false := beq_eq_false_iff_ne.2 first
    simp [fetches, opening_of_ne first, other]

theorem count_perform_opening (a : Antic) (m : Memory) (i : Instruction) :
    ((a.opening.fetchByte m).2.perform m i).1 = a.linesOf i := by
  cases i with
  | blank lines => rfl
  | jump wait => rfl
  | modeLine mode newAddress sideways vertical =>
    by_cases first : a.scanline = firstDisplayLine
    · rw [opening_of_first first]
      cases newAddress <;>
        simp [linesOf, perform, fetchByte, fetchWord, startFrame, first]
    · have other : (a.scanline == firstDisplayLine) = false := beq_eq_false_iff_ne.2 first
      rw [opening_of_ne first]
      cases newAddress <;> simp [linesOf, perform, fetchByte, fetchWord, bne, other]

theorem spec_of_fetch {a : Antic} {m : Memory} {f : Fetch} (h : a.fetch? m = some f) :
    (firstDisplayLine ≤ a.scanline ∧ a.scanline < verticalBlankLine) ∧
      (a.scanline = firstDisplayLine ∨ a.scanline = a.nextFetch) ∧ 1 ≤ f.count ∧ f.count ≤ 16 := by
  obtain ⟨here, rfl⟩ := fetch?_eq_some.1 h
  obtain ⟨shown, -, due⟩ := fetches_iff.1 here
  rw [← a.count_perform_opening m]
  exact ⟨shown, due.imp id And.right, count_perform_bounds _ m _⟩

theorem displayList_opening (a : Antic) : a.opening.displayList = a.displayList := by
  unfold opening
  dsimp only
  split <;> rfl

structure Course where
  place : Place
  schedule : Schedule
  notices : List Notice

def Course.next (c : Course) : Course := { c with place := c.place.next }

def Fetched.course (f : Fetched) : Course := ⟨f.antic.place, f.schedule, f.notices⟩

def LineState.course (s : LineState) : Course := ⟨s.antic.place, s.schedule, s.notices⟩

def Processed.course (p : Processed) : Course := ⟨p.antic.place, p.schedule, p.notices⟩

theorem course_fetchInstruction (a : Antic) (m : Memory) (line : Nat) (start : UInt64)
    (s : Schedule) :
    let command := m.peek a.displayList
    let f : Fetch := ⟨command, ((a.fetchByte m).2.perform m (Instruction.decode command)).1⟩
    (a.fetchInstruction m line start s).course =
      ⟨{ a.place with nextFetch := line + f.count }, f.expect start s,
        [.listInstruction line a.displayList command]⟩ := by
  intro command f
  have performed := (a.fetchByte m).2.place_perform m (Instruction.decode command)
  exact congrArg (fun p : Place => Course.mk { p with nextFetch := line + f.count } _ _) performed

namespace LineState

section

variable (s : LineState) (m : Memory) (line : Nat)

theorem course_drawPlayfield : (s.drawPlayfield m line).course = s.course := by
  unfold drawPlayfield
  split
  · rfl
  · rfl
  · dsimp only
    split <;> rfl

theorem schedule_drawPlayfield : (s.drawPlayfield m line).schedule = s.schedule :=
  congrArg Course.schedule (s.course_drawPlayfield m line)

end

variable {a : Antic} {s : LineState} (opened : s.antic = a.opening) {m : Memory} (start : UInt64)
include opened

theorem followList_of_none (h : a.fetch? m = none) (shown : isShown a.scanline = true) :
    (s.followList m a.scanline start).course = s.course := by
  have still : a.fetches = false := by
    simpa [fetch?] using h
  rw [fetches_opening, shown, Bool.true_and, ← opened] at still
  unfold followList
  split
  · rfl
  · rename_i on
    rw [Bool.not_eq_true, Bool.not_eq_false'] at on
    rw [on, Bool.true_and] at still
    rw [if_neg (Bool.eq_false_iff.1 still)]

theorem followList_of_some {f : Fetch} (h : a.fetch? m = some f) :
    (s.followList m a.scanline start).course =
      ⟨{ a.place with nextFetch := a.scanline + f.count }, f.expect start s.schedule,
        s.notices ++ [.listInstruction a.scanline a.displayList f.command]⟩ := by
  obtain ⟨here, rfl⟩ := fetch?_eq_some.1 h
  have fetched := a.opening.course_fetchInstruction m a.scanline start s.schedule
  rw [fetches_opening, Bool.and_eq_true, Bool.and_eq_true, ← opened] at here
  rw [followList, here.1.2, Bool.not_true, if_neg Bool.false_ne_true, if_pos here.2]
  simp only [displayList_opening, count_perform_opening, place_opening, Fetched.course,
    Course.mk.injEq] at fetched
  obtain ⟨place, schedule, notices⟩ := fetched
  simp only [course, opened, place, schedule, notices]

end LineState

section

variable (a : Antic) (m : Memory) (g : Gtia) (start : UInt64) (s : Schedule)

def undrawn : LineState where
  antic := a.opening
  gtia := g
  schedule := s
  line := Line.blank g.background
  cycles := refreshCycles

def drawn : LineState :=
  if isShown a.scanline then (a.undrawn g s).display m a.scanline start else a.undrawn g s

theorem course_drawn (shown : isShown a.scanline = true) :
    (a.drawn m g start s).course =
      (((a.undrawn g s).fetchObjects m a.scanline).followList m a.scanline start).course := by
  rw [drawn, if_pos shown]
  exact LineState.course_drawPlayfield _ m a.scanline

theorem course_processLine :
    (a.processLine m g start s).course = (a.drawn m g start s).course.next := by
  have place : (a.processLine m g start s).antic.place =
      (a.drawn m g start s).antic.place.next := by
    unfold processLine
    dsimp only
    rw [place_nextLine]
    split <;> rfl
  exact congrArg (Course.mk · _ _) place

variable {a m}

theorem processLine_of_none (h : a.fetch? m = none) :
    (a.processLine m g start s).course = ⟨a.opening.place.next, s, []⟩ := by
  have stays : (a.drawn m g start s).course = ⟨a.opening.place, s, []⟩ := by
    cases shown : isShown a.scanline with
    | false =>
      rw [drawn, shown]
      rfl
    | true =>
      rw [course_drawn _ _ _ _ _ shown]
      exact LineState.followList_of_none
        (s := (a.undrawn g s).fetchObjects m a.scanline) rfl start h shown
  rw [course_processLine, stays]
  rfl

theorem processLine_of_some {f : Fetch} (h : a.fetch? m = some f) :
    (a.processLine m g start s).course =
      ⟨{ a.place with nextFetch := a.scanline + f.count }.next, f.expect start s,
        [.listInstruction a.scanline a.displayList f.command]⟩ := by
  obtain ⟨inside, -⟩ := spec_of_fetch h
  have shown : isShown a.scanline = true := by simp [isShown, inside]
  have goes := LineState.followList_of_some
    (s := (a.undrawn g s).fetchObjects m a.scanline) rfl start h
  rw [← a.course_drawn m g start s shown] at goes
  rw [course_processLine, goes]
  rfl

end

theorem linesPerFrame_processLine (a : Antic) (m : Memory) (g : Gtia) (start : UInt64)
    (s : Schedule) : (a.processLine m g start s).antic.linesPerFrame = a.linesPerFrame := by
  cases h : a.fetch? m with
  | none =>
    have goes := congrArg (·.place.linesPerFrame) (processLine_of_none g start s h)
    exact goes.trans (congrArg Place.linesPerFrame a.place_opening)
  | some f => exact congrArg (·.place.linesPerFrame) (processLine_of_some g start s h)

def latches (a : Antic) : UInt8 × UInt8 × UInt8 :=
  (a.horizontalScroll, a.interruptEnable, a.interruptStatus)

theorem latches_perform (a : Antic) (m : Memory) (i : Instruction) :
    (a.perform m i).2.latches = a.latches := by
  cases i with
  | blank lines => rfl
  | jump wait => rfl
  | modeLine mode newAddress sideways vertical => cases newAddress <;> rfl

namespace LineState

theorem latches_followList (s : LineState) (m : Memory) (line : Nat) (lineStart : UInt64) :
    (s.followList m line lineStart).antic.latches = s.antic.latches := by
  unfold followList
  split
  · rfl
  · split
    · exact latches_perform _ m _
    · rfl

theorem latches_drawPlayfield (s : LineState) (m : Memory) (line : Nat) :
    (s.drawPlayfield m line).antic.latches = s.antic.latches := by
  unfold drawPlayfield
  split
  · rfl
  · rfl
  · rename_i width _ _
    show (if line == s.antic.modeStart then s.antic.fetchData m width
      else (0, s.antic)).2.latches = _
    split <;> rfl

end LineState

theorem latches_opening (a : Antic) : a.opening.latches = a.latches := by
  unfold opening
  dsimp only
  split <;> rfl

section

variable (a : Antic) (m : Memory) (g : Gtia) (start : UInt64) (s : Schedule)

theorem latches_drawn : (a.drawn m g start s).antic.latches = a.latches := by
  unfold drawn
  split
  · exact ((LineState.latches_drawPlayfield _ m a.scanline).trans
      (LineState.latches_followList _ m a.scanline start)).trans a.latches_opening
  · exact a.latches_opening

def blanked : Bool × Antic :=
  if a.scanline == verticalBlankLine then (a.drawn m g start s).antic.fireBlankInterrupt
  else (false, (a.drawn m g start s).antic)

theorem frameDone_nextLine (a : Antic) : a.nextLine.1 = decide (a.nextLine.2.scanline = 0) := by
  unfold nextLine
  dsimp only
  split
  · exact (decide_eq_true rfl).symm
  · exact (decide_eq_false (Nat.succ_ne_zero _)).symm

theorem frameDone_processLine : (a.processLine m g start s).report.frameDone =
    decide ((a.processLine m g start s).antic.scanline = 0) :=
  frameDone_nextLine _

theorem scanline_processLine : (a.processLine m g start s).antic.scanline =
    if a.linesPerFrame ≤ a.scanline + 1 then 0 else a.scanline + 1 := by
  cases h : a.fetch? m with
  | none =>
    have goes := congrArg (·.place.scanline) (processLine_of_none g start s h)
    refine goes.trans ?_
    rw [place_opening]
    rfl
  | some f => exact congrArg (·.place.scanline) (processLine_of_some g start s h)

end

end Atari800XL.Antic
