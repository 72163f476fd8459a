import Mathlib.Logic.Function.Iterate
import Atari800XL.Proofs.Machine.Lines

/-! Running to the end of a picture. It is run for the cycles of a line until a picture is complete,
so that a machine that keeps up with its lines is stopped behind the picture. A call of the host file
device takes its time at one go: the lines that fall due in the meantime are processed together, and
with them all pictures that they make up. -/

namespace Atari800XL

open Display FileDevice

theorem Cpu.hooks_step {β : Type} [Bus β] (cpu : Cpu) (bus : β) :
    (cpu.step bus).1.hooks = cpu.hooks := by
  unfold step
  split <;> rfl

theorem Cpu.hooks_reset {β : Type} [Bus β] (cpu : Cpu) (bus : β) :
    (cpu.reset bus).1.hooks = cpu.hooks := rfl

theorem Interrupt.hooks_enter {β : Type} [Bus β] (cpu : Cpu) (bus : β) (i : Interrupt) :
    (i.enter cpu bus).1.hooks = cpu.hooks := by
  cases i with
  | irq source =>
    simp only [enter, Cpu.irq]
    split <;> rfl
  | nmi source cycle => rfl

theorem Board.hooks_handle {b : Board} (mapped : b.Mapped) (cpu : Cpu) (event : Event)
    (deadline : UInt64) : (handle cpu b event deadline).1.hooks = cpu.hooks := by
  rw [handle_eq mapped]
  cases b.asks event deadline with
  | none => rfl
  | some i => exact i.hooks_enter cpu _

theorem Machine.hooks_hardReset {m : Machine} (absent : m.board.setup.fileDevice = false) :
    m.hardReset.cpu.hooks = [] := by
  have setup : m.cleared.board.setup = m.board.setup :=
    congrArg Board.Fittings.setup m.fittings_cleared
  rw [hardReset_eq]
  show m.hooked.cpu.hooks = []
  rw [hooked, setup, absent, if_neg Bool.false_ne_true, cleared_eq]
  exact Cpu.hooks_reset {} m.powered

namespace Session

variable {s s' : Session} {target : UInt64} {n : Nat}

theorem Reachable.total_move_le (h : s.Reachable) (fits : Fits s.cpu.total) (none : s.due = none)
    (unhooked : s.cpu.hooks = []) (target : UInt64) :
    (s.move target).cpu.hooks = [] ∧
      (s.move target).cpu.total.toNat ≤ s.line + Cpu.longestInstruction := by
  have next := h.due_eq_none_iff.1 none
  have ahead := h.total_lt_line none
  by_cases stall : s.cpu.total < s.observed.board.schedule.stallUntil
  · have halted : (s.move target).cpu = (s.cpu.move s.observed target).1 := rfl
    rw [Cpu.move_halted (UInt64.not_le.2 next) stall] at halted
    rw [halted]
    refine ⟨unhooked, ?_⟩
    have first : min (min s.observed.board.schedule.stallUntil s.observed.board.schedule.next)
        target ≤ s.observed.board.schedule.lineFetch :=
      Std.min_le.2 (.inl (Std.min_le.2 (.inr (h.sound.exact.next_le .lineFetch))))
    exact Nat.le_trans (UInt64.le_iff_toNat_le.1 first) (Nat.le_add_right _ _)
  · have started : (s.move target).cpu = (s.cpu.stepHooked s.observed).1 :=
      congrArg Prod.fst (Cpu.move_started (UInt64.not_le.2 next) stall)
    have none : s.cpu.hookAt s.cpu.regs.pc = Option.none := by
      rw [Cpu.hookAt, unhooked]
      rfl
    rw [Observed.stepHooked_of_none none] at started
    obtain ⟨c, total, -, short⟩ := s.cpu.total_step (s.observed.start s.cpu.total)
    have time := (fits.add (Nat.le_trans short (by decide))).1
    rw [started, total, time]
    refine ⟨?_, by omega⟩
    rw [Cpu.hooks_step]
    exact unhooked

theorem Reachable.unhooked (h : s.Reachable)
    (absent : s.observed.board.setup.fileDevice = false) :
    s.cpu.hooks = [] ∧ s.latest ≤ s.line + (Cpu.longestInstruction + lineInterrupts) := by
  have first (m : Machine) (absent : m.board.setup.fileDevice = false) :
      (fresh m).cpu.hooks = [] ∧
        (fresh m).latest ≤ (fresh m).line + (Cpu.longestInstruction + lineInterrupts) := by
    have latest := (fresh m).latest_le
    rw [total_fresh] at latest
    refine ⟨m.hooks_hardReset absent, ?_⟩
    have reset : Cpu.interruptCycles.toNat ≤ Cpu.longestInstruction := by decide
    omega
  induction h with
  | powerOn setup os basic store flags =>
    have fittings := Machine.fittings_hardReset
      (Machine.assembled setup (Memory.create os basic) store flags)
    have same := congrArg Board.Fittings.setup fittings
    exact first _ ((congrArg Setup.fileDevice same).symm.trans absent)
  | @step s _ h next ih =>
    cases next with
    | @handle event deadline fits due =>
      obtain ⟨n, passes⟩ := h.passes_handle fits due
      obtain ⟨hooks, near⟩ := ih (passes.setup ▸ absent)
      refine ⟨(Board.hooks_handle h.mapped s.cpu event deadline).trans hooks, ?_⟩
      by_cases line : event = .lineFetch
      · subst line
        obtain ⟨latest, line⟩ := h.handle_lineFetch fits due
        have shorter : lineInterrupts ≤ cyclesPerLine.toNat := by decide
        omega
      · have latest := h.latest_handle_le fits due line
        have same := h.line_handle line deadline
        omega
    | @move target fits before none =>
      have passes := h.passes_move fits before none
      obtain ⟨hooks, -⟩ := ih (passes.setup ▸ absent)
      obtain ⟨hooks, total⟩ := h.total_move_le fits none hooks target
      have latest := (s.move target).latest_le
      have same := passes.line
      exact ⟨hooks, by omega⟩
    | call c =>
      have same := congrArg Board.Fittings.setup (s.machine.fittings_perform c)
      obtain ⟨hooks, near⟩ := ih ((congrArg Setup.fileDevice same).symm.trans absent)
      obtain ⟨latest, line⟩ := s.latest_call c
      refine ⟨?_, by omega⟩
      rcases (s.machine.touched_perform c).cpu with kept | asked
      · exact (congrArg Cpu.hooks kept).trans hooks
      · exact (congrArg Cpu.hooks asked).trans hooks
    | hardReset =>
      have same := congrArg Board.Fittings.setup s.machine.fittings_hardReset
      exact first _ ((congrArg Setup.fileDevice same).symm.trans absent)

end Session

namespace Machine

variable (m : Machine)

def afterLines (k : Nat) : Machine := (fun m => m.run cyclesPerLine)^[k] m

theorem afterLines_succ (k : Nat) :
    m.afterLines (k + 1) = (m.afterLines k).run cyclesPerLine :=
  Function.iterate_succ_apply' _ k m

def late : Nat := m.cpu.total.toNat - m.board.schedule.lineFetch.toNat

structure Begins (k : Nat) : Prop where
  within : k < 2 * m.board.antic.linesPerFrame
  frames : ∀ j ≤ k, (m.afterLines j).board.frames = m.board.frames

theorem runWhileFrame_eq_afterLines (frames lines : Nat) :
    ∃ k ≤ lines, m.runWhileFrame frames lines = m.afterLines k ∧
      (∀ j < k, (m.afterLines j).board.frames = frames) ∧
      (k < lines → (m.afterLines k).board.frames ≠ frames) := by
  induction lines generalizing m with
  | zero =>
    exact ⟨0, Nat.le_refl _, rfl, fun j before => absurd before (Nat.not_lt_zero j),
      fun before => absurd before (Nat.not_lt_zero 0)⟩
  | succ lines ih =>
    rw [runWhileFrame]
    split
    · rename_i here
      obtain ⟨k, le, run, before, after⟩ := ih (m.run cyclesPerLine)
      refine ⟨k + 1, Nat.succ_le_succ le, run, fun j within => ?_, fun within => ?_⟩
      · cases j with
        | zero => exact here
        | succ j => exact before j (Nat.lt_of_succ_lt_succ within)
      · exact after (Nat.lt_of_succ_lt_succ within)
    · rename_i past
      exact ⟨0, Nat.zero_le _, rfl, fun j before => absurd before (Nat.not_lt_zero j),
        fun _ => past⟩

/-- What a run to the end of a picture comes to. -/
structure RunsFrame : Prop where
  ends : ∀ k, m.Begins k →
    Ran ((m.afterLines k).cpu.total + cyclesPerLine) (m.afterLines k) (m.afterLines (k + 1))
  last : ∃ k, m.Begins k ∧ m.runFrame = m.afterLines (k + 1)
  /-- The pictures that are counted are those that the lines make up, one every 114 cycles. -/
  exact : m.runFrame.board.frames = m.board.frames + (m.board.antic.scanline +
    (m.runFrame.board.schedule.lineFetch.toNat - m.board.schedule.lineFetch.toNat) / 114) /
      m.board.antic.linesPerFrame
  some : m.board.frames + 1 ≤ m.runFrame.board.frames
  /-- The longest call holds up the lines of some 25 pictures. -/
  most : m.runFrame.board.frames ≤ m.board.frames + 26
  /-- It is one picture if no run finds almost as many lines due as a picture has, … -/
  one : (∀ k, m.Begins k → (m.afterLines k).late ≤ 100 * (m.board.antic.linesPerFrame - 3)) →
    m.runFrame.board.frames = m.board.frames + 1
  /-- … and more than one if a run finds the lines of two pictures due. -/
  more : (∃ k, m.Begins k ∧ 114 * (2 * m.board.antic.linesPerFrame) ≤ (m.afterLines k).late) →
    m.board.frames + 2 ≤ m.runFrame.board.frames
  /-- It is one picture wherever nothing takes longer than an instruction. -/
  alone : m.board.setup.fileDevice = false → m.runFrame.board.frames = m.board.frames + 1

end Machine

namespace Session

variable {s s' : Session} {n : Nat}

theorem Reachable.afterLines (h : s.Reachable) {k : Nat}
    (room : s.cpu.total.toNat + k * (114 + longestCall) + longestDelay < never.toNat) :
    ∃ n s', s'.Reachable ∧ s'.machine = s.machine.afterLines k ∧ s.Passes n s' ∧
      s.cpu.total.toNat + 114 * k ≤ s'.cpu.total.toNat ∧
      s'.cpu.total.toNat ≤ s.cpu.total.toNat + k * (114 + longestCall) := by
  induction k with
  | zero => exact ⟨0, s, h, rfl, .refl s, Nat.le_refl _, Nat.le_add_right _ _⟩
  | succ k ih =>
    rw [Nat.succ_mul] at room
    obtain ⟨n, s₁, reach, machine, passes, least, most⟩ := ih (by omega)
    obtain ⟨n', s', reach', line⟩ := reach.runLine (by omega)
    have onward := line.onward
    have near := line.near
    refine ⟨n + n', s', reach', ?_, passes.trans line.toPasses, by omega, ?_⟩
    · rw [line.machine, machine, Machine.afterLines_succ]
    · rw [Nat.succ_mul]
      omega

theorem Reachable.runLineAfter (h : s.Reachable) {k : Nat}
    (room : s.cpu.total.toNat + (k + 1) * (114 + longestCall) + longestDelay < never.toNat) :
    ∃ n s₁ n' s', s₁.Reachable ∧ s'.Reachable ∧ s₁.machine = s.machine.afterLines k ∧
      s'.machine = s.machine.afterLines (k + 1) ∧ s.Passes n s₁ ∧ s₁.RunsLine n' s' ∧
      s.cpu.total.toNat + 114 * k ≤ s₁.cpu.total.toNat := by
  rw [Nat.succ_mul] at room
  obtain ⟨n, s₁, reach, machine, passes, least, most⟩ := h.afterLines (k := k) (by omega)
  obtain ⟨n', s', reach', line⟩ := reach.runLine (by omega)
  refine ⟨n, s₁, n', s', reach, reach', machine, ?_, passes, line, least⟩
  rw [line.machine, machine, Machine.afterLines_succ]

theorem RunsLine.lt_of_late_le (line : s.RunsLine n s') (long : 262 ≤ s.pictureLines)
    (late : s.late ≤ 100 * (s.pictureLines - 3)) : n < s.pictureLines := by
  have most := line.most
  omega

theorem RunsLine.le_of_le_late (line : s.RunsLine n s') {lines : Nat}
    (late : 114 * lines ≤ s.late) : lines ≤ n := by
  have least := line.least
  unfold Session.late at late
  omega

theorem Reachable.late_le (h : s.Reachable) : s.late ≤ 655574 := by
  have ahead := h.latest_le_line
  have total := s.total_le_latest
  have most : backlog = 655574 := rfl
  unfold Session.late
  omega

structure EndsLine (s : Session) (k : Nat) : Prop where
  ran : Machine.Ran ((s.machine.afterLines k).cpu.total + cyclesPerLine)
    (s.machine.afterLines k) (s.machine.afterLines (k + 1))
  exact : (s.machine.afterLines (k + 1)).board.frames =
    s.machine.board.frames + (s.observed.board.antic.scanline +
      ((s.machine.afterLines (k + 1)).board.schedule.lineFetch.toNat - s.line) / 114) /
        s.pictureLines
  least : s.machine.board.frames ≤ (s.machine.afterLines (k + 1)).board.frames
  most : (s.machine.afterLines (k + 1)).board.frames ≤ s.machine.board.frames + 26
  one : (s.machine.afterLines k).late ≤ 100 * (s.pictureLines - 3) →
    (s.machine.afterLines (k + 1)).board.frames ≤ s.machine.board.frames + 1
  more : 114 * (2 * s.pictureLines) ≤ (s.machine.afterLines k).late →
    s.machine.board.frames + 2 ≤ (s.machine.afterLines (k + 1)).board.frames
  late : s.machine.board.setup.fileDevice = false →
    (s.machine.afterLines k).late ≤ 100 * (s.pictureLines - 3)
  last : k + 1 = 2 * s.pictureLines →
    s.machine.board.frames + 1 ≤ (s.machine.afterLines (k + 1)).board.frames

theorem Reachable.endsLine (h : s.Reachable) {k : Nat} (begins : s.machine.Begins k)
    (room : s.cpu.total.toNat + 2 * s.pictureLines * (114 + longestCall) + longestDelay <
      never.toNat) : s.EndsLine k := by
  have within : k < 2 * s.pictureLines := begins.within
  have long : 262 ≤ s.pictureLines := h.lines_le
  have pos : 0 < s.pictureLines := by omega
  have fewer : (k + 1) * (114 + longestCall) ≤ 2 * s.pictureLines * (114 + longestCall) :=
    Nat.mul_le_mul_right _ within
  obtain ⟨n, s₁, n', s', reach, reach', machine, machine', passes, line, onward⟩ :=
    h.runLineAfter (k := k) (by omega)
  have late : (s.machine.afterLines k).late = s₁.late := by
    rw [← machine]
    rfl
  have counted : (s.machine.afterLines (k + 1)).board.frames = s'.observed.board.frames := by
    rw [← machine']
    rfl
  have started : s₁.observed.board.frames = s.machine.board.frames := by
    rw [← begins.frames k (Nat.le_refl k), ← machine]
    rfl
  have lines := passes.pictureLines
  obtain ⟨least, most⟩ := line.toPasses.frames reach reach'
  rw [started, lines, ← counted] at least most
  exact
    { ran := by
        rw [← machine, ← machine']
        exact line.ran
      exact := by
        have all := passes.trans line.toPasses
        have next : (s.machine.afterLines (k + 1)).board.schedule.lineFetch.toNat =
            s.line + 114 * (n + n') := by
          rw [← machine']
          exact all.line
        rw [counted, all.frames_eq h reach', next, Nat.add_sub_cancel_left,
          Nat.mul_div_cancel_left _ (by decide)]
        rfl
      least := Nat.le_trans (Nat.le_add_right _ _) least
      most := by
        have few : n' / s.pictureLines < 26 := by
          have near := line.most
          have behind := reach.late_le
          rw [Nat.div_lt_iff_lt_mul pos]
          omega
        omega
      one := fun kept => by
        rw [late, ← lines] at kept
        have few := line.lt_of_late_le (by omega) kept
        rw [Nat.div_eq_of_lt (lines ▸ few)] at most
        exact most
      more := fun behind => by
        rw [late] at behind
        have two : 2 ≤ n' / s.pictureLines := by
          rw [Nat.le_div_iff_mul_le pos]
          exact line.le_of_le_late behind
        omega
      late := fun absent => by
        have near := (reach.unhooked (passes.setup ▸ absent)).2
        have total := s₁.total_le_latest
        have cycles : Cpu.longestInstruction + lineInterrupts = 24 := rfl
        rw [late, Session.late]
        omega
      last := fun full => by
        have first := h.line_le
        have after := passes.line
        have ahead := line.least
        obtain ⟨all, -⟩ := (passes.trans line.toPasses).frames h reach'
        have whole : 1 ≤ (n + n') / s.pictureLines := by
          rw [Nat.le_div_iff_mul_le pos]
          omega
        rw [counted]
        exact Nat.le_trans (Nat.add_le_add_left whole _) all }

/-- From every state the run to the end of a picture ends, as long as the clock does not, and it ends
behind one picture unless a long call has held up the lines. -/
theorem Reachable.runsFrame (h : s.Reachable)
    (room : s.cpu.total.toNat + 2 * s.pictureLines * (114 + longestCall) + longestDelay <
      never.toNat) : s.machine.RunsFrame := by
  have line {k : Nat} (begins : s.machine.Begins k) := h.endsLine begins room
  have long : 262 ≤ s.pictureLines := h.lines_le
  obtain ⟨k, le, run, before, after⟩ :=
    s.machine.runWhileFrame_eq_afterLines s.machine.board.frames (2 * s.pictureLines)
  cases k with
  | zero => exact absurd rfl (after (by omega))
  | succ j =>
    have run : s.machine.runFrame = s.machine.afterLines (j + 1) := run
    have begins : s.machine.Begins j :=
      ⟨le, fun i le => before i (Nat.lt_succ_of_le le)⟩
    have some : s.machine.board.frames + 1 ≤ s.machine.runFrame.board.frames := by
      rw [run]
      by_cases full : j + 1 = 2 * s.pictureLines
      · exact (line begins).last full
      · have ended := after (Nat.lt_of_le_of_ne le full)
        have least := (line begins).least
        omega
    have one (kept : (s.machine.afterLines j).late ≤ 100 * (s.pictureLines - 3)) :
        s.machine.runFrame.board.frames = s.machine.board.frames + 1 := by
      have most := (line begins).one kept
      rw [← run] at most
      omega
    exact
      { ends := fun k begins => (line begins).ran
        last := ⟨j, begins, run⟩
        exact := by
          rw [run]
          exact (line begins).exact
        some := some
        most := run ▸ (line begins).most
        one := fun kept => one (kept j begins)
        more := by
          rintro ⟨k, begins', late⟩
          have more := (line begins').more late
          -- The pictures tell that this run is the last one.
          have last : k = j := by
            rcases Nat.lt_trichotomy k j with less | same | more'
            · have frames := begins.frames (k + 1) less
              omega
            · exact same
            · have frames := begins'.frames (j + 1) more'
              rw [← run] at frames
              omega
          rw [run, ← last]
          exact more
        alone := fun absent => one ((line begins).late absent) }

theorem pictureLines_fresh (m : Machine) :
    (fresh m).pictureLines = m.board.antic.linesPerFrame :=
  congrArg Board.Fittings.linesPerFrame m.fittings_hardReset

theorem runsFrame_blank :
    (fresh blankMachine).Reachable ∧ (fresh blankMachine).machine.RunsFrame := by
  have lines : blankMachine.board.antic.linesPerFrame = 262 := rfl
  have room : Cpu.interruptCycles.toNat + 2 * 262 * (114 + longestCall) + longestDelay <
    never.toNat := by decide
  refine ⟨reachable_blank, reachable_blank.runsFrame ?_⟩
  rw [total_fresh, pictureLines_fresh, lines]
  exact room

end Session

end Atari800XL
