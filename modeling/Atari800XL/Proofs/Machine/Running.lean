import Atari800XL.Proofs.Cpu.Runs
import Atari800XL.Proofs.FileDevice.Time
import Atari800XL.Proofs.Machine.Service

namespace Atari800XL

open FileDevice

theorem Board.timed_takeHook (hook : Hook) (cpu : Cpu) (b : Board) :
    ((takeHook hook cpu b).1 = true →
      ∃ c : UInt64, (takeHook hook cpu b).2.1.total = cpu.total + c ∧
        0 < c.toNat ∧ c.toNat ≤ longestCall) ∧
      ((takeHook hook cpu b).1 = false → (takeHook hook cpu b).2.1 = cpu) := by
  cases hook with
  | deviceCall =>
    have timed := timed_call cpu b.device b.memory
    exact ⟨timed.taken, timed.left⟩
  | putByte =>
    have timed := timed_putByte cpu b.device b.memory
    exact ⟨timed.taken, timed.left⟩

namespace Observed

variable {o : Observed} {cpu : Cpu}

theorem total_step (cpu : Cpu) (o : Observed) :
    ∃ c : UInt64, (cpu.step o).1.total = cpu.total + c ∧ 0 < c.toNat ∧ c.toNat ≤ longestCall := by
  obtain ⟨c, total, least, most⟩ := cpu.total_step o
  exact ⟨c, total, Nat.lt_of_lt_of_le (by decide) least, Nat.le_trans most (by decide)⟩

theorem total_stepHooked (cpu : Cpu) (o : Observed) :
    ∃ c : UInt64, (cpu.stepHooked o).1.total = cpu.total + c ∧
      0 < c.toNat ∧ c.toNat ≤ longestCall := by
  cases hooked : cpu.hookAt cpu.regs.pc with
  | none =>
    rw [stepHooked_of_none hooked]
    exact total_step cpu _
  | some hook =>
    obtain ⟨taken, left⟩ := Board.timed_takeHook hook cpu (o.start cpu.total).board
    rw [stepHooked_of_some hooked]
    dsimp only
    split
    · exact taken ‹_›
    · have same : (takeHook hook cpu (o.start cpu.total)).2.1 = cpu :=
        left (Bool.eq_false_iff.2 ‹_›)
      rw [same]
      exact total_step cpu _

theorem lineFetch_write (o : Observed) (address : UInt16) (value : UInt8) :
    (Bus.write o address value).board.schedule.lineFetch = o.board.schedule.lineFetch := by
  show (o.board.write address value).schedule.deadline .lineFetch =
    o.board.schedule.deadline .lineFetch
  cases asks : o.board.asksToWait address with
  | false => exact (Board.sets_write asks value).deadline fun own => own.1 rfl
  | true =>
    rw [Board.write_of_asksToWait asks]
    unfold Antic.waitForLine
    split
    · rfl
    · exact Schedule.deadline_stallTo _ _ _

theorem lineFetch_stepHooked (cpu : Cpu) (o : Observed) :
    (cpu.stepHooked o).2.board.schedule.lineFetch = o.board.schedule.lineFetch := by
  have keeps : Bus.Keeps fun o' : Observed =>
      o'.board.schedule.lineFetch = o.board.schedule.lineFetch :=
    { read := fun o' address same => by
        have read := (Board.pushed_read o'.board address).schedule
        exact (congrArg Schedule.lineFetch read).trans same
      write := fun o' address value same => (lineFetch_write o' address value).trans same }
  refine stepHooked_keeps keeps ?_ rfl
  intro hook cpu o' same
  exact (congrArg Schedule.lineFetch (Board.quiet_takeHook hook cpu o'.board).schedule).trans same

end Observed

theorem Machine.ready_perform (m : Machine) (c : Call) :
    (m.perform c).cpu.ready = m.cpu.ready := by
  rcases (m.touched_perform c).cpu with same | asked
  · rw [same]
  · rw [asked]
    rfl

namespace Session

variable {s s' : Session} {target : UInt64}

theorem due_of_lt (h : s.cpu.total < s.observed.board.schedule.next) : s.due = none :=
  Schedule.due_of_lt h

theorem Reachable.due_eq_none_iff (h : s.Reachable) :
    s.due = none ↔ s.cpu.total < s.observed.board.schedule.next :=
  h.sound.exact.due_eq_none_iff

theorem Reachable.total_lt_deadline (h : s.Reachable) (none : s.due = none) (e : Event) :
    s.cpu.total.toNat < (s.observed.board.schedule.deadline e).toNat :=
  UInt64.lt_iff_toNat_lt.1
    (UInt64.lt_of_lt_of_le (h.due_eq_none_iff.1 none) (h.sound.exact.next_le e))

theorem Reachable.total_lt_line (h : s.Reachable) (none : s.due = none) :
    s.cpu.total.toNat < s.line := h.total_lt_deadline none .lineFetch

theorem Services.move_board (h : Services s s') (due : s.due ≠ none) (target : UInt64) :
    s.cpu.move s.observed.board target = (s'.cpu, s'.observed.board) := by
  have next : s.observed.board.schedule.next ≤ s.cpu.total :=
    UInt64.not_lt.1 (mt due_of_lt due)
  rw [← h.board_eq]
  exact Cpu.move_due next

structure Moves (s : Session) (target : UInt64) : Prop where
  board : s.cpu.move s.observed.board target =
    ((s.move target).cpu, (s.move target).observed.board)
  onward : s.cpu.total.toNat < (s.move target).cpu.total.toNat
  near_target : (s.move target).cpu.total.toNat ≤ target.toNat + longestCall
  near_line : (s.move target).cpu.total.toNat ≤ s.line + longestCall
  line : (s.move target).line = s.line

theorem moves_halted (next : s.cpu.total < s.observed.board.schedule.next)
    (first : s.observed.board.schedule.next ≤ s.observed.board.schedule.lineFetch)
    (before : s.cpu.total < target)
    (stall : s.cpu.total < s.observed.board.schedule.stallUntil) : s.Moves target := by
  let stop := min (min s.observed.board.schedule.stallUntil s.observed.board.schedule.next) target
  have halted : s.move target = { s with cpu := { s.cpu with total := stop } } := by
    unfold Session.move
    rw [Cpu.move_halted (UInt64.not_le.2 next) stall]
    rfl
  have after : s.cpu.total < stop := by
    refine UInt64.not_le.1 fun early => ?_
    rcases Std.min_le.1 early with early | early
    · rcases Std.min_le.1 early with early | early
      · exact UInt64.not_le.2 stall early
      · exact UInt64.not_le.2 next early
    · exact UInt64.not_le.2 before early
  have target_le : stop ≤ target := Std.min_le.2 (.inr (UInt64.le_refl target))
  have line_le : stop ≤ s.observed.board.schedule.lineFetch :=
    Std.min_le.2 (.inl (Std.min_le.2 (.inr first)))
  exact
    { board := by
        rw [halted, Cpu.move_halted (UInt64.not_le.2 next) stall]
        rfl
      onward := by
        rw [halted]
        exact UInt64.lt_iff_toNat_lt.1 after
      near_target := by
        rw [halted]
        exact Nat.le_trans (UInt64.le_iff_toNat_le.1 target_le) (Nat.le_add_right _ _)
      near_line := by
        rw [halted]
        exact Nat.le_trans (UInt64.le_iff_toNat_le.1 line_le) (Nat.le_add_right _ _)
      line := by
        rw [halted]
        rfl }

theorem moves_started (fits : Fits s.cpu.total)
    (next : s.cpu.total < s.observed.board.schedule.next)
    (first : s.observed.board.schedule.next ≤ s.observed.board.schedule.lineFetch)
    (before : s.cpu.total < target)
    (stall : ¬s.cpu.total < s.observed.board.schedule.stallUntil) : s.Moves target := by
  have started : s.cpu.move s.observed target = s.cpu.stepHooked s.observed :=
    Cpu.move_started (UInt64.not_le.2 next) stall
  have alone : s.cpu.move s.observed.board target = s.cpu.stepHooked s.observed.board :=
    Cpu.move_started (UInt64.not_le.2 next) stall
  have cpu : (s.move target).cpu = (s.cpu.stepHooked s.observed).1 := congrArg Prod.fst started
  have observed : (s.move target).observed = (s.cpu.stepHooked s.observed).2 :=
    congrArg Prod.snd started
  obtain ⟨c, total, some, most⟩ := Observed.total_stepHooked s.cpu s.observed
  have time : (s.move target).cpu.total.toNat = s.cpu.total.toNat + c.toNat := by
    rw [cpu, total]
    exact (fits.add (Nat.le_trans most (by decide))).1
  have before := UInt64.lt_iff_toNat_lt.1 before
  have line : s.cpu.total.toNat < s.line :=
    UInt64.lt_iff_toNat_lt.1 (UInt64.lt_of_lt_of_le next first)
  exact
    { board := by
        rw [alone, Observed.stepHooked_board, cpu, observed]
      onward := by omega
      near_target := by omega
      near_line := by omega
      line := by
        rw [Session.line, observed, Observed.lineFetch_stepHooked]
        rfl }

theorem Reachable.moves (h : s.Reachable) (fits : Fits s.cpu.total) (before : s.cpu.total < target)
    (none : s.due = none) : s.Moves target := by
  have next := h.due_eq_none_iff.1 none
  have first := h.sound.exact.next_le .lineFetch
  by_cases stall : s.cpu.total < s.observed.board.schedule.stallUntil
  · exact moves_halted next first before stall
  · exact moves_started fits next first before stall

def backlog : Nat := longestCall + lineInterrupts

theorem latest_call (s : Session) (c : Machine.Call) :
    (s.call c).latest = s.latest ∧ (s.call c).line = s.line := by
  have ready : (s.call c).cpu.ready = s.cpu.ready := s.machine.ready_perform c
  have schedule : (s.call c).observed.board.schedule = s.observed.board.schedule :=
    (s.machine.quiet_perform c).schedule
  unfold latest line
  rw [ready, schedule]
  exact ⟨rfl, rfl⟩

theorem latest_fresh_le (m : Machine) : (fresh m).latest ≤ backlog := by
  have latest := (fresh m).latest_le
  rw [total_fresh] at latest
  exact Nat.le_trans latest (by decide)

theorem Reachable.latest_le_line (h : s.Reachable) : s.latest ≤ s.line + backlog := by
  induction h with
  | powerOn setup os basic store flags =>
    exact Nat.le_trans (latest_fresh_le _) (Nat.le_add_left _ _)
  | @step s _ h next ih =>
    cases next with
    | @handle event deadline fits due =>
      by_cases line : event = .lineFetch
      · subst line
        obtain ⟨latest, line⟩ := h.handle_lineFetch fits due
        have shorter : lineInterrupts ≤ Display.cyclesPerLine.toNat := by decide
        omega
      · have latest := h.latest_handle_le fits due line
        have same := h.line_handle line deadline
        omega
    | @move target fits before none =>
      have moves := h.moves fits before none
      have latest := (s.move target).latest_le
      have near := moves.near_line
      rw [moves.line]
      unfold backlog
      omega
    | call c =>
      obtain ⟨latest, line⟩ := s.latest_call c
      rw [latest, line]
      exact ih
    | hardReset => exact Nat.le_trans (latest_fresh_le _) (Nat.le_add_left _ _)

theorem Reachable.horizon_le (h : s.Reachable) : s.horizon ≤ s.cpu.total.toNat + longestCall := by
  have late := h.latest_le_line
  have latest := s.latest_le
  have call : longestCall = 655560 := rfl
  have interrupts : lineInterrupts = 14 := rfl
  have rest : lineRest = 100 := rfl
  unfold backlog at late
  unfold horizon
  rw [interrupts] at latest late
  rw [interrupts, rest]
  omega

/-- A run to `target`: where nothing is due the processor moves, and what is due is handled. -/
inductive Travels (target : UInt64) : Session → Session → Prop
  | done {s : Session} : ¬s.cpu.total < target → Travels target s s
  | move {s s' : Session} : Fits s.cpu.total → s.cpu.total < target → s.due = none →
      Travels target (s.move target) s' → Travels target s s'
  | service {s s₁ s' : Session} : s.cpu.total < target → s.due ≠ none → Services s s₁ →
      Travels target s₁ s' → Travels target s s'

namespace Travels

theorem reachable (h : Travels target s s') (reach : s.Reachable) : s'.Reachable := by
  induction h with
  | done _ => exact reach
  | move fits before none _ ih => exact ih (.step reach (.move fits before none))
  | service _ _ services _ ih => exact ih (services.reachable reach)

theorem runs (h : Travels target s s') (reach : s.Reachable) :
    Cpu.Runs target s.cpu s.observed.board s'.cpu s'.observed.board := by
  induction h with
  | done after => exact .done after
  | move fits before none _ ih =>
    refine .move before ?_
    rw [(reach.moves fits before none).board]
    exact ih (.step reach (.move fits before none))
  | service before due services _ ih =>
    refine .move before ?_
    rw [services.move_board due]
    exact ih (services.reachable reach)

end Travels

theorem Reachable.travels {s : Session} (h : s.Reachable) (target : UInt64)
    (room : target.toNat + longestCall + longestDelay < never.toNat) :
    ∃ s' : Session, Travels target s s' ∧
      s'.cpu.total.toNat ≤ max s.cpu.total.toNat (target.toNat + longestCall) := by
  by_cases before : s.cpu.total < target
  case neg => exact ⟨s, .done before, Nat.le_max_left _ _⟩
  have lt := UInt64.lt_iff_toNat_lt.1 before
  have fits : Fits s.cpu.total := by
    unfold Fits
    omega
  by_cases none : s.due = none
  -- A move brings the clock nearer to the target. Handling events may leave it where it is, but
  -- then nothing is due.
  · have moves := h.moves fits before none
    have onward := moves.onward
    have near := moves.near_target
    obtain ⟨s', rest, total⟩ := (h.step (.move fits before none)).travels target room
    exact ⟨s', .move fits before none rest, by omega⟩
  · have horizon := h.horizon_le
    obtain ⟨s₁, services⟩ := h.services (target.toNat + longestCall) (by omega) room
    have onward := services.onward
    have near := services.horizon_le h
    have ahead := s₁.total_le_horizon
    have handled := services.due_eq_none
    obtain ⟨s', rest, total⟩ := (services.reachable h).travels target room
    exact ⟨s', .service before none services rest, by omega⟩
termination_by 2 * (target.toNat - s.cpu.total.toNat) + if s.due = none then 0 else 1
decreasing_by
  · rw [if_pos none]
    split <;> omega
  · rw [if_neg none, if_pos handled]
    omega

theorem Reachable.run (h : s.Reachable) (cycles : UInt64)
    (room : s.cpu.total.toNat + cycles.toNat + longestCall + longestDelay < never.toNat) :
    ∃ s' : Session, Travels (s.cpu.total + cycles) s s' ∧ s'.machine = s.machine.run cycles ∧
      s.cpu.total.toNat + cycles.toNat ≤ s'.cpu.total.toNat ∧
        s'.cpu.total.toNat ≤ s.cpu.total.toNat + cycles.toNat + longestCall := by
  have size : never.toNat < UInt64.size := by decide
  have target : (s.cpu.total + cycles).toNat = s.cpu.total.toNat + cycles.toNat := by
    rw [UInt64.toNat_add]
    exact Nat.mod_eq_of_lt (show _ < UInt64.size by omega)
  obtain ⟨s', travels, total⟩ := h.travels (s.cpu.total + cycles) (by omega)
  have runs := travels.runs h
  have reaches := UInt64.le_iff_toNat_le.1 runs.reaches
  refine ⟨s', travels, ?_, by omega, by omega⟩
  have run := runs.run_eq
  simp only [machine, Machine.run]
  rw [run]

theorem Reachable.runWhileFrame {s : Session} (h : s.Reachable) (frames : Nat) {lines : Nat}
    (room : s.cpu.total.toNat + lines * (Display.cyclesPerLine.toNat + longestCall) +
      longestDelay < never.toNat) :
    ∃ s' : Session, s'.Reachable ∧ s'.machine = s.machine.runWhileFrame frames lines := by
  induction lines generalizing s with
  | zero => exact ⟨s, h, rfl⟩
  | succ lines ih =>
    rw [Machine.runWhileFrame]
    split
    · rw [Nat.succ_mul] at room
      obtain ⟨s₁, travels, run, -, total⟩ := h.run Display.cyclesPerLine (by omega)
      rw [← run]
      exact ih (travels.reachable h) (by omega)
    · exact ⟨s, h, rfl⟩

theorem Reachable.runFrame (h : s.Reachable)
    (room : s.cpu.total.toNat + 2 * s.observed.board.antic.linesPerFrame *
      (Display.cyclesPerLine.toNat + longestCall) + longestDelay < never.toNat) :
    ∃ s' : Session, s'.Reachable ∧ s'.machine = s.machine.runFrame :=
  h.runWhileFrame s.observed.board.frames room

end Session

namespace Machine

/-- The machines that a host gets that switches one on and then runs and calls it. -/
inductive Hosted : Machine → Prop
  | powerOn (setup : Setup) (os : Bytes RomKind.os.size) (basic : Option (Bytes RomKind.basic.size))
      (store : Files.Store) (flags : TraceFlags) :
      Hosted (assembled setup (Memory.create os basic) store flags).hardReset
  | run {m : Machine} (cycles : UInt64) : Hosted m →
      m.cpu.total.toNat + cycles.toNat + longestCall + longestDelay < never.toNat →
      Hosted (m.run cycles)
  | runFrame {m : Machine} : Hosted m →
      m.cpu.total.toNat + 2 * m.board.antic.linesPerFrame *
        (Display.cyclesPerLine.toNat + longestCall) + longestDelay < never.toNat →
      Hosted m.runFrame
  | call {m : Machine} (c : Call) : Hosted m → Hosted (m.perform c)
  | hardReset {m : Machine} : Hosted m → Hosted m.hardReset

theorem Hosted.reachable {m : Machine} (h : m.Hosted) :
    ∃ s : Session, s.Reachable ∧ s.machine = m := by
  induction h with
  | powerOn setup os basic store flags => exact ⟨_, .powerOn setup os basic store flags, rfl⟩
  | run cycles _ room ih =>
    obtain ⟨s, reach, rfl⟩ := ih
    obtain ⟨s', travels, run, -⟩ := reach.run cycles room
    exact ⟨s', travels.reachable reach, run⟩
  | runFrame _ room ih =>
    obtain ⟨s, reach, rfl⟩ := ih
    exact reach.runFrame room
  | call c _ ih =>
    obtain ⟨s, reach, rfl⟩ := ih
    exact ⟨s.call c, .step reach (.call c), rfl⟩
  | hardReset _ ih =>
    obtain ⟨s, reach, rfl⟩ := ih
    exact ⟨Session.fresh s.machine, .step reach .hardReset, rfl⟩

end Machine

end Atari800XL
