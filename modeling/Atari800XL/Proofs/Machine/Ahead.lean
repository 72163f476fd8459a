import Atari800XL.Proofs.Machine.Running

namespace Atari800XL

theorem Fits.le_add {cycle delay : UInt64} (h : Fits cycle) (short : delay.toNat ≤ longestDelay) :
    cycle ≤ cycle + delay := by
  rw [UInt64.le_iff_toNat_le, (h.add short).1]
  exact Nat.le_add_right _ _

namespace Schedule

variable {s : Schedule} {cycle : UInt64}

def NotBefore (s : Schedule) (cycle : UInt64) : Prop := ∀ e, cycle ≤ s.deadline e

theorem NotBefore.set (h : s.NotBefore cycle) (e : Event) {deadline : UInt64}
    (le : cycle ≤ deadline) : (s.set e deadline).NotBefore cycle := by
  intro f
  rw [deadline_set]
  split
  · exact le
  · exact h f

theorem NotBefore.clear (h : s.NotBefore cycle) (e : Event) : (s.clear e).NotBefore cycle :=
  h.set e (UInt64.le_iff_toNat_le.2 (Nat.le_of_lt_succ cycle.toNat_lt))

theorem NotBefore.stallTo (h : s.NotBefore cycle) (stall : UInt64) :
    (s.stallTo stall).NotBefore cycle := by
  intro f
  rw [deadline_stallTo]
  exact h f

end Schedule

namespace Pokey

variable {now : UInt64} (fits : Fits now) (p : Pokey) {s : Schedule}
include fits

theorem notBefore_setTimer (h : s.NotBefore now) (t : Timer) :
    (p.setTimer now s t).NotBefore now := by
  unfold setTimer
  split
  · exact h.set _ (fits.le_add (p.bounded_period t).2)
  · exact h.clear _

theorem notBefore_setTimers (h : s.NotBefore now) (timers : List Timer) :
    (timers.foldl (p.setTimer now) s).NotBefore now := by
  induction timers generalizing s with
  | nil => exact h
  | cons t timers ih => exact ih (notBefore_setTimer fits p h t)

theorem notBefore_send (h : s.NotBefore now) : (p.send now s).2.NotBefore now := by
  have needed : now ≤ now + byteCycles := fits.le_add (by decide)
  have drained : now ≤ now + byteCycles + drainCycles := by
    rw [UInt64.add_assoc]
    exact fits.le_add (by decide)
  exact (h.set .serialOutNeeded needed).set .serialOutDone drained

theorem notBefore_write (h : s.NotBefore now) (register value : UInt8) :
    (p.write register value now s).2.NotBefore now := by
  unfold write
  dsimp only
  split
  case h_9 => exact notBefore_setTimers fits _ h _
  case h_10 => exact notBefore_setTimers fits _ h _
  case h_13 => exact notBefore_send fits _ h
  case h_14 => exact notBefore_setTimers fits _ h _
  case h_15 =>
    unfold setSerialControl
    dsimp only
    split
    · exact notBefore_setTimers fits _ h _
    · split
      · exact notBefore_setTimers fits _ h _
      · exact h
  all_goals exact h

end Pokey

theorem Antic.notBefore_write {s : Schedule} {cycle : UInt64} (h : s.NotBefore cycle) (a : Antic)
    (register value : UInt8) : (a.write register value s).2.NotBefore cycle := by
  rcases Board.antic_write a register value s with same | waits
  · rw [same]
    exact h
  · rw [waits]
    unfold waitForLine
    split
    · exact h
    · exact h.stallTo _

namespace Antic

theorem toNat_interruptDeadline {start : UInt64} (fits : Fits start) {count : Nat}
    (few : count ≤ 16) :
    (interruptDeadline start count).toNat = start.toNat + ((count - 1) * 114 + 8) ∧
      interruptDeadline start count ≠ never := by
  have lines : (UInt64.ofNat (count - 1) * Display.cyclesPerLine + interruptDelay).toNat =
      (count - 1) * 114 + 8 := by
    have cycles : Display.cyclesPerLine.toNat = 114 := rfl
    have delay : interruptDelay.toNat = 8 := rfl
    have small : count - 1 ≤ 15 := Nat.sub_le_sub_right few 1
    rw [UInt64.toNat_add, UInt64.toNat_mul, UInt64.toNat_ofNat', cycles, delay,
      Nat.mod_eq_of_lt (show count - 1 < 2 ^ 64 by omega),
      Nat.mod_eq_of_lt (show (count - 1) * 114 < 2 ^ 64 by omega),
      Nat.mod_eq_of_lt (show (count - 1) * 114 + 8 < 2 ^ 64 by omega)]
  have longest : longestDelay = 0x10000 * 114 := rfl
  have short : (UInt64.ofNat (count - 1) * Display.cyclesPerLine + interruptDelay).toNat ≤
      longestDelay := by omega
  have sum := fits.add short
  rw [lines, ← UInt64.add_assoc] at sum
  exact sum

theorem le_interruptDeadline {start : UInt64} (fits : Fits start) {count : Nat}
    (few : count ≤ 16) : start ≤ interruptDeadline start count := by
  rw [UInt64.le_iff_toNat_le, (toNat_interruptDeadline fits few).1]
  exact Nat.le_add_right _ _

theorem notBefore_fetchInstruction {start : UInt64} (fits : Fits start) {s : Schedule}
    (h : s.NotBefore start) (a : Antic) (m : Memory) (line : Nat) :
    (a.fetchInstruction m line start s).schedule.NotBefore start := by
  unfold fetchInstruction
  dsimp only
  split
  · exact h.set _ (le_interruptDeadline fits (count_perform_bounds _ _ _).2)
  · exact h

theorem notBefore_processLine {start : UInt64} (fits : Fits start) {s : Schedule}
    (h : s.NotBefore start) (a : Antic) (m : Memory) (g : Gtia) :
    (a.processLine m g start s).schedule.NotBefore start := by
  have display {l : LineState} (same : l.schedule = s) (line : Nat) :
      (l.display m line start).schedule.NotBefore start := by
    show (((l.fetchObjects m line).followList m line start).drawPlayfield m
      line).schedule.NotBefore start
    rw [LineState.schedule_drawPlayfield]
    unfold LineState.followList
    subst same
    split
    · exact h
    · split
      · exact notBefore_fetchInstruction fits h _ m line
      · exact h
  unfold processLine
  dsimp only
  split
  · exact display rfl _
  · exact h

end Antic

namespace Board

variable {b : Board}

def Ahead (b : Board) : Prop := b.schedule.NotBefore b.clock

theorem ahead_expectReply (h : b.Ahead) (fits : Fits b.clock)
    (timed : ∀ r ∈ b.sio.replies, r.Timed) : (b.expectReply b.clock).Ahead := by
  unfold expectReply Disk.Sio.nextDelay
  split
  · exact h
  · cases replies : b.sio.replies with
    | nil => exact h
    | cons r rest =>
      have short : r.delay.toNat ≤ longestDelay :=
        Nat.le_trans (UInt64.le_iff_toNat_le.1 (timed r (replies ▸ List.mem_cons_self)).2)
          (by decide)
      exact Schedule.NotBefore.set h .serialInReady (fits.le_add short)

theorem ahead_sendToDrives (h : b.Ahead) (fits : Fits b.clock)
    (timed : ∀ r ∈ b.sio.replies, r.Timed) (byte : UInt8) : (b.sendToDrives byte).Ahead := by
  have answers := Disk.Sio.answers_putByte b.sio b.rack byte
  unfold sendToDrives
  dsimp only
  cases renewed : (b.sio.putByte b.rack byte).renewed with
  | true =>
    rw [if_pos rfl]
    refine ahead_expectReply ?_ fits (answers.renewed renewed).wellTimed.2
    exact Schedule.NotBefore.clear h .serialInReady
  | false =>
    rw [if_neg Bool.false_ne_true]
    refine ahead_expectReply h fits ?_
    show ∀ r ∈ (b.sio.putByte b.rack byte).sio.replies, r.Timed
    rw [answers.kept renewed]
    exact timed

theorem ahead_write (h : b.Ahead) (fits : Fits b.clock) (timed : ∀ r ∈ b.sio.replies, r.Timed)
    (address : UInt16) (value : UInt8) : (b.write address value).Ahead := by
  unfold Board.write
  split
  case h_4 =>
    let written := b.pokey.write (lowByte address) value b.clock b.schedule
    have ahead : { b with pokey := written.1, schedule := written.2 }.Ahead :=
      Pokey.notBefore_write fits b.pokey h (lowByte address) value
    unfold writePokey
    dsimp only
    split
    · exact ahead_sendToDrives ahead fits timed value
    · exact ahead
  case h_5 =>
    rw [Ahead, schedule_applyPorts, clock_applyPorts]
    exact h
  case h_6 => exact Antic.notBefore_write h b.antic (lowByte address) value
  all_goals exact h

theorem ahead_settle {event : Event} {deadline : UInt64} (fits : Fits deadline)
    (timed : ∀ r ∈ b.sio.replies, r.Timed) (first : b.schedule.NotBefore deadline) :
    (b.settle event deadline).Ahead := by
  intro other
  rw [clock_settle]
  by_cases own : other = event
  · subst own
    exact UInt64.le_of_lt (lt_deadline_settle fits timed other)
  · by_cases line : event = .lineFetch
    · subst line
      have processed := Antic.notBefore_processLine fits first b.antic b.memory b.gtia
      exact (processed.stallTo _).set .lineFetch (fits.le_add (by decide)) other
    · rw [deadline_settle own (fun same => absurd same line)]
      exact first other

theorem clock_stepHooked (cpu : Cpu) (b : Board) : (cpu.stepHooked b).2.clock = cpu.total := by
  have keeps : Bus.Keeps fun b : Board => b.clock = cpu.total :=
    { read := fun b address same => (pushed_read b address).clock.trans same
      write := fun b address value same => (b.clock_write address value).trans same }
  refine Cpu.stepHooked_keeps keeps ?_ rfl
  intro hook cpu' b same
  exact (quiet_takeHook hook cpu' b).clock.trans same

end Board

namespace Observed

theorem invariant_ahead : Observed.Invariant fun o => o.RepliesTimed ∧ o.board.Ahead where
  reset m := by
    refine ⟨.reset m, ?_⟩
    intro e
    dsimp only
    rw [m.clock_hardReset]
    exact UInt64.zero_le
  quiet h quiet := by
    refine ⟨h.1.quiet quiet, ?_⟩
    dsimp only [Board.Ahead]
    rw [quiet.schedule, quiet.clock]
    exact h.2
  start h sound fits next _ := by
    refine ⟨h.1.start sound fits next, ?_⟩
    intro e
    exact UInt64.le_of_lt (UInt64.lt_of_lt_of_le next (sound.exact.next_le e))
  write o address value h :=
    ⟨h.1.write address value, Board.ahead_write h.2 h.1.clock h.1.timed address value⟩
  settle h sound fits own first :=
    ⟨h.1.settle sound fits own, Board.ahead_settle fits h.1.timed first⟩

end Observed

namespace Session

variable {s : Session}

theorem Reachable.ahead (h : s.Reachable) : s.observed.board.Ahead :=
  (Observed.invariant_ahead.reachable h).2.2

theorem clock_move_le (next : s.cpu.total < s.observed.board.schedule.next)
    (le : s.observed.board.clock ≤ s.cpu.total) (target : UInt64) :
    (s.move target).observed.board.clock ≤ s.cpu.total := by
  have waits : ¬TimedBus.nextEvent s.observed ≤ s.cpu.total := UInt64.not_le.2 next
  unfold Session.move
  by_cases stall : TimedBus.stallUntil s.observed > s.cpu.total
  · rw [Cpu.move_halted waits stall]
    exact le
  · rw [Cpu.move_started waits stall]
    have clock := Board.clock_stepHooked s.cpu s.observed.board
    rw [Observed.stepHooked_board] at clock
    exact UInt64.le_of_eq clock

theorem Reachable.clock_handle (h : s.Reachable) (event : Event) (deadline : UInt64) :
    (s.handle event deadline).observed.board.clock = deadline :=
  (Board.pushed_handle h.sound.low s.cpu event deadline).clock.trans (Board.clock_settle _ _ _)

theorem Reachable.clock_le (h : s.Reachable) : s.observed.board.clock ≤ s.cpu.total := by
  have reset (m : Machine) : (fresh m).observed.board.clock ≤ (fresh m).cpu.total := by
    have zero : (fresh m).observed.board.clock = 0 := m.clock_hardReset
    rw [zero]
    exact UInt64.zero_le
  induction h with
  | powerOn setup os basic store flags => exact reset _
  | @step s _ h next ih =>
    cases next with
    | @handle event deadline fits due =>
      have onward := (delayed_handle fits event deadline).onward
      rw [h.clock_handle]
      exact UInt64.le_trans (h.due_spec due).2 (UInt64.le_iff_toNat_le.2 onward)
    | @move target fits before none =>
      have onward := (h.moves fits before none).onward
      exact UInt64.le_trans (clock_move_le (h.due_eq_none_iff.1 none) ih target)
        (UInt64.le_iff_toNat_le.2 (Nat.le_of_lt onward))
    | call c =>
      have clock : (s.call c).observed.board.clock = s.observed.board.clock :=
        (s.machine.quiet_perform c).clock
      have total : (s.call c).cpu.total = s.cpu.total := s.machine.total_perform c
      rw [clock, total]
      exact ih
    | hardReset => exact reset _

end Session

end Atari800XL
