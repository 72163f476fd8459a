import Mathlib.Algebra.Order.BigOperators.Group.List
import Mathlib.Algebra.Order.Ring.Nat
import Atari800XL.Proofs.Cpu.Time
import Atari800XL.Proofs.Machine.Replies
import Atari800XL.Proofs.Pokey.Periods

/-! Handling all that is due comes to an end. Interrupts that are entered on the way let the clock
run after the deadlines, but lines are longer than the interrupts that they bring, so that the clock
stays before a horizon, and every event moves its deadline on to that. -/

namespace Atari800XL

namespace Fits

variable {cycle : UInt64} (h : Fits cycle)
include h

theorem interrupted :
    (cycle + Cpu.interruptCycles).toNat = cycle.toNat + Cpu.interruptCycles.toNat :=
  (h.add (by decide)).1

theorem lt_never : cycle < never :=
  UInt64.lt_iff_toNat_lt.2 (Nat.lt_of_le_of_lt (Nat.le_add_right _ _) h)

theorem lt_add {delay : UInt64} (some : 0 < delay.toNat) (short : delay.toNat ≤ longestDelay) :
    cycle < cycle + delay := by
  rw [UInt64.lt_iff_toNat_lt, (h.add short).1]
  exact Nat.lt_add_of_pos_right some

end Fits

namespace Board

variable {b : Board} {cpu : Cpu} {deadline : UInt64}

def nmiCycles : Event → Nat
  | .lineFetch | .displayListInterrupt => Cpu.interruptCycles.toNat
  | _ => 0

theorem delayed_raiseIf (fits : Fits cpu.total) (asked : Bool) (b : Board) (source : String) :
    cpu.Delayed 0 (raiseIf asked cpu b source).1 := by
  unfold raiseIf
  split
  · exact Cpu.delayed_irq fits.interrupted _
  · exact .refl 0 cpu

theorem delayed_handle (fits : Fits cpu.total) (b : Board) (event : Event) (deadline : UInt64) :
    cpu.Delayed (nmiCycles event) (handle cpu b event deadline).1 := by
  cases event with
  | lineFetch =>
    unfold handle lineFetch
    dsimp only
    split
    · exact Cpu.delayed_nmi fits.interrupted _
    · exact .refl _ cpu
  | displayListInterrupt =>
    unfold handle listInterrupt
    dsimp only
    split
    · exact Cpu.delayed_nmi fits.interrupted _
    · exact .refl _ cpu
  | serialInReady =>
    unfold handle serialInReady
    dsimp only
    split
    · exact .refl _ cpu
    · exact delayed_raiseIf fits _ _ _
  | serialOutNeeded => exact delayed_raiseIf fits _ _ _
  | serialOutDone => exact delayed_raiseIf fits _ _ _
  | timer1 => exact delayed_raiseIf fits _ _ _
  | timer2 => exact delayed_raiseIf fits _ _ _
  | timer4 => exact delayed_raiseIf fits _ _ _

theorem lt_deadline_timerDue (fits : Fits deadline) (p : Pokey) (t : Pokey.Timer) (s : Schedule) :
    deadline < (p.timerDue t deadline s).2.2.deadline t.event := by
  unfold Pokey.timerDue
  split
  · dsimp only
    rw [Schedule.clear, Schedule.deadline_set, if_pos rfl]
    exact fits.lt_never
  · dsimp only
    rw [Schedule.deadline_set, if_pos rfl]
    have period := (p.raise t.source).2.bounded_period t
    exact fits.lt_add (Nat.lt_of_lt_of_le (by decide) period.1) period.2

theorem lt_deadline_settle (fits : Fits deadline) (timed : ∀ r ∈ b.sio.replies, r.Timed)
    (event : Event) : deadline < (b.settle event deadline).schedule.deadline event := by
  cases event with
  | lineFetch =>
    obtain ⟨s, -, settled⟩ := schedule_settle_lineFetch b deadline
    rw [settled, Schedule.deadline_set, if_pos rfl]
    exact fits.lt_add (by decide) (by decide)
  | displayListInterrupt => exact fits.lt_never
  | serialOutNeeded => exact fits.lt_never
  | serialOutDone => exact fits.lt_never
  | timer1 => exact lt_deadline_timerDue fits _ .one _
  | timer2 => exact lt_deadline_timerDue fits _ .two _
  | timer4 => exact lt_deadline_timerDue fits _ .four _
  | serialInReady =>
    cases replies : b.sio.replies with
    | nil =>
      have pop : b.sio.pop = none := by rw [Disk.Sio.pop, replies]
      unfold settle
      dsimp only
      rw [pop]
      exact fits.lt_never
    | cons r rest =>
      obtain ⟨-, -, next⟩ := settle_serialInReady replies deadline
      show deadline < (b.settle .serialInReady deadline).replyDeadline
      rw [next]
      cases rest with
      | nil => exact fits.lt_never
      | cons r' rest =>
        have short := timed r' (replies ▸ List.mem_cons_of_mem r List.mem_cons_self)
        have most : r'.delay.toNat ≤ longestDelay :=
          Nat.le_trans (UInt64.le_iff_toNat_le.1 short.2) (by decide)
        exact fits.lt_add (UInt64.lt_iff_toNat_lt.1 short.1) most

end Board

namespace Schedule

def waiting (s : Schedule) (horizon : Nat) : Nat :=
  (Event.all.map fun e => horizon + 1 - (s.deadline e).toNat).sum

theorem waiting_lt {s s' : Schedule} {horizon : Nat} {e : Event}
    (others : ∀ f, f ≠ e → s'.deadline f = s.deadline f) (later : s.deadline e < s'.deadline e)
    (due : (s.deadline e).toNat ≤ horizon) : s'.waiting horizon < s.waiting horizon := by
  have later : (s.deadline e).toNat < (s'.deadline e).toNat := UInt64.lt_iff_toNat_lt.1 later
  apply List.sum_lt_sum
  · intro f _
    by_cases same : f = e
    · subst same
      omega
    · rw [others f same]
  · have mem : e ∈ Event.all := by cases e <;> decide
    exact ⟨e, mem, by omega⟩

end Schedule

namespace Session

variable {s s' : Session} {event : Event} {deadline : UInt64}

def lineInterrupts : Nat := 2 * Cpu.interruptCycles.toNat
def lineRest : Nat := Display.cyclesPerLine.toNat - lineInterrupts

def line (s : Session) : Nat := s.observed.board.schedule.lineFetch.toNat

def announced (s : Schedule) : Nat :=
  if s.displayListInterrupt = never then 0 else Cpu.interruptCycles.toNat

def latest (s : Session) : Nat := s.cpu.ready + announced s.observed.board.schedule

def horizon (s : Session) : Nat :=
  s.latest + lineInterrupts * ((s.latest + lineRest - s.line) / lineRest)

theorem announced_le (s : Schedule) : announced s ≤ Cpu.interruptCycles.toNat := by
  unfold announced
  split
  · exact Nat.zero_le _
  · exact Nat.le_refl _

theorem total_le_latest (s : Session) : s.cpu.total.toNat ≤ s.latest :=
  Nat.le_trans (Cpu.total_le_ready s.cpu) (Nat.le_add_right _ _)

theorem latest_le (s : Session) : s.latest ≤ s.cpu.total.toNat + lineInterrupts := by
  have ready := Cpu.ready_le s.cpu
  have announced := announced_le s.observed.board.schedule
  have interrupts : lineInterrupts = Cpu.interruptCycles.toNat + Cpu.interruptCycles.toNat := rfl
  unfold latest
  omega

theorem total_le_horizon (s : Session) : s.cpu.total.toNat ≤ s.horizon :=
  Nat.le_trans s.total_le_latest (Nat.le_add_right _ _)

theorem Reachable.sound (h : s.Reachable) : s.observed.board.Sound :=
  (Observed.RepliesTimed.invariant.reachable h).1

theorem delayed_handle (fits : Fits s.cpu.total) (event : Event) (deadline : UInt64) :
    s.cpu.Delayed (Board.nmiCycles event) (s.handle event deadline).cpu :=
  Board.delayed_handle fits s.observed.board event deadline

section

variable (h : s.Reachable) (fits : Fits s.cpu.total)
include h

theorem Reachable.schedule_handle (event : Event) (deadline : UInt64) :
    (s.handle event deadline).observed.board.schedule =
      (s.observed.board.settle event deadline).schedule :=
  (Board.pushed_handle h.sound.low s.cpu event deadline).schedule

theorem Reachable.due_spec (due : s.due = some (event, deadline)) :
    s.observed.board.schedule.deadline event = deadline ∧ deadline ≤ s.cpu.total :=
  have spec := h.sound.exact.due due
  ⟨spec.1, spec.2.1⟩

theorem Reachable.line_le_latest (due : s.due = some (.lineFetch, deadline)) :
    s.line ≤ s.latest := by
  obtain ⟨own, le⟩ := h.due_spec due
  rw [← own] at le
  have late : s.line ≤ s.cpu.total.toNat := UInt64.le_iff_toNat_le.1 le
  exact Nat.le_trans late s.total_le_latest

theorem Reachable.line_handle (ne : event ≠ .lineFetch) (deadline : UInt64) :
    (s.handle event deadline).line = s.line := by
  rw [line, h.schedule_handle]
  exact congrArg UInt64.toNat
    (Board.deadline_settle ne.symm (fun same => absurd same ne) s.observed.board deadline)

include fits

theorem Reachable.handle_lineFetch (due : s.due = some (.lineFetch, deadline)) :
    (s.handle .lineFetch deadline).latest ≤ s.latest + lineInterrupts ∧
      (s.handle .lineFetch deadline).line = s.line + Display.cyclesPerLine.toNat := by
  obtain ⟨own, le⟩ := h.due_spec due
  refine ⟨?_, ?_⟩
  · have delayed := (delayed_handle fits .lineFetch deadline).ready_le
    have announced := announced_le (s.handle .lineFetch deadline).observed.board.schedule
    have interrupts : lineInterrupts =
      Board.nmiCycles .lineFetch + Cpu.interruptCycles.toNat := rfl
    unfold latest
    omega
  · obtain ⟨schedule, -, settled⟩ := Board.schedule_settle_lineFetch s.observed.board deadline
    have next : (s.handle .lineFetch deadline).line = (deadline + Display.cyclesPerLine).toNat := by
      rw [line, h.schedule_handle, settled]
      rfl
    rw [next, ((fits.mono le).add (by decide)).1, ← own]
    rfl

theorem Reachable.handle_list (due : s.due = some (.displayListInterrupt, deadline)) :
    (s.handle .displayListInterrupt deadline).latest ≤ s.latest := by
  obtain ⟨own, le⟩ := h.due_spec due
  have expected : s.observed.board.schedule.displayListInterrupt ≠ never := by
    intro same
    have late := (fits.mono le).lt_never
    rw [← own] at late
    exact UInt64.lt_irrefl never (same ▸ late)
  -- What the interrupt takes was counted when it was announced.
  have delayed := (delayed_handle fits .displayListInterrupt deadline).ready_le
  have before : announced s.observed.board.schedule = Board.nmiCycles .displayListInterrupt :=
    if_neg expected
  have after :
      announced (s.handle .displayListInterrupt deadline).observed.board.schedule = 0 := by
    rw [h.schedule_handle]
    rfl
  unfold latest
  omega

theorem Reachable.handle_other (ne : event ≠ .lineFetch) (list : event ≠ .displayListInterrupt) :
    (s.handle event deadline).latest ≤ s.latest := by
  have delayed := (delayed_handle fits event deadline).ready_le
  have maskable : Board.nmiCycles event = 0 := by
    cases event <;> first | rfl | contradiction
  have same : announced (s.handle event deadline).observed.board.schedule =
      announced s.observed.board.schedule := by
    have kept := Board.deadline_settle (Ne.symm list) (fun same => absurd same ne)
      s.observed.board deadline
    rw [h.schedule_handle]
    exact congrArg (if · = never then 0 else Cpu.interruptCycles.toNat) kept
  unfold latest
  omega

theorem Reachable.latest_handle_le (due : s.due = some (event, deadline))
    (ne : event ≠ .lineFetch) : (s.handle event deadline).latest ≤ s.latest := by
  by_cases list : event = .displayListInterrupt
  · subst list
    exact h.handle_list fits due
  · exact h.handle_other fits ne list

theorem Reachable.horizon_handle_le (due : s.due = some (event, deadline)) :
    (s.handle event deadline).horizon ≤ s.horizon := by
  have interrupts : lineInterrupts = 14 := rfl
  have rest : lineRest = 100 := rfl
  have cycles : Display.cyclesPerLine.toNat = 114 := rfl
  unfold horizon
  by_cases line : event = .lineFetch
  · subst line
    obtain ⟨latest, line⟩ := h.handle_lineFetch fits due
    have late := h.line_le_latest due
    -- The clock gains 14 cycles on 114 of the line, so that one line less is left before it.
    rw [interrupts, rest]
    omega
  · have latest := h.latest_handle_le fits due line
    have same := h.line_handle line deadline
    rw [interrupts, rest]
    omega

end

/-- All that is due in the left state has been handled in the right one. -/
inductive Services : Session → Session → Prop
  | done {s : Session} : s.due = none → Services s s
  | handle {s s' : Session} {event : Event} {deadline : UInt64} : Fits s.cpu.total →
      s.due = some (event, deadline) → Services (s.handle event deadline) s' → Services s s'

namespace Services

theorem due_eq_none (h : Services s s') : s'.due = none := by
  induction h with
  | done none => exact none
  | handle _ _ _ ih => exact ih

theorem board_eq (h : Services s s') :
    Board.serviceEvents s.cpu s.observed.board = (s'.cpu, s'.observed.board) := by
  induction h with
  | done none =>
    rw [due] at none
    rw [Board.serviceEvents, none]
  | handle _ some _ ih =>
    rw [due] at some
    rw [Board.serviceEvents, some]
    exact ih

theorem reachable (h : Services s s') (reach : s.Reachable) : s'.Reachable := by
  induction h with
  | done _ => exact reach
  | handle fits some _ ih => exact ih (.step reach (.handle fits some))

theorem onward (h : Services s s') : s.cpu.total.toNat ≤ s'.cpu.total.toNat := by
  induction h with
  | done _ => exact Nat.le_refl _
  | handle fits _ _ ih => exact Nat.le_trans (delayed_handle fits _ _).onward ih

theorem horizon_le (h : Services s s') (reach : s.Reachable) : s'.horizon ≤ s.horizon := by
  induction h with
  | done _ => exact Nat.le_refl _
  | handle fits some _ ih =>
    have step := reach.horizon_handle_le fits some
    exact Nat.le_trans (ih (.step reach (.handle fits some))) step

end Services

theorem Reachable.handle_decreases (h : s.Reachable) (fits : Fits s.cpu.total)
    (due : s.due = some (event, deadline)) {limit : Nat} (near : s.cpu.total.toNat ≤ limit) :
    Prod.Lex (· < ·) (· < ·)
      (limit + 1 - (s.handle event deadline).line,
        (s.handle event deadline).observed.board.schedule.waiting limit)
      (limit + 1 - s.line, s.observed.board.schedule.waiting limit) := by
  obtain ⟨own, le⟩ := h.due_spec due
  by_cases line : event = .lineFetch
  · subst line
    have onward := (h.handle_lineFetch fits due).2
    have cycles : Display.cyclesPerLine.toNat = 114 := rfl
    have late : s.line ≤ limit := by
      rw [← own] at le
      exact Nat.le_trans (UInt64.le_iff_toNat_le.1 le) near
    exact .left _ _ (by omega)
  · have timed := (Observed.RepliesTimed.invariant.reachable h).2.timed
    have later := Board.lt_deadline_settle (fits.mono le) timed event
    have others (f : Event) (other : f ≠ event) :=
      Board.deadline_settle other (fun same => absurd same line) s.observed.board deadline
    rw [h.line_handle line, h.schedule_handle]
    refine .right _ (Schedule.waiting_lt others ?_ ?_)
    · rw [own]
      exact later
    · rw [own]
      exact Nat.le_trans (UInt64.le_iff_toNat_le.1 le) near

theorem Reachable.services {s : Session} (h : s.Reachable) (limit : Nat)
    (near : s.horizon ≤ limit) (room : limit + longestDelay < never.toNat) :
    ∃ s', Services s s' := by
  have fits : Fits s.cpu.total :=
    Nat.lt_of_le_of_lt (Nat.add_le_add_right (Nat.le_trans s.total_le_horizon near) _) room
  cases due : s.due with
  | none => exact ⟨s, .done due⟩
  | some next =>
    -- The limit stays the same while the horizon may come nearer, so that the measure is one.
    obtain ⟨event, deadline⟩ := next
    have near' := Nat.le_trans (h.horizon_handle_le fits due) near
    have smaller := h.handle_decreases fits due (Nat.le_trans s.total_le_horizon near)
    obtain ⟨s', rest⟩ := (h.step (.handle fits due)).services limit near' room
    exact ⟨s', .handle fits due rest⟩
termination_by (limit + 1 - s.line, s.observed.board.schedule.waiting limit)
decreasing_by exact smaller

end Session

end Atari800XL
