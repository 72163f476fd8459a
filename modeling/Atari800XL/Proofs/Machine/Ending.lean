import Atari800XL.Proofs.Machine.Running

namespace Atari800XL

open FileDevice

namespace Board

/-- The loop that handles what is due ends with the processor and the board on the right. -/
inductive Serviced : Cpu → Board → Cpu → Board → Prop
  | done {cpu : Cpu} {b : Board} : b.schedule.due cpu.total = none → Serviced cpu b cpu b
  | turn {cpu cpu' : Cpu} {b b' : Board} {event : Event} {deadline : UInt64} :
      b.schedule.due cpu.total = some (event, deadline) →
      Serviced (handle cpu b event deadline).1 (handle cpu b event deadline).2 cpu' b' →
      Serviced cpu b cpu' b'

namespace Serviced

variable {cpu cpu' : Cpu} {b b' : Board}

theorem serviceEvents_eq (h : Serviced cpu b cpu' b') : serviceEvents cpu b = (cpu', b') := by
  induction h with
  | done none => rw [serviceEvents, none]
  | turn some _ ih =>
    rw [serviceEvents, some]
    exact ih

end Serviced

end Board

namespace Machine

def advance (m : Machine) (target : UInt64) : Machine :=
  let (cpu, board) := m.cpu.move m.board target
  { cpu, board }

/-- The run to `target` ends with the machine on the right. A turn handles what is due, in a loop
that ends, or lets the processor go on where nothing is due. -/
inductive Ran (target : UInt64) : Machine → Machine → Prop
  | done {m : Machine} : ¬m.cpu.total < target → Ran target m m
  | service {m m' : Machine} {cpu : Cpu} {board : Board} : m.cpu.total < target →
      m.board.schedule.next ≤ m.cpu.total → m.board.Serviced m.cpu cpu board →
      Ran target { cpu, board } m' → Ran target m m'
  | advance {m m' : Machine} : m.cpu.total < target → m.cpu.total < m.board.schedule.next →
      Ran target (m.advance target) m' → Ran target m m'

end Machine

namespace Session

variable {s s' : Session} {target : UInt64}

theorem Services.serviced (h : Services s s') :
    Board.Serviced s.cpu s.observed.board s'.cpu s'.observed.board := by
  induction h with
  | done none => exact .done none
  | handle _ due _ ih => exact .turn due ih

theorem Reachable.advance_eq (h : s.Reachable) (fits : Fits s.cpu.total)
    (before : s.cpu.total < target) (none : s.due = none) :
    s.machine.advance target = (s.move target).machine :=
  congrArg (fun x : Cpu × Board => Machine.mk x.1 x.2) (h.moves fits before none).board

theorem Travels.ran (h : Travels target s s') (reach : s.Reachable) :
    Machine.Ran target s.machine s'.machine := by
  induction h with
  | done after => exact .done after
  | @move s s' fits before none _ ih =>
    refine .advance before (reach.due_eq_none_iff.1 none) ?_
    rw [reach.advance_eq fits before none]
    exact ih (.step reach (.move fits before none))
  | @service s s₁ s' before due services _ ih =>
    have next : s.observed.board.schedule.next ≤ s.cpu.total :=
      UInt64.not_lt.1 (mt due_of_lt due)
    exact .service before next services.serviced (ih (services.reachable reach))

/-- Both loops end, with nothing due and with the clock at its target or past it. -/
structure RunEnds (s : Session) (cycles : UInt64) : Prop where
  service : ∃ cpu board, s.observed.board.Serviced s.cpu cpu board ∧
    Board.serviceEvents s.cpu s.observed.board = (cpu, board) ∧ cpu.total < board.schedule.next
  run : Machine.Ran (s.cpu.total + cycles) s.machine (s.machine.run cycles)
  reaches : s.cpu.total.toNat + cycles.toNat ≤ (s.machine.run cycles).cpu.total.toNat

/-- Whatever state a machine is in, handling what is due and running it both end, as long as the clock
does not. -/
theorem Reachable.runEnds (h : s.Reachable) (cycles : UInt64)
    (room : s.cpu.total.toNat + cycles.toNat + longestCall + longestDelay < never.toNat) :
    s.RunEnds cycles := by
  have horizon := h.horizon_le
  obtain ⟨s₁, services⟩ := h.services (s.cpu.total.toNat + longestCall) horizon (by omega)
  obtain ⟨s', travels, machine, reaches, -⟩ := h.run cycles room
  have serviced := services.serviced
  have next := (services.reachable h).due_eq_none_iff.1 services.due_eq_none
  exact
    { service := ⟨s₁.cpu, s₁.observed.board, serviced, serviced.serviceEvents_eq, next⟩
      run := machine ▸ travels.ran h
      reaches := machine ▸ reaches }

theorem runEnds_blank : (fresh blankMachine).Reachable ∧ (fresh blankMachine).RunEnds 29868 := by
  refine ⟨reachable_blank, reachable_blank.runEnds 29868 ?_⟩
  rw [total_fresh]
  decide

end Session

end Atari800XL
