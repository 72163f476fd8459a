import Atari800XL.Proofs.Machine.Running

namespace Atari800XL

namespace Session

variable {s s' : Session} {target : UInt64}

/-- A relation under which a timed bus goes where the board of a session goes. -/
structure Companion {β : Type} [TimedBus β] (R : Session → β → Prop) : Prop where
  next : ∀ {s x}, R s x → TimedBus.nextEvent x = s.observed.board.schedule.next
  idle : ∀ {s x}, R s x → s.due = none → TimedBus.serviceEvents s.cpu x = (s.cpu, x)
  handle : ∀ {s x event deadline}, R s x → s.Reachable → Fits s.cpu.total →
    s.due = some (event, deadline) →
    ∃ x', TimedBus.serviceEvents s.cpu x =
      TimedBus.serviceEvents (s.handle event deadline).cpu x' ∧ R (s.handle event deadline) x'
  move : ∀ {s x target}, R s x → s.Reachable → Fits s.cpu.total → s.cpu.total < target →
    s.due = none →
    ∃ x', s.cpu.move x target = ((s.move target).cpu, x') ∧ R (s.move target) x'

namespace Companion

variable {β : Type} [TimedBus β] {R : Session → β → Prop} (hR : Companion R) {x : β}
include hR

theorem services (services : s.Services s') (reach : s.Reachable) (h : R s x) :
    ∃ x', TimedBus.serviceEvents s.cpu x = (s'.cpu, x') ∧ R s' x' := by
  induction services generalizing x with
  | done none => exact ⟨x, hR.idle h none, h⟩
  | handle fits due _ ih =>
    obtain ⟨x₁, step, handled⟩ := hR.handle h reach fits due
    obtain ⟨x', rest, after⟩ := ih (.step reach (.handle fits due)) handled
    exact ⟨x', step.trans rest, after⟩

theorem travels (travels : s.Travels target s') (reach : s.Reachable) (h : R s x) :
    ∃ x', s.cpu.run x target = (s'.cpu, x') ∧ R s' x' := by
  induction travels generalizing x with
  | done after => exact ⟨x, Cpu.run_of_not_lt after, h⟩
  | move fits before none _ ih =>
    obtain ⟨x₁, step, moved⟩ := hR.move h reach fits before none
    obtain ⟨x', rest, after⟩ := ih (.step reach (.move fits before none)) moved
    refine ⟨x', ?_, after⟩
    rw [Cpu.run_of_lt before, step]
    exact rest
  | service before due services _ ih =>
    have next := UInt64.not_lt.1 (mt due_of_lt due)
    rw [← hR.next h] at next
    obtain ⟨x₁, step, handled⟩ := hR.services services reach h
    obtain ⟨x', rest, after⟩ := ih (services.reachable reach) handled
    refine ⟨x', ?_, after⟩
    rw [Cpu.run_of_lt before, Cpu.move_due next, step]
    exact rest

theorem run (reach : s.Reachable) (h : R s x) {cycles : UInt64}
    (room : s.cpu.total.toNat + cycles.toNat + FileDevice.longestCall + longestDelay <
      never.toNat) :
    ∃ (s' : Session) (x' : β), s'.Reachable ∧ s'.machine = s.machine.run cycles ∧
      s.cpu.run x (s.cpu.total + cycles) = (s'.cpu, x') ∧ R s' x' := by
  obtain ⟨s', travels, run, -⟩ := reach.run cycles room
  obtain ⟨x', beside, after⟩ := hR.travels travels reach h
  exact ⟨s', x', travels.reachable reach, run, beside, after⟩

end Companion

end Session

end Atari800XL
