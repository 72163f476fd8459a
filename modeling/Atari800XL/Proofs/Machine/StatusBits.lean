import Atari800XL.Proofs.Cpu.StatusBits
import Atari800XL.Proofs.Machine.Running
import Atari800XL.Proofs.Machine.Tapped

namespace Atari800XL

open Cpu

theorem Interrupt.operation_enter {β : Type} [Bus β] (i : Interrupt) (cpu : Cpu) (bus : β) :
    Cpu.Operation cpu (i.enter cpu bus).1 := by
  cases i with
  | irq source => exact .irq bus
  | nmi source cycle => exact .nmi bus

namespace Board

theorem operation_takeHook (hook : Hook) (cpu : Cpu) (b : Board) :
    Cpu.Operation cpu (takeHook hook cpu b).2.1 := by
  cases hook with
  | deviceCall => exact .deviceCall b.device b.memory
  | putByte => exact .putByte b.device b.memory

theorem operated_handle {b : Board} (mapped : b.Mapped) (cpu : Cpu) (event : Event)
    (deadline : UInt64) : Operated cpu (handle cpu b event deadline).1 := by
  rw [handle_eq mapped]
  cases b.asks event deadline with
  | none => exact .refl
  | some i => exact .single (i.operation_enter cpu _)

end Board

namespace Machine

variable (m : Machine)

theorem regs_installHooks : m.installHooks.cpu.regs = m.cpu.regs := by
  unfold installHooks
  dsimp only
  split
  · dsimp only
    split <;> rfl
  · rfl

theorem regs_hardReset : m.hardReset.cpu.regs = (({} : Cpu).reset m.powered).1.regs := by
  have cleared : m.cleared.cpu.regs = (({} : Cpu).reset m.powered).1.regs :=
    congrArg (·.cpu.regs) m.cleared_eq
  rw [← cleared, hardReset_eq]
  show m.hooked.cpu.regs = m.cleared.cpu.regs
  unfold hooked
  split
  · exact m.cleared.regs_installHooks
  · rfl

theorem reachable_hardReset : Cpu.Reachable m.hardReset.cpu :=
  .operation (.operation .new (.reset m.powered)) (.host (congrArg (·.status) m.regs_hardReset))

end Machine

namespace Session

variable {s s' : Session} {target : UInt64}

theorem Services.operated (h : Services s s') (reach : s.Reachable) : Operated s.cpu s'.cpu := by
  induction h with
  | done _ => exact .refl
  | @handle s s' event deadline fits due _ ih =>
    have first : Operated s.cpu (s.handle event deadline).cpu :=
      Board.operated_handle reach.mapped s.cpu event deadline
    exact first.trans (ih (.step reach (.handle fits due)))

theorem Reachable.onlyOperates (reach : s.Reachable) (none : s.due = none) :
    OnlyOperates s.cpu s.observed.board where
  service due := absurd due (UInt64.not_le.2 (reach.due_eq_none_iff.1 none))
  hook hook _ := .single (Board.operation_takeHook hook s.cpu _)

theorem Services.onlyOperates (h : Services s s') (reach : s.Reachable) :
    OnlyOperates s.cpu s.observed.board where
  service _ := by
    have served : TimedBus.serviceEvents s.cpu s.observed.board = (s'.cpu, s'.observed.board) :=
      h.board_eq
    rw [served]
    exact h.operated reach
  hook hook _ := .single (Board.operation_takeHook hook s.cpu _)

theorem Travels.running (h : Travels target s s') (reach : s.Reachable) :
    Running target s.cpu s.observed.board s'.cpu s'.observed.board := by
  induction h with
  | done _ => exact .start
  | move fits before none _ ih =>
    refine .head before (reach.onlyOperates none) ?_
    rw [(reach.moves fits before none).board]
    exact ih (.step reach (.move fits before none))
  | service before due services _ ih =>
    refine .head before (services.onlyOperates reach) ?_
    rw [services.move_board due]
    exact ih (services.reachable reach)

theorem Reachable.cpu (h : s.Reachable) : Cpu.Reachable s.cpu := by
  induction h with
  | powerOn setup os basic store flags => exact Machine.reachable_hardReset _
  | @step s s' reach step ih =>
    cases step with
    | handle _ _ => exact ih.operated (Board.operated_handle reach.mapped s.cpu _ _)
    | @move target fits before none =>
      have moved : (s.cpu.move s.observed.board target).1 = (s.move target).cpu :=
        congrArg Prod.fst (reach.moves fits before none).board
      rw [← moved]
      exact ih.operated ((reach.onlyOperates none).move target)
    | call c =>
      -- A call leaves the processor alone, or asks it for an interrupt.
      have status : (s.call c).cpu.regs.status = s.cpu.regs.status := by
        rcases (s.machine.touched_perform c).cpu with same | asked
        · exact congrArg (·.regs.status) same
        · exact congrArg (·.regs.status) asked
      exact .operation ih (.host status)
    | hardReset => exact s.machine.reachable_hardReset

theorem Reachable.fixedBits (h : s.Reachable) : s.cpu.regs.FixedBits := h.cpu.fixedBits

end Session

end Atari800XL
