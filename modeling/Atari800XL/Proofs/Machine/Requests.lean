import Atari800XL.Proofs.Cpu.Requests
import Atari800XL.Proofs.Machine.Running
import Atari800XL.Proofs.Machine.Tapped

namespace Atari800XL

open Cpu Cpu.Watched

namespace FileDevice

variable (cpu : Cpu) (d : FileDevice) (m : Memory)

theorem irqPending_call : (d.call cpu m).cpu.irqPending = cpu.irqPending := by
  unfold call
  split
  · rfl
  · dsimp only
    split <;> rfl

theorem irqPending_putByte : (d.putByte cpu m).cpu.irqPending = cpu.irqPending := by
  unfold putByte
  dsimp only
  split
  · rfl
  · split <;> rfl

end FileDevice

namespace Board

theorem disturbed_takeHook (hook : Hook) (cpu : Cpu) (b : Board) :
    Disturbed Board cpu (takeHook hook cpu b).2.1 := by
  cases hook with
  | deviceCall =>
    exact disturbed_of_irqPending_eq (FileDevice.irqPending_call cpu b.device b.memory)
  | putByte =>
    exact disturbed_of_irqPending_eq (FileDevice.irqPending_putByte cpu b.device b.memory)

theorem disturbed_enter (i : Interrupt) (cpu : Cpu) (b : Board) :
    Disturbed Board cpu (i.enter cpu b).1 := by
  cases i with
  | irq source => exact disturbed_irq cpu b
  | nmi source cycle => exact disturbed_nmi cpu b

theorem disturbed_handle {b : Board} (mapped : b.Mapped) (cpu : Cpu) (event : Event)
    (deadline : UInt64) : Disturbed Board cpu (handle cpu b event deadline).1 := by
  rw [handle_eq mapped]
  cases b.asks event deadline with
  | none => exact disturbed_of_irqPending_eq rfl
  | some i => exact disturbed_enter i cpu _

end Board

namespace Session

variable {s s' : Session} {target : UInt64}

theorem Services.disturbed (h : Services s s') (reach : s.Reachable) :
    Disturbed Board s.cpu s'.cpu := by
  induction h with
  | done _ => exact disturbed_of_irqPending_eq rfl
  | @handle s s' event deadline fits due _ ih =>
    have first := Board.disturbed_handle reach.mapped s.cpu event deadline
    exact first.trans (ih (.step reach (.handle fits due)))

theorem Travels.watched (h : Travels target s s') (reach : s.Reachable) (w : Watched)
    (same : w.cpu = s.cpu) :
    ∃ w', w'.cpu = s'.cpu ∧ Watched.Runs target w s.observed.board w' s'.observed.board := by
  induction h generalizing w with
  | @done s after => exact ⟨w, same, .done (same ▸ after)⟩
  | @move s s' fits before none _ ih =>
    have moves := (reach.moves fits before none).board
    have next : ¬TimedBus.nextEvent s.observed.board ≤ w.cpu.total := by
      rw [same]
      exact UInt64.not_le.2 (reach.due_eq_none_iff.1 none)
    obtain ⟨w₁, same₁, watched⟩ := exists_moves w s.observed.board target
      (fun due => absurd due next) Board.disturbed_takeHook
    rw [same, moves] at same₁ watched
    obtain ⟨w', same', runs⟩ := ih (.step reach (.move fits before none)) w₁ same₁
    exact ⟨w', same', .move (same ▸ before) watched runs⟩
  | @service s s₁ s' before due services _ ih =>
    have moves := services.move_board due target
    have service : Disturbed Board w.cpu (TimedBus.serviceEvents w.cpu s.observed.board).1 := by
      have served : TimedBus.serviceEvents s.cpu s.observed.board =
        (s₁.cpu, s₁.observed.board) := services.board_eq
      rw [same, served]
      exact services.disturbed reach
    obtain ⟨w₁, same₁, watched⟩ := exists_moves w s.observed.board target
      (fun _ => service) Board.disturbed_takeHook
    rw [same, moves] at same₁ watched
    obtain ⟨w', same', runs⟩ := ih (services.reachable reach) w₁ same₁
    exact ⟨w', same', .move (same ▸ before) watched runs⟩

end Session

end Atari800XL
