import Atari800XL.Proofs.Machine.Running
import Atari800XL.Proofs.Machine.Silence

namespace Atari800XL

namespace Tapped

structure Alike (now : UInt64) (x y : Tapped Board) : Prop where
  board : Board.Alike now x.bus y.bus
  reads : x.reads = y.reads

variable {now : UInt64} {x y : Tapped Board} {cpu : Cpu}

theorem Alike.mono {later : UInt64} (h : Alike now x y) (le : now ≤ later) : Alike later x y :=
  ⟨h.board.mono le, h.reads⟩

theorem Alike.read (h : Alike now x y) {address : UInt16}
    (value : (x.bus.read address).1 = (y.bus.read address).1)
    (board : Board.Alike now (x.bus.read address).2 (y.bus.read address).2) :
    (Bus.read x address).1 = (Bus.read y address).1 ∧
      Alike now (Bus.read x address).2 (Bus.read y address).2 := by
  refine ⟨value, board, ?_⟩
  show (address, (x.bus.read address).1) :: x.reads = (address, (y.bus.read address).1) :: y.reads
  rw [value, h.reads]

theorem related_alike (now : UInt64) :
    TimedBus.Related fun x y : Tapped Board => Alike now x y ∧ x.bus.clock = now where
  read {x y} address := by
    rintro ⟨h, rfl⟩
    obtain ⟨value, board⟩ := h.board.read address
    obtain ⟨value, after⟩ := h.read value board
    exact ⟨value, after, (Board.pushed_read x.bus address).clock⟩
  write {x y} address value := by
    rintro ⟨h, rfl⟩
    exact ⟨⟨h.board.write address value, h.reads⟩, Board.clock_write x.bus address value⟩
  takeHook {x y} hook cpu := by
    rintro ⟨h, rfl⟩
    obtain ⟨taken, called, board⟩ := h.board.takeHook hook cpu
    exact ⟨taken, called, ⟨board, h.reads⟩, (Board.quiet_takeHook hook cpu x.bus).clock⟩

theorem enters_alike (now : UInt64) :
    Bus.Enters fun x y : Tapped Board => Alike now x y ∧ x.bus.Mapped where
  push {x y} r value := by
    rintro ⟨h, mapped⟩
    have pushed : Board.Alike now (x.bus.write r.stackAddress value)
        (y.bus.write r.stackAddress value) := by
      rw [Board.write_stack mapped.low, Board.write_stack (h.board.mapped mapped).low]
      exact h.board.poke _ value
    refine ⟨⟨pushed, h.reads⟩, ?_⟩
    show (x.bus.write r.stackAddress value).Mapped
    rw [Board.write_stack mapped.low]
    exact mapped.poke _ value
  vector {x y} address vector := by
    rintro ⟨h, mapped⟩
    have left := mapped.read_vector vector
    have right := (h.board.mapped mapped).read_vector vector
    have value : (x.bus.read address).1 = (y.bus.read address).1 := by
      rw [left, right, Board.memory_eq h.board.silent]
    have board : Board.Alike now (x.bus.read address).2 (y.bus.read address).2 := by
      rw [left, right]
      exact h.board
    obtain ⟨value, after⟩ := h.read value board
    refine ⟨value, after, ?_⟩
    show (x.bus.read address).2.Mapped
    rw [left]
    exact mapped

theorem Alike.stepHooked (h : Alike cpu.total x y) :
    (cpu.stepHooked x).1 = (cpu.stepHooked y).1 ∧
      Alike cpu.total (cpu.stepHooked x).2 (cpu.stepHooked y).2 := by
  obtain ⟨stepped, after, -⟩ := Cpu.stepHooked_related (related_alike cpu.total) cpu
    (x := x) (y := y) ⟨⟨h.board.start, h.reads⟩, rfl⟩
  exact ⟨stepped, after⟩

theorem Alike.move (h : Alike cpu.total x y) (next : cpu.total < x.bus.schedule.next)
    (target : UInt64) :
    (cpu.move x target).1 = (cpu.move y target).1 ∧
      Alike cpu.total (cpu.move x target).2 (cpu.move y target).2 := by
  have schedule : x.bus.schedule = y.bus.schedule := Board.schedule_eq h.board.silent
  have waits : ¬TimedBus.nextEvent x ≤ cpu.total := UInt64.not_le.2 next
  have nextEvent : TimedBus.nextEvent x = TimedBus.nextEvent y := congrArg Schedule.next schedule
  have stallUntil : TimedBus.stallUntil x = TimedBus.stallUntil y :=
    congrArg Schedule.stallUntil schedule
  by_cases stall : TimedBus.stallUntil x > cpu.total
  · rw [Cpu.move_halted waits stall, Cpu.move_halted (nextEvent ▸ waits) (stallUntil ▸ stall),
      nextEvent, stallUntil]
    exact ⟨rfl, h⟩
  · rw [Cpu.move_started waits stall, Cpu.move_started (nextEvent ▸ waits) (stallUntil ▸ stall)]
    exact h.stepHooked

theorem Alike.handle (h : Alike now x y) (mapped : x.bus.Mapped) {deadline : UInt64}
    (le : deadline ≤ now) (cpu : Cpu) (event : Event) :
    (x.handle cpu event deadline).1 = (y.handle cpu event deadline).1 ∧
      Alike now (x.handle cpu event deadline).2 (y.handle cpu event deadline).2 := by
  have settled := h.board.settle le event
  unfold Tapped.handle
  rw [h.board.asks]
  cases y.bus.asks event deadline with
  | none => exact ⟨rfl, settled, h.reads⟩
  | some i =>
    have mapped : (x.bus.settle event deadline).Mapped :=
      mapped.of_memory_eq (Board.memory_settle x.bus event deadline)
    let tell (x : Tapped Board) : Tapped Board :=
      { x with bus := (x.bus.settle event deadline).tell [i.notice cpu] }
    obtain ⟨entered, after, -⟩ := Interrupt.enter_related (enters_alike now) (x := tell x)
      (y := tell y) ⟨⟨settled.tell _, h.reads⟩, mapped.of_memory_eq rfl⟩ cpu i
    exact ⟨entered, after⟩

abbrev Action : Type 1 := {β : Type} → [TimedBus β] → Cpu → β → Cpu × β

abbrev moveTo (target : UInt64) : Action := fun cpu bus => cpu.move bus target

abbrev runTo (target : UInt64) : Action := fun cpu bus => cpu.run bus target

structure Goes (f : Action) (cpu : Cpu) (x : Tapped Board)
    (cpu' : Cpu) (x' : Tapped Board) : Prop where
  tapped : f cpu x = (cpu', x')
  board : f cpu x.bus = (cpu', x'.bus)

namespace Goes

variable {cpu₁ cpu' : Cpu} {x₁ x' : Tapped Board} {target : UInt64}

theorem service_done (none : x.bus.schedule.due cpu.total = none) :
    Goes TimedBus.serviceEvents cpu x cpu x := by
  refine ⟨?_, ?_⟩
  · show Tapped.serviceEvents cpu x = _
    rw [Tapped.serviceEvents, none]
  · show Board.serviceEvents cpu x.bus = _
    rw [Board.serviceEvents, none]

theorem service_handle {event : Event} {deadline : UInt64} (mapped : x.bus.Mapped)
    (due : x.bus.schedule.due cpu.total = some (event, deadline))
    (rest : Goes TimedBus.serviceEvents (x.handle cpu event deadline).1
      (x.handle cpu event deadline).2 cpu' x') :
    Goes TimedBus.serviceEvents cpu x cpu' x' := by
  refine ⟨?_, ?_⟩
  · show Tapped.serviceEvents cpu x = _
    rw [Tapped.serviceEvents, due]
    exact rest.tapped
  · show Board.serviceEvents cpu x.bus = _
    rw [Board.serviceEvents, due]
    dsimp only
    rw [handle_bus mapped]
    exact rest.board

theorem move_next (next : cpu.total < x.bus.schedule.next) :
    Goes (moveTo target) cpu x (cpu.move x target).1
      (cpu.move x target).2 := ⟨rfl, move_bus next target⟩

theorem move_service (due : x.bus.schedule.next ≤ cpu.total)
    (service : Goes TimedBus.serviceEvents cpu x cpu' x') :
    Goes (moveTo target) cpu x cpu' x' :=
  ⟨(Cpu.move_due due).trans service.tapped, (Cpu.move_due due).trans service.board⟩

theorem run_done (after : ¬cpu.total < target) :
    Goes (runTo target) cpu x cpu x :=
  ⟨Cpu.run_of_not_lt after, Cpu.run_of_not_lt after⟩

theorem run_move (before : cpu.total < target)
    (move : Goes (moveTo target) cpu x cpu₁ x₁)
    (rest : Goes (runTo target) cpu₁ x₁ cpu' x') :
    Goes (runTo target) cpu x cpu' x' := by
  have tapped : cpu.move x target = (cpu₁, x₁) := move.tapped
  have board : cpu.move x.bus target = (cpu₁, x₁.bus) := move.board
  refine ⟨?_, ?_⟩
  · show cpu.run x target = _
    rw [Cpu.run_of_lt before, tapped]
    exact rest.tapped
  · show cpu.run x.bus target = _
    rw [Cpu.run_of_lt before, board]
    exact rest.board

end Goes

structure Beside (s : Session) (x y : Tapped Board) : Prop where
  here : x.bus = s.observed.board
  alike : Alike s.cpu.total x y

def Follow (f : Action) (s s' : Session)
    (x y : Tapped Board) : Prop :=
  ∃ x' y', Goes f s.cpu x s'.cpu x' ∧ Goes f s.cpu y s'.cpu y' ∧ Beside s' x' y'

namespace Beside

variable {s s' : Session} {target : UInt64} {event : Event} {deadline : UInt64}
variable (h : Beside s x y)
include h

theorem schedule : x.bus.schedule = s.observed.board.schedule := congrArg Board.schedule h.here

theorem schedule' : y.bus.schedule = s.observed.board.schedule :=
  (Board.schedule_eq h.alike.board.silent).symm.trans h.schedule

variable (reach : s.Reachable)
include reach

theorem mapped : x.bus.Mapped := by
  rw [h.here]
  exact reach.mapped

theorem handle (fits : Fits s.cpu.total) (due : s.due = some (event, deadline)) :
    (x.handle s.cpu event deadline).1 = (s.handle event deadline).cpu ∧
      (y.handle s.cpu event deadline).1 = (s.handle event deadline).cpu ∧
        Beside (s.handle event deadline) (x.handle s.cpu event deadline).2
          (y.handle s.cpu event deadline).2 := by
  have le := (reach.due_spec due).2
  have onward := (Session.delayed_handle fits event deadline).onward
  have board := handle_bus (h.mapped reach) s.cpu event deadline
  rw [h.here] at board
  have cpu : (s.handle event deadline).cpu = (x.handle s.cpu event deadline).1 :=
    congrArg Prod.fst board
  obtain ⟨same, after⟩ := h.alike.handle (h.mapped reach) le s.cpu event
  refine ⟨cpu.symm, same.symm.trans cpu.symm, (congrArg Prod.snd board).symm, ?_⟩
  exact after.mono (UInt64.le_iff_toNat_le.2 onward)

theorem move (fits : Fits s.cpu.total) (before : s.cpu.total < target) (none : s.due = none) :
    Follow (moveTo target) s (s.move target) x y := by
  have next := reach.due_eq_none_iff.1 none
  have left : s.cpu.total < x.bus.schedule.next := h.schedule ▸ next
  have right : s.cpu.total < y.bus.schedule.next := h.schedule' ▸ next
  have moves := reach.moves fits before none
  have onward : s.cpu.total ≤ (s.move target).cpu.total :=
    UInt64.le_iff_toNat_le.2 (Nat.le_of_lt moves.onward)
  have board := move_bus left target
  rw [h.here, moves.board, Prod.mk.injEq] at board
  obtain ⟨cpu, here⟩ := board
  obtain ⟨same, after⟩ := h.alike.move left target
  have goes : Goes (moveTo target) s.cpu x (s.move target).cpu
      (s.cpu.move x target).2 := cpu ▸ .move_next left
  have goes' : Goes (moveTo target) s.cpu y (s.move target).cpu
      (s.cpu.move y target).2 := cpu ▸ same ▸ .move_next right
  exact ⟨_, _, goes, goes', here.symm, after.mono onward⟩

end Beside

theorem follow_services {s s' : Session} (services : s.Services s') (reach : s.Reachable)
    (h : Beside s x y) : Follow TimedBus.serviceEvents s s' x y := by
  induction services generalizing x y with
  | done none =>
    have left := none
    have right := none
    rw [Session.due, ← h.schedule] at left
    rw [Session.due, ← h.schedule'] at right
    exact ⟨x, y, .service_done left, .service_done right, h⟩
  | handle fits due _ ih =>
    have left := due
    have right := due
    rw [Session.due, ← h.schedule] at left
    rw [Session.due, ← h.schedule'] at right
    have mapped := h.mapped reach
    obtain ⟨cpu, cpu', handled⟩ := h.handle reach fits due
    obtain ⟨x', y', goes, goes', after⟩ := ih (.step reach (.handle fits due)) handled
    refine ⟨x', y', .service_handle mapped left ?_, ?_, after⟩
    · rw [cpu]
      exact goes
    · refine .service_handle (h.alike.board.mapped mapped) right ?_
      rw [cpu']
      exact goes'

theorem follow_travels {target : UInt64} {s s' : Session} (travels : s.Travels target s')
    (reach : s.Reachable) (h : Beside s x y) :
    Follow (runTo target) s s' x y := by
  induction travels generalizing x y with
  | done after => exact ⟨x, y, .run_done after, .run_done after, h⟩
  | move fits before none _ ih =>
    obtain ⟨x₁, y₁, goes, goes', moved⟩ := h.move reach fits before none
    obtain ⟨x', y', rest, rest', after⟩ := ih (.step reach (.move fits before none)) moved
    exact ⟨x', y', .run_move before goes rest, .run_move before goes' rest', after⟩
  | service before due handled _ ih =>
    obtain ⟨x₁, y₁, goes, goes', moved⟩ := follow_services handled reach h
    obtain ⟨x', y', rest, rest', after⟩ := ih (handled.reachable reach) moved
    have next := UInt64.not_lt.1 (mt Session.due_of_lt due)
    have left := h.schedule ▸ next
    have right := h.schedule' ▸ next
    exact ⟨x', y', .run_move before (.move_service left goes) rest,
      .run_move before (.move_service right goes') rest', after⟩

end Tapped

end Atari800XL
