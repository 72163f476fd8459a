import Atari800XL.Proofs.Cpu.Related
import Atari800XL.Proofs.Cpu.Runs
import Atari800XL.Proofs.Machine.Invariant

namespace Atari800XL

inductive Interrupt
  | irq (source : String)
  | nmi (source : String) (cycle : UInt64)

namespace Interrupt

def notice (cpu : Cpu) : Interrupt → Notice
  | .irq source => .interrupt source cpu.total
  | .nmi source cycle => .interrupt source cycle

def enter {β : Type} [Bus β] (cpu : Cpu) (bus : β) : Interrupt → Cpu × β
  | .irq _ => cpu.irq bus
  | .nmi _ _ => cpu.nmi bus

theorem enter_related {β γ : Type} [Bus β] [Bus γ] {R : β → γ → Prop} {x : β} {y : γ}
    (hR : Bus.Enters R) (h : R x y) (cpu : Cpu) (i : Interrupt) :
    (i.enter cpu x).1 = (i.enter cpu y).1 ∧ R (i.enter cpu x).2 (i.enter cpu y).2 := by
  cases i with
  | irq source => exact Cpu.irq_related hR h cpu
  | nmi source cycle => exact Cpu.nmi_related hR h cpu

end Interrupt

namespace Board

variable {b : Board}

structure Mapped (b : Board) : Prop where
  low : b.memory.LowIsRam
  chips : b.memory.ChipsInPages

namespace Mapped

variable (mapped : b.Mapped)
include mapped

theorem read_vector {address : UInt16} (vector : Cpu.nmiVector ≤ address) :
    b.read address = (b.memory.peek address, b) := by
  rcases mapped.chips address (Memory.not_page_of_vector vector) with ram | rom
  · simp only [Board.read, ram]
  · simp only [Board.read, rom]

theorem of_memory_eq {b' : Board} (same : b'.memory = b.memory) : b'.Mapped := by
  refine ⟨?_, ?_⟩
  · rw [same]
    exact mapped.low
  · rw [same]
    exact mapped.chips

theorem poke (address : UInt16) (value : UInt8) :
    ({ b with memory := b.memory.poke address value } : Board).Mapped :=
  have poked : b.memory.Pokes (b.memory.poke address value) := .poke address value .refl
  ⟨poked.lowIsRam mapped.low, poked.chipsInPages mapped.chips⟩

end Mapped

theorem chips_write {b : Board} (chips : b.memory.ChipsInPages) (address : UInt16)
    (value : UInt8) : (b.write address value).memory.ChipsInPages := by
  rcases b.memory_write address value with pokes | ⟨pins, switched⟩
  · exact pokes.chipsInPages chips
  · rw [switched]
    exact chips.applyPortB pins

def asks (b : Board) (event : Event) (deadline : UInt64) : Option Interrupt :=
  let irq (asked : Bool) (source : String) := if asked then some (.irq source) else none
  let nmi (asked : Bool) (source : String) := if asked then some (.nmi source deadline) else none
  match event with
  | .lineFetch => nmi (b.drawLine deadline).1.blankInterrupt "VBI"
  | .displayListInterrupt => nmi b.antic.fireListInterrupt.1 "DLI"
  | .timer1 => irq (b.pokey.timerDue .one deadline b.schedule).1 "TIMER"
  | .timer2 => irq (b.pokey.timerDue .two deadline b.schedule).1 "TIMER"
  | .timer4 => irq (b.pokey.timerDue .four deadline b.schedule).1 "TIMER"
  | .serialOutNeeded => irq (b.pokey.serialOutNeeded b.schedule).1 "SEROUT"
  | .serialOutDone => irq (b.pokey.serialOutDone b.schedule).1 "SEROC"
  | .serialInReady =>
    match b.sio.pop with
    | none => none
    | some (byte, _) => irq (b.pokey.receive byte).1 "SERIN"

def interrupted (cpu : Cpu) (b : Board) : Option Interrupt → Cpu × Board
  | none => (cpu, b)
  | some i => i.enter cpu (b.tell [i.notice cpu])

theorem raiseIf_eq (asked : Bool) (cpu : Cpu) (b : Board) (source : String) :
    raiseIf asked cpu b source = interrupted cpu b (if asked then some (.irq source) else none) := by
  cases asked <;> rfl

theorem raiseNmi_eq (asked : Bool) (cpu : Cpu) (b : Board) (source : String) (cycle : UInt64) :
    (if asked then raiseNmi cpu b source cycle else (cpu, b)) =
      interrupted cpu b (if asked then some (.nmi source cycle) else none) := by
  cases asked <;> rfl

theorem enters_expectNext (deadline : UInt64) :
    Bus.Enters fun x y : Board => y = x.expectNext deadline ∧ x.Mapped where
  push {x y} r value := by
    rintro ⟨rfl, mapped⟩
    have mapped' := mapped.of_memory_eq (memory_expectNext x deadline)
    rw [bus_write, bus_write, write_stack mapped.low, write_stack mapped'.low, memory_expectNext]
    refine ⟨?_, mapped.poke _ _⟩
    simp only [Board.expectNext]
    split <;> rfl
  vector {x y} address vector := by
    rintro ⟨rfl, mapped⟩
    have mapped' := mapped.of_memory_eq (memory_expectNext x deadline)
    rw [bus_read, bus_read, mapped.read_vector vector, mapped'.read_vector vector,
      memory_expectNext]
    exact ⟨rfl, rfl, mapped⟩

theorem tell_expectNext (b : Board) (deadline : UInt64) (notices : List Notice) :
    (b.expectNext deadline).tell notices = (b.tell notices).expectNext deadline := by
  simp only [Board.expectNext, tell]
  split <;> rfl

theorem interrupted_expectNext (mapped : b.Mapped) (cpu : Cpu) (deadline : UInt64)
    (asked : Option Interrupt) :
    interrupted cpu (b.expectNext deadline) asked =
      ((interrupted cpu b asked).1, (interrupted cpu b asked).2.expectNext deadline) := by
  cases asked with
  | none => rfl
  | some i =>
    have told : (b.tell [i.notice cpu]).Mapped := mapped.of_memory_eq rfl
    obtain ⟨entered, board, -⟩ :=
      Interrupt.enter_related (enters_expectNext deadline) ⟨rfl, told⟩ cpu i
    dsimp only [interrupted]
    rw [tell_expectNext]
    exact Prod.ext entered.symm board

theorem handle_eq (mapped : b.Mapped) (cpu : Cpu) (event : Event) (deadline : UInt64) :
    handle cpu b event deadline =
      interrupted cpu (b.settle event deadline) (b.asks event deadline) := by
  cases event with
  | lineFetch => exact raiseNmi_eq _ cpu _ _ _
  | displayListInterrupt => exact raiseNmi_eq _ cpu _ _ _
  | timer1 => exact raiseIf_eq _ cpu _ _
  | timer2 => exact raiseIf_eq _ cpu _ _
  | timer4 => exact raiseIf_eq _ cpu _ _
  | serialOutNeeded => exact raiseIf_eq _ cpu _ _
  | serialOutDone => exact raiseIf_eq _ cpu _ _
  | serialInReady =>
    unfold handle serialInReady settle asks
    dsimp only
    cases b.sio.pop with
    | none => rfl
    | some popped =>
      let received : Board :=
        { b with
          clock := deadline
          schedule := b.schedule.clear .serialInReady
          pokey := (b.pokey.receive popped.1).2
          sio := popped.2 }
      have mapped : received.Mapped := mapped.of_memory_eq rfl
      dsimp only
      rw [raiseIf_eq]
      exact (interrupted_expectNext mapped cpu deadline _).symm

end Board

theorem Observed.invariant_chips :
    Observed.Invariant fun o => o.board.memory.ChipsInPages where
  reset m := by
    have cleared : m.cleared.board.memory.ChipsInPages :=
      (Memory.chipsInPages_reset m.board.memory).applyPortB _
    have board := congrArg (fun m => m.board.memory) m.hardReset_eq
    dsimp only [Board.tell] at board ⊢
    rw [board]
    exact m.quiet_hooked.memory.chipsInPages cleared
  quiet chips quiet := quiet.memory.chipsInPages chips
  start chips _ _ _ _ := chips
  write o address value chips := Board.chips_write chips address value
  settle {o cpu event deadline} chips _ _ _ _ := by
    dsimp only
    rw [Board.memory_settle]
    exact chips

theorem Session.Reachable.mapped {s : Session} (h : s.Reachable) : s.observed.board.Mapped :=
  have ⟨sound, chips⟩ := Observed.invariant_chips.reachable h
  ⟨sound.low, chips⟩

namespace Tapped

variable {x : Tapped Board} {cpu : Cpu}

def handle (x : Tapped Board) (cpu : Cpu) (event : Event) (deadline : UInt64) :
    Cpu × Tapped Board :=
  let settled := x.bus.settle event deadline
  match x.bus.asks event deadline with
  | none => (cpu, { x with bus := settled })
  | some i => i.enter cpu { x with bus := settled.tell [i.notice cpu] }

def serviceEvents (cpu : Cpu) (x : Tapped Board) : Cpu × Tapped Board :=
  match x.bus.schedule.due cpu.total with
  | none => (cpu, x)
  | some (event, deadline) =>
    let (cpu, x) := x.handle cpu event deadline
    x |>.serviceEvents cpu
partial_fixpoint

def takeHook (hook : Hook) (cpu : Cpu) (x : Tapped Board) : Bool × Cpu × Tapped Board :=
  let (taken, cpu, bus) := Board.takeHook hook cpu x.bus
  (taken, cpu, { x with bus })

instance : TimedBus (Tapped Board) where
  nextEvent x := x.bus.schedule.next
  serviceEvents := serviceEvents
  stallUntil x := x.bus.schedule.stallUntil
  takeHook := takeHook
  syncClock cycle x := { x with bus := TimedBus.syncClock cycle x.bus }

theorem enters_bus : Bus.Enters fun (x : Tapped Board) (b : Board) => x.bus = b where
  push r value := by
    rintro rfl
    rfl
  vector address _ := by
    rintro rfl
    exact ⟨rfl, rfl⟩

theorem related_bus : TimedBus.Related fun (x : Tapped Board) (b : Board) => x.bus = b where
  read address := by
    rintro rfl
    exact ⟨rfl, rfl⟩
  write address value := by
    rintro rfl
    rfl
  takeHook hook cpu := by
    rintro rfl
    exact ⟨rfl, rfl, rfl⟩

theorem handle_bus (mapped : x.bus.Mapped) (cpu : Cpu) (event : Event) (deadline : UInt64) :
    Board.handle cpu x.bus event deadline =
      ((x.handle cpu event deadline).1, (x.handle cpu event deadline).2.bus) := by
  rw [Board.handle_eq mapped]
  unfold handle
  dsimp only
  cases x.bus.asks event deadline with
  | none => rfl
  | some i =>
    let told : Tapped Board :=
      { x with bus := (x.bus.settle event deadline).tell [i.notice cpu] }
    obtain ⟨entered, bus⟩ := Interrupt.enter_related enters_bus (x := told) rfl cpu i
    exact Prod.ext entered.symm bus.symm

theorem move_bus (next : cpu.total < x.bus.schedule.next) (target : UInt64) :
    cpu.move x.bus target = ((cpu.move x target).1, (cpu.move x target).2.bus) := by
  have waits : ¬TimedBus.nextEvent x ≤ cpu.total := UInt64.not_le.2 next
  obtain ⟨moved, bus⟩ :=
    Cpu.move_related related_bus cpu (x := x) (y := x.bus) rfl rfl rfl rfl waits target
  exact Prod.ext moved.symm bus.symm

end Tapped

end Atari800XL
