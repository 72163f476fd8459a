import Atari800XL.Cpu.Basic

/-! The processor on a bus that has a clock of its own: deadlines of the other chips, and stretches
in which the processor is halted. `Cpu.run` brings the clock up to a target. -/

namespace Atari800XL

class TimedBus (β : Type) extends Bus β where
  nextEvent : β → UInt64
  /-- Handle every deadline that the processor's clock has reached. -/
  serviceEvents : Cpu → β → Cpu × β
  /-- The processor stands still before this cycle. -/
  stallUntil : β → UInt64
  /-- Take over a hooked instruction, or answer `false` to let it run. -/
  takeHook : Hook → Cpu → β → Bool × Cpu × β
  /-- The cycle at which the next instruction starts. -/
  syncClock : UInt64 → β → β

namespace Cpu

variable {β : Type} [TimedBus β]

def stepHooked (cpu : Cpu) (bus : β) : Cpu × β :=
  let bus := TimedBus.syncClock cpu.total bus
  match cpu.hookAt cpu.regs.pc with
  | none => cpu.step bus
  | some hook =>
    let (taken, cpu, bus) := TimedBus.takeHook hook cpu bus
    if taken then (cpu, bus) else cpu.step bus

/-- One move of the clock towards `target`: deadlines first, then the halt, then an instruction. -/
def move (cpu : Cpu) (bus : β) (target : UInt64) : Cpu × β :=
  if TimedBus.nextEvent bus ≤ cpu.total then
    TimedBus.serviceEvents cpu bus
  else
    let stall := TimedBus.stallUntil bus
    if stall > cpu.total then
      ({ cpu with total := min (min stall (TimedBus.nextEvent bus)) target }, bus)
    else cpu.stepHooked bus

def run (cpu : Cpu) (bus : β) (target : UInt64) : Cpu × β :=
  if cpu.total < target then
    let (cpu, bus) := cpu.move bus target
    cpu |>.run bus target
  else (cpu, bus)
partial_fixpoint

end Cpu

end Atari800XL
