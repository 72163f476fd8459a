import Atari800XL.Cpu.Execute

namespace Atari800XL

/-- A service of the operating system that the host can take over before the instruction at the
hooked address runs. -/
inductive Hook
  | deviceCall
  | putByte
  deriving DecidableEq, Repr, Inhabited

structure Cpu where
  regs : Cpu.Registers := {}
  total : UInt64 := 0
  cycles : UInt64 := 0
  irqPending : Nat := 0
  hooks : List (UInt16 × Hook) := []
  deriving DecidableEq, Repr, Inhabited

namespace Cpu

def nmiVector : UInt16 := 0xFFFA
def resetVector : UInt16 := 0xFFFC
def irqVector : UInt16 := 0xFFFE

def interruptCycles : UInt64 := 7

def hookAt (cpu : Cpu) (address : UInt16) : Option Hook := cpu.hooks.lookup address

def setHook (cpu : Cpu) (address : UInt16) (hook : Hook) : Cpu :=
  { cpu with hooks := (address, hook) :: cpu.hooks.filter (·.1 != address) }

/-- Removes only the hook that is named, not another one at the same address. -/
def clearHook (cpu : Cpu) (address : UInt16) (hook : Hook) : Cpu :=
  if cpu.hookAt address == some hook then
    { cpu with hooks := cpu.hooks.filter (·.1 != address) }
  else cpu

def advance (cpu : Cpu) (cycles : UInt64) : Cpu := { cpu with total := cpu.total + cycles }

def charge (cpu : Cpu) (cycles : UInt64) : Cpu :=
  { cpu with cycles, total := cpu.total + cycles }

def requestIrq (cpu : Cpu) : Cpu := { cpu with irqPending := cpu.irqPending + 1 }

/-- The disable flag holds interrupt requests back. -/
def masked (cpu : Cpu) : Bool := cpu.regs.flag Flag.interruptDisable

variable {β : Type} [Bus β]

def enterInterrupt (cpu : Cpu) (bus : β) (vector : UInt16) : Cpu × β :=
  let (regs, bus) := cpu.regs.enter bus cpu.regs.hardwareStatus vector
  ({ cpu with regs }, bus)

def irq (cpu : Cpu) (bus : β) : Cpu × β :=
  if cpu.masked then (cpu.requestIrq, bus)
  else
    let (cpu, bus) := cpu.enterInterrupt bus irqVector
    (cpu.advance interruptCycles, bus)

def nmi (cpu : Cpu) (bus : β) : Cpu × β :=
  let (cpu, bus) := cpu.enterInterrupt bus nmiVector
  (cpu.advance interruptCycles, bus)

def reset (cpu : Cpu) (bus : β) : Cpu × β :=
  let (pc, bus) := Bus.readWord bus resetVector
  let status := (cpu.regs.status &&& ~~~(Flag.decimal ||| Flag.brk))
    ||| Flag.interruptDisable ||| Flag.unused
  let cpu := { cpu with regs := { cpu.regs with sp := 0xFD, pc, status }, irqPending := 0 }
  (cpu.charge interruptCycles, bus)

def returnFromCall (cpu : Cpu) (bus : β) : Cpu × β :=
  let (regs, bus) := cpu.regs.returnFromCall bus
  ({ cpu with regs }, bus)

def executeNext (cpu : Cpu) (bus : β) : Cpu × β :=
  let (opcode, regs, bus) := cpu.regs.fetch bus
  let done := (decode opcode).execute regs bus
  ({ cpu with regs := done.regs }.charge (cyclesOf opcode + done.extra), done.bus)

def step (cpu : Cpu) (bus : β) : Cpu × β :=
  if cpu.irqPending > 0 && !cpu.masked then
    let cpu := { cpu with irqPending := cpu.irqPending - 1 }
    let (cpu, bus) := cpu.enterInterrupt bus irqVector
    (cpu.charge interruptCycles, bus)
  else cpu.executeNext bus

end Cpu

end Atari800XL
