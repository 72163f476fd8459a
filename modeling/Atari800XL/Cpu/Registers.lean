import Atari800XL.Bus

namespace Atari800XL.Cpu

namespace Flag

def carry : UInt8 := 0x01
def zero : UInt8 := 0x02
def interruptDisable : UInt8 := 0x04
def decimal : UInt8 := 0x08
def brk : UInt8 := 0x10
/-- Has no latch behind it and reads as one. -/
def unused : UInt8 := 0x20
def overflow : UInt8 := 0x40
def negative : UInt8 := 0x80

end Flag

structure Registers where
  a : UInt8 := 0
  x : UInt8 := 0
  y : UInt8 := 0
  sp : UInt8 := 0xFD
  pc : UInt16 := 0
  status : UInt8 := Flag.unused ||| Flag.interruptDisable
  deriving DecidableEq, Repr, Inhabited

def withResult (status value : UInt8) : UInt8 :=
  withBit (withBit status Flag.zero (value == 0)) Flag.negative (hasBit value 0x80)

namespace Registers

def flag (r : Registers) (mask : UInt8) : Bool := hasBit r.status mask

def setFlag (r : Registers) (mask : UInt8) (on : Bool) : Registers :=
  { r with status := withBit r.status mask on }

def result (r : Registers) (value : UInt8) : Registers :=
  { r with status := withResult r.status value }

def carryIn (r : Registers) : Nat := if r.flag Flag.carry then 1 else 0

def restoreStatus (r : Registers) (pulled : UInt8) : Registers :=
  { r with status := (pulled ||| Flag.unused) &&& ~~~Flag.brk }

def softwareStatus (r : Registers) : UInt8 := r.status ||| Flag.brk ||| Flag.unused

def hardwareStatus (r : Registers) : UInt8 := (r.status ||| Flag.unused) &&& ~~~Flag.brk

def stackAddress (r : Registers) : UInt16 := 0x0100 ||| r.sp.toUInt16

variable {β : Type} [Bus β]

def push (r : Registers) (bus : β) (value : UInt8) : Registers × β :=
  let bus := Bus.write bus r.stackAddress value
  ({ r with sp := r.sp - 1 }, bus)

def pull (r : Registers) (bus : β) : UInt8 × Registers × β :=
  let r := { r with sp := r.sp + 1 }
  let (value, bus) := Bus.read bus r.stackAddress
  (value, r, bus)

def pushWord (r : Registers) (bus : β) (value : UInt16) : Registers × β :=
  let (r, bus) := r.push bus (highByte value)
  r.push bus (lowByte value)

def pullWord (r : Registers) (bus : β) : UInt16 × Registers × β :=
  let (low, r, bus) := r.pull bus
  let (high, r, bus) := r.pull bus
  (word low high, r, bus)

def fetch (r : Registers) (bus : β) : UInt8 × Registers × β :=
  let (value, bus) := Bus.read bus r.pc
  (value, { r with pc := r.pc + 1 }, bus)

def fetchWord (r : Registers) (bus : β) : UInt16 × Registers × β :=
  let (low, r, bus) := r.fetch bus
  let (high, r, bus) := r.fetch bus
  (word low high, r, bus)

def returnFromCall (r : Registers) (bus : β) : Registers × β :=
  let (target, r, bus) := r.pullWord bus
  ({ r with pc := target + 1 }, bus)

/-- Push where to resume and `pushed`, then go where `vector` points with interrupts disabled. -/
def enter (r : Registers) (bus : β) (pushed : UInt8) (vector : UInt16) : Registers × β :=
  let (r, bus) := r.pushWord bus r.pc
  let (r, bus) := r.push bus pushed
  let (target, bus) := Bus.readWord bus vector
  ({ r.setFlag Flag.interruptDisable true with pc := target }, bus)

end Registers

end Atari800XL.Cpu
