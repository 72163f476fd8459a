import Atari800XL.Cpu.Arithmetic

namespace Atari800XL.Cpu

structure Effective where
  base : UInt16
  address : UInt16
  deriving DecidableEq, Repr, Inhabited

def Effective.crossed (e : Effective) : Bool := crossesPage e.base e.address

namespace Effective

def direct (address : UInt16) : Effective := ⟨address, address⟩

def indexed (base : UInt16) (index : UInt8) : Effective := ⟨base, base + index.toUInt16⟩

end Effective

structure Outcome (β : Type) where
  regs : Registers
  bus : β
  extra : UInt64

variable {β : Type} [Bus β]

def readZeroPageWord (bus : β) (pointer : UInt8) : UInt16 × β :=
  Bus.readPair bus pointer.toUInt16 (pointer + 1).toUInt16

/-- A pointer anywhere; the address of its second byte does not carry into the high byte. -/
def readPointer (bus : β) (pointer : UInt16) : UInt16 × β :=
  Bus.readPair bus pointer ((pointer &&& 0xFF00) ||| ((pointer + 1) &&& 0x00FF))

def AddressMode.resolve (mode : AddressMode) (r : Registers) (bus : β) :
    Effective × Registers × β :=
  match mode with
  | .immediate => (.direct r.pc, { r with pc := r.pc + 1 }, bus)
  | .zeroPage =>
    let (base, r, bus) := r.fetch bus
    (.direct base.toUInt16, r, bus)
  | .zeroPageX =>
    let (base, r, bus) := r.fetch bus
    (.direct (base + r.x).toUInt16, r, bus)
  | .zeroPageY =>
    let (base, r, bus) := r.fetch bus
    (.direct (base + r.y).toUInt16, r, bus)
  | .absolute =>
    let (base, r, bus) := r.fetchWord bus
    (.direct base, r, bus)
  | .absoluteX =>
    let (base, r, bus) := r.fetchWord bus
    (.indexed base r.x, r, bus)
  | .absoluteY =>
    let (base, r, bus) := r.fetchWord bus
    (.indexed base r.y, r, bus)
  | .indirectX =>
    let (pointer, r, bus) := r.fetch bus
    let (target, bus) := readZeroPageWord bus (pointer + r.x)
    (.direct target, r, bus)
  | .indirectY =>
    let (pointer, r, bus) := r.fetch bus
    let (base, bus) := readZeroPageWord bus pointer
    (.indexed base r.y, r, bus)
  | .indirect =>
    let (pointer, r, bus) := r.fetchWord bus
    let (target, bus) := readPointer bus pointer
    (.direct target, r, bus)

def signExtend (offset : UInt8) : UInt16 :=
  if hasBit offset 0x80 then 0xFF00 ||| offset.toUInt16 else offset.toUInt16

/-- One more cycle when taken, and another when the target lies in another page. -/
def Registers.branch (r : Registers) (bus : β) (taken : Bool) : Outcome β :=
  let (offset, r, bus) := r.fetch bus
  if taken then
    let target := r.pc + signExtend offset
    ⟨{ r with pc := target }, bus, if crossesPage r.pc target then 2 else 1⟩
  else ⟨r, bus, 0⟩

namespace Instruction

def executeLoad (op : Load) (mode : AddressMode) (r : Registers) (bus : β) : Outcome β :=
  let (e, r, bus) := mode.resolve r bus
  let (v, bus) := Bus.read bus e.address
  ⟨op.apply r v, bus, if e.crossed then 1 else 0⟩

def executeStore (op : Store) (mode : AddressMode) (r : Registers) (bus : β) : Outcome β :=
  let (e, r, bus) := mode.resolve r bus
  let bus := Bus.write bus e.address (op.value r)
  ⟨r, bus, 0⟩

def executeStoreHigh (op : StoreHigh) (mode : AddressMode) (r : Registers) (bus : β) : Outcome β :=
  let (e, r, bus) := mode.resolve r bus
  let bus := Bus.write bus e.address (op.value r &&& (highByte e.base + 1))
  ⟨op.apply r, bus, 0⟩

def executeModify (op : Modify) (mode : AddressMode) (r : Registers) (bus : β) : Outcome β :=
  let (e, r, bus) := mode.resolve r bus
  let (v, bus) := Bus.read bus e.address
  let (out, r) := op.apply r v
  let bus := Bus.write bus e.address out
  ⟨r, bus, 0⟩

def execute (i : Instruction) (r : Registers) (bus : β) : Outcome β :=
  match i with
  | .load op mode => executeLoad op mode r bus
  | .store op mode => executeStore op mode r bus
  | .storeHigh op mode => executeStoreHigh op mode r bus
  | .modify op mode => executeModify op mode r bus
  | .modifyA op =>
    let (out, r) := op.apply r r.a
    ⟨{ r with a := out }, bus, 0⟩
  | .transfer op => ⟨op.apply r, bus, 0⟩
  | .branch mask wanted => r.branch bus (r.flag mask == wanted)
  | .jump mode =>
    let (e, r, bus) := mode.resolve r bus
    ⟨{ r with pc := e.address }, bus, 0⟩
  | .jsr =>
    let (target, r, bus) := r.fetchWord bus
    let (r, bus) := r.pushWord bus (r.pc - 1)
    ⟨{ r with pc := target }, bus, 0⟩
  | .rts =>
    let (r, bus) := r.returnFromCall bus
    ⟨r, bus, 0⟩
  | .brk =>
    let r := { r with pc := r.pc + 1 }
    let (r, bus) := r.enter bus r.softwareStatus 0xFFFE
    ⟨r, bus, 0⟩
  | .rti =>
    let (status, r, bus) := r.pull bus
    let r := r.restoreStatus status
    let (target, r, bus) := r.pullWord bus
    ⟨{ r with pc := target }, bus, 0⟩
  | .pha =>
    let (r, bus) := r.push bus r.a
    ⟨r, bus, 0⟩
  | .pla =>
    let (v, r, bus) := r.pull bus
    ⟨r.loadA v, bus, 0⟩
  | .php =>
    let (r, bus) := r.push bus r.softwareStatus
    ⟨r, bus, 0⟩
  | .plp =>
    let (v, r, bus) := r.pull bus
    ⟨r.restoreStatus v, bus, 0⟩
  | .jam => ⟨r, bus, 0⟩

end Instruction

end Atari800XL.Cpu
