import Atari800XL.Proofs.Cpu.Morphism
import Atari800XL.Proofs.Cpu.Targets
import Atari800XL.Ram

namespace Atari800XL

structure Traced where
  ram : Ram
  reads : List UInt16 := []
  writes : List UInt16 := []

namespace Traced

def start (ram : Ram) : Traced := { ram }

instance : Bus Traced where
  read t address := (t.ram.read address, { t with reads := t.reads ++ [address] })
  write t address value :=
    { t with ram := t.ram.write address value, writes := t.writes ++ [address] }

@[simp] theorem bus_read (t : Traced) (address : UInt16) :
    Bus.read t address = (t.ram.read address, { t with reads := t.reads ++ [address] }) := rfl

@[simp] theorem bus_write (t : Traced) (address : UInt16) (value : UInt8) :
    Bus.write t address value =
      { t with ram := t.ram.write address value, writes := t.writes ++ [address] } := rfl

theorem morphism_ram : Bus.Morphism Traced.ram := ⟨fun _ _ => rfl, fun _ _ _ => rfl⟩

end Traced

namespace Cpu

section

variable (r : Registers) (ram : Ram)

def operandByte : UInt8 := ram.read (r.pc + 1)

def operandWord : UInt16 := word (ram.read (r.pc + 1)) (ram.read (r.pc + 2))

namespace AddressMode

def pointer? (mode : AddressMode) : Option (UInt16 × UInt16) :=
  match mode with
  | .indirectX =>
    let p := operandByte r ram + r.x
    some (p.toUInt16, (p + 1).toUInt16)
  | .indirectY =>
    let p := operandByte r ram
    some (p.toUInt16, (p + 1).toUInt16)
  | .indirect =>
    let p := operandWord r ram
    some (p, word (lowByte p + 1) (highByte p))
  | _ => none

def base (mode : AddressMode) : UInt16 :=
  match mode with
  | .immediate => r.pc + 1
  | .zeroPage => (operandByte r ram).toUInt16
  | .zeroPageX => (operandByte r ram + r.x).toUInt16
  | .zeroPageY => (operandByte r ram + r.y).toUInt16
  | .absolute | .absoluteX | .absoluteY => operandWord r ram
  | .indirectX | .indirectY | .indirect =>
    ((mode.pointer? r ram).map fun p => word (ram.read p.1) (ram.read p.2)).getD 0

def index (mode : AddressMode) : UInt8 :=
  match mode with
  | .absoluteX => r.x
  | .absoluteY | .indirectY => r.y
  | _ => 0

def effective (mode : AddressMode) : UInt16 := mode.base r ram + (mode.index r).toUInt16

def fetches (mode : AddressMode) : List UInt16 :=
  let operand :=
    match mode with
    | .immediate => []
    | .absolute | .absoluteX | .absoluteY | .indirect => [r.pc + 1, r.pc + 2]
    | _ => [r.pc + 1]
  operand ++ ((mode.pointer? r ram).map fun p => [p.1, p.2]).getD []

end AddressMode

end

variable (r : Registers) (t : Traced)

theorem add_one_add_one (a : UInt16) : a + 1 + 1 = a + 2 := UInt16.add_assoc a 1 1

theorem fetch_behindOpcode :
    r.behindOpcode.fetch t =
      (operandByte r t.ram, { r with pc := r.pc + 2 },
        { t with reads := t.reads ++ [r.pc + 1] }) := by
  rw [← add_one_add_one]
  rfl

theorem fetchWord_behindOpcode :
    r.behindOpcode.fetchWord t =
      (operandWord r t.ram, { r with pc := r.pc + 3 },
        { t with reads := t.reads ++ [r.pc + 1, r.pc + 2] }) := by
  have third : r.pc + 2 + 1 = r.pc + 3 := UInt16.add_assoc r.pc 2 1
  rw [Registers.fetchWord, fetch_behindOpcode]
  simp [Registers.fetch, operandByte, operandWord, third]

theorem readPair_traced (low high : UInt16) :
    Bus.readPair t low high =
      (word (t.ram.read low) (t.ram.read high), { t with reads := t.reads ++ [low, high] }) := by
  simp [Bus.readPair]

theorem next_in_page (p : UInt16) :
    (p &&& 0xFF00) ||| ((p + 1) &&& 0x00FF) = word (lowByte p + 1) (highByte p) := by
  have next : lowByte (p + 1) = lowByte p + 1 := UInt16.toUInt8_add p 1
  rw [and_upper, and_lower, next, word, word]
  simp

theorem resolve_traced (mode : AddressMode) :
    mode.resolve r.behindOpcode t =
      (⟨mode.base r t.ram, mode.effective r t.ram⟩,
        { r with pc := r.pc + 1 + mode.operandLength },
        { t with reads := t.reads ++ mode.fetches r t.ram }) := by
  have two : r.pc + 1 + 2 = r.pc + 3 := UInt16.add_assoc r.pc 1 2
  cases mode with
  | immediate =>
    simp [AddressMode.resolve, Effective.direct, AddressMode.base, AddressMode.index,
      AddressMode.effective, AddressMode.pointer?, AddressMode.fetches,
      AddressMode.operandLength, Registers.behindOpcode]
  | _ =>
    simp [AddressMode.resolve, fetch_behindOpcode, fetchWord_behindOpcode, readZeroPageWord,
      readPointer, readPair_traced, next_in_page, Effective.direct, Effective.indexed,
      AddressMode.base, AddressMode.index, AddressMode.effective, AddressMode.pointer?,
      AddressMode.fetches, AddressMode.operandLength, add_one_add_one, two,
      -UInt8.toUInt16_add]

end Cpu

end Atari800XL
