import Atari800XL.Cpu.Instruction

namespace Atari800XL.Cpu

namespace Registers

def addBinary (r : Registers) (value : UInt8) : Registers :=
  let sum := r.a.toNat + value.toNat + r.carryIn
  let out := UInt8.ofNat sum
  let status := withBit r.status Flag.carry (sum > 0xFF)
  let status := withBit status Flag.overflow (hasBit ((r.a ^^^ out) &&& (value ^^^ out)) 0x80)
  { r with a := out, status := withResult status out }

/-- Sum with carry of two digit pairs. Zero follows the binary sum; negative and overflow follow
the high digit before it is brought back below ten; carry follows it afterwards. -/
def addDecimal (r : Registers) (value : UInt8) : Registers :=
  let binary := r.a.toNat + value.toNat + r.carryIn
  let low := r.a.toNat % 16 + value.toNat % 16 + r.carryIn
  let low := if low > 9 then low + 6 else low
  let high := r.a.toNat / 16 + value.toNat / 16 + if low > 15 then 1 else 0
  let adjusted := if high > 9 then high + 6 else high
  let status := withBit r.status Flag.zero (binary % 256 == 0)
  let status := withBit status Flag.negative (high / 8 % 2 == 1)
  let status := withBit status Flag.overflow
    (hasBit (UInt8.ofNat (high * 16) ^^^ r.a) 0x80 && !hasBit (r.a ^^^ value) 0x80)
  { r with
    a := UInt8.ofNat (adjusted * 16 + low % 16)
    status := withBit status Flag.carry (adjusted > 15) }

def add (r : Registers) (value : UInt8) : Registers :=
  if r.flag Flag.decimal then r.addDecimal value else r.addBinary value

def digitDifference (a b borrow : Nat) : Nat × Bool :=
  let d := a + 16 - b - borrow
  if d < 16 then ((d + 10) % 16, true) else (d % 16, false)

def subtractDigits (a b : UInt8) (borrow : Nat) : UInt8 :=
  let (low, borrowed) := digitDifference (a.toNat % 16) (b.toNat % 16) borrow
  let (high, _) := digitDifference (a.toNat / 16) (b.toNat / 16) (if borrowed then 1 else 0)
  UInt8.ofNat (high * 16 + low)

/-- Difference with borrow. The flags follow the binary difference in both number systems. -/
def subtract (r : Registers) (value : UInt8) : Registers :=
  let borrow := 1 - r.carryIn
  let out := r.a - value - UInt8.ofNat borrow
  let status := withBit r.status Flag.carry (r.a.toNat ≥ value.toNat + borrow)
  let status := withBit status Flag.overflow (hasBit ((r.a ^^^ value) &&& (r.a ^^^ out)) 0x80)
  { r with
    a := if r.flag Flag.decimal then subtractDigits r.a value borrow else out
    status := withResult status out }

def compare (r : Registers) (register value : UInt8) : Registers :=
  let status := withBit r.status Flag.carry (register ≥ value)
  { r with status := withResult status (register - value) }

def loadA (r : Registers) (value : UInt8) : Registers := { r.result value with a := value }

def loadX (r : Registers) (value : UInt8) : Registers := { r.result value with x := value }

def loadY (r : Registers) (value : UInt8) : Registers := { r.result value with y := value }

def shifted (r : Registers) (carry : Bool) (value : UInt8) : Registers :=
  { r with status := withResult (withBit r.status Flag.carry carry) value }

def shiftLeft (r : Registers) (value : UInt8) : UInt8 × Registers :=
  let out := value <<< 1
  (out, r.shifted (hasBit value 0x80) out)

def shiftRight (r : Registers) (value : UInt8) : UInt8 × Registers :=
  let out := value >>> 1
  (out, r.shifted (hasBit value 0x01) out)

def rotateLeft (r : Registers) (value : UInt8) : UInt8 × Registers :=
  let out := (value <<< 1) ||| (if r.flag Flag.carry then 0x01 else 0)
  (out, r.shifted (hasBit value 0x80) out)

def rotateRight (r : Registers) (value : UInt8) : UInt8 × Registers :=
  let out := (value >>> 1) ||| (if r.flag Flag.carry then 0x80 else 0)
  (out, r.shifted (hasBit value 0x01) out)

end Registers

/-- The bits that the two unstable immediate loads see set in the accumulator. -/
def unstableBits : UInt8 := 0xEE

def Load.apply (op : Load) (r : Registers) (v : UInt8) : Registers :=
  match op with
  | .lda => r.loadA v
  | .ldx => r.loadX v
  | .ldy => r.loadY v
  | .lax => { r.result v with a := v, x := v }
  | .las =>
    let v := v &&& r.sp
    { r.result v with a := v, x := v, sp := v }
  | .adc => r.add v
  | .sbc => r.subtract v
  | .cmp => r.compare r.a v
  | .cpx => r.compare r.x v
  | .cpy => r.compare r.y v
  | .and => r.loadA (r.a &&& v)
  | .ora => r.loadA (r.a ||| v)
  | .eor => r.loadA (r.a ^^^ v)
  | .bit =>
    let status := withBit r.status Flag.zero (r.a &&& v == 0)
    let status := withBit status Flag.negative (hasBit v 0x80)
    { r with status := withBit status Flag.overflow (hasBit v 0x40) }
  | .anc =>
    let r := r.loadA (r.a &&& v)
    r.setFlag Flag.carry (hasBit r.a 0x80)
  | .alr =>
    let (out, r) := r.shiftRight (r.a &&& v)
    { r with a := out }
  | .arr =>
    let out := ((r.a &&& v) >>> 1) ||| (if r.flag Flag.carry then 0x80 else 0)
    let r := (r.loadA out).setFlag Flag.carry (hasBit out 0x40)
    r.setFlag Flag.overflow (hasBit ((out >>> 6) ^^^ (out >>> 5)) 0x01)
  | .sbx =>
    let both := r.a &&& r.x
    { r.compare both v with x := both - v }
  | .ane => r.loadA ((r.a ||| unstableBits) &&& r.x &&& v)
  | .lxa =>
    let out := (r.a ||| unstableBits) &&& v
    { r.result out with a := out, x := out }
  | .skip => r

def Modify.apply (op : Modify) (r : Registers) (v : UInt8) : UInt8 × Registers :=
  match op with
  | .asl => r.shiftLeft v
  | .lsr => r.shiftRight v
  | .rol => r.rotateLeft v
  | .ror => r.rotateRight v
  | .inc => (v + 1, r.result (v + 1))
  | .dec => (v - 1, r.result (v - 1))
  | .slo =>
    let (out, r) := r.shiftLeft v
    (out, r.loadA (r.a ||| out))
  | .rla =>
    let (out, r) := r.rotateLeft v
    (out, r.loadA (r.a &&& out))
  | .sre =>
    let (out, r) := r.shiftRight v
    (out, r.loadA (r.a ^^^ out))
  | .rra =>
    let (out, r) := r.rotateRight v
    (out, r.add out)
  | .dcp => (v - 1, r.compare r.a (v - 1))
  | .isc => (v + 1, r.subtract (v + 1))

def Store.value (op : Store) (r : Registers) : UInt8 :=
  match op with
  | .sta => r.a
  | .stx => r.x
  | .sty => r.y
  | .sax => r.a &&& r.x

def StoreHigh.value (op : StoreHigh) (r : Registers) : UInt8 :=
  match op with
  | .shx => r.x
  | .shy => r.y
  | .sha | .tas => r.a &&& r.x

def StoreHigh.apply (op : StoreHigh) (r : Registers) : Registers :=
  match op with
  | .tas => { r with sp := r.a &&& r.x }
  | .sha | .shx | .shy => r

def Transfer.apply (op : Transfer) (r : Registers) : Registers :=
  match op with
  | .tax => r.loadX r.a
  | .txa => r.loadA r.x
  | .tay => r.loadY r.a
  | .tya => r.loadA r.y
  | .tsx => r.loadX r.sp
  | .txs => { r with sp := r.x }
  | .inx => r.loadX (r.x + 1)
  | .iny => r.loadY (r.y + 1)
  | .dex => r.loadX (r.x - 1)
  | .dey => r.loadY (r.y - 1)
  | .clc => r.setFlag Flag.carry false
  | .sec => r.setFlag Flag.carry true
  | .cli => r.setFlag Flag.interruptDisable false
  | .sei => r.setFlag Flag.interruptDisable true
  | .clv => r.setFlag Flag.overflow false
  | .cld => r.setFlag Flag.decimal false
  | .sed => r.setFlag Flag.decimal true
  | .nop => r

end Atari800XL.Cpu
