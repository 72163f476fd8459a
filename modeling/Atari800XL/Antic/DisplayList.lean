import Atari800XL.Antic.Registers
import Atari800XL.Journal
import Atari800XL.Memory.Basic

/-! The display list: its instructions, how they are fetched, and what each of them makes of the
lines that follow. -/

namespace Atari800XL.Antic

inductive Instruction
  | blank (lines : Nat)
  | jump (wait : Bool)
  | modeLine (mode : Mode) (newAddress sideways vertical : Bool)
  deriving DecidableEq, Repr, Inhabited

namespace Instruction

def decode (command : UInt8) : Instruction :=
  match (command &&& 0x0F).toNat with
  | 0 => .blank (((command >>> 4) &&& 0x07).toNat + 1)
  | 1 => .jump (hasBit command 0x40)
  | _ =>
    .modeLine (Mode.ofCommand command) (hasBit command 0x40) (hasBit command 0x10)
      (hasBit command 0x20)

def interrupts (command : UInt8) : Bool := hasBit command 0x80

def size : Instruction → Nat
  | .jump _ | .modeLine _ true _ _ => 3
  | _ => 1

end Instruction

def nextListAddress (address : UInt16) : UInt16 :=
  (address &&& 0xFC00) ||| ((address + 1) &&& 0x03FF)

def nextScanAddress (address : UInt16) : UInt16 :=
  (address &&& 0xF000) ||| ((address + 1) &&& 0x0FFF)

def fetchByte (a : Antic) (m : Memory) : UInt8 × Antic :=
  (m.peek a.displayList, { a with displayList := nextListAddress a.displayList })

def fetchWord (a : Antic) (m : Memory) : UInt16 × Antic :=
  let (low, a) := a.fetchByte m
  let (high, a) := a.fetchByte m
  (word low high, a)

/-- The rows that a mode line shows first and last. The scroll register cuts the first line of a
scrolled region at its top, and the line that ends the region at its bottom. -/
def rowRange (mode : Mode) (before vertical : Bool) (scroll : UInt8) : UInt8 × UInt8 :=
  match before, vertical with
  | false, true => (scroll, mode.lastRow)
  | true, false => (0, scroll)
  | _, _ => (0, mode.lastRow)

def rowCount (first last : UInt8) : Nat := ((last - first) &&& 0x0F).toNat + 1

def blankOut (a : Antic) : Antic := { a with mode := .blank, inScrollRegion := false }

def perform (a : Antic) (m : Memory) : Instruction → Nat × Antic
  | .blank lines => (lines, a.blankOut)
  | .jump wait =>
    let (target, a) := a.fetchWord m
    (1, { a with displayList := target, waiting := a.waiting || wait }.blankOut)
  | .modeLine mode newAddress sideways vertical =>
    let a :=
      if newAddress then
        let (start, a) := a.fetchWord m
        { a with scanCounter := start }
      else a
    let (first, last) := rowRange mode a.inScrollRegion vertical a.verticalScroll
    (rowCount first last,
      { a with
        mode, scrollsSideways := sideways, inScrollRegion := vertical, firstRow := first })

def interruptDelay : UInt64 := 8

def interruptDeadline (lineStart : UInt64) (count : Nat) : UInt64 :=
  lineStart + UInt64.ofNat (count - 1) * Display.cyclesPerLine + interruptDelay

structure Fetched where
  antic : Antic
  schedule : Schedule
  cycles : Nat
  notices : List Notice

/-- Fetch and carry out the instruction that is due on `line`. -/
def fetchInstruction (a : Antic) (m : Memory) (line : Nat) (lineStart : UInt64) (s : Schedule) :
    Fetched :=
  let address := a.displayList
  let (command, a) := a.fetchByte m
  let instruction := Instruction.decode command
  let (count, a) := a.perform m instruction
  { antic := { a with modeStart := line, nextFetch := line + count }
    schedule :=
      if Instruction.interrupts command then
        s.set .displayListInterrupt (interruptDeadline lineStart count)
      else s
    cycles := instruction.size
    notices := [.listInstruction line address command] }

def fetchDataInto (m : Memory) (count : Nat) (address : UInt16) (data : ByteArray) :
    UInt16 × ByteArray :=
  match count with
  | 0 => (address, data)
  | count + 1 => fetchDataInto m count (nextScanAddress address) (data.push (m.peek address))

def fetchData (a : Antic) (m : Memory) (width : Width) : Nat × Antic :=
  let count := (a.fetchWidth width).bytesPerLine a.mode
  let (scanCounter, data) := fetchDataInto m count a.scanCounter (ByteArray.emptyWithCapacity count)
  (count, { a with scanCounter, data })

end Atari800XL.Antic
