import Atari800XL.FileDevice.Status
import Atari800XL.Memory.Basic

namespace Atari800XL.FileDevice

structure Iocb where
  base : UInt16
  deriving DecidableEq, Repr, Inhabited

namespace Iocb

abbrev count : Nat := 8

def ofChannel (channel : Fin count) : Iocb := ⟨0x0340 + UInt16.ofNat channel.val * 16⟩

def closedId : UInt8 := 0xFF

/-- Marks a block that this device has open. -/
def ownId : UInt8 := 0x7F

/-- Where a program jumps to put a byte; a block holds the address less one. -/
def putByteEntry : UInt16 := 0xD180

def handlerId (b : Iocb) (m : Memory) : UInt8 := m.peek b.base
def command (b : Iocb) (m : Memory) : UInt8 := m.peek (b.base + 2)
def bufferAddress (b : Iocb) (m : Memory) : UInt16 := m.peekWord (b.base + 4)
def bufferLength (b : Iocb) (m : Memory) : UInt16 := m.peekWord (b.base + 8)
def mode (b : Iocb) (m : Memory) : UInt8 := m.peek (b.base + 10) &&& 0x0F

def offset (b : Iocb) (m : Memory) : Nat :=
  (m.peek (b.base + 12)).toNat + 256 * (m.peek (b.base + 13)).toNat
    + 65536 * (m.peek (b.base + 14)).toNat

def setHandlerId (b : Iocb) (m : Memory) (id : UInt8) : Memory := m.poke b.base id

def setStatus (b : Iocb) (m : Memory) (status : UInt8) : Memory := m.poke (b.base + 3) status

def setBufferLength (b : Iocb) (m : Memory) (length : Nat) : Memory :=
  (m.poke (b.base + 8) (UInt8.ofNat length)).poke (b.base + 9) (UInt8.ofNat (length / 256))

def setOffset (b : Iocb) (m : Memory) (offset : Nat) : Memory :=
  ((m.poke (b.base + 12) (UInt8.ofNat offset)).poke (b.base + 13)
    (UInt8.ofNat (offset / 256))).poke (b.base + 14) (UInt8.ofNat (offset / 65536))

def claim (b : Iocb) (m : Memory) (unit : UInt8) : Memory :=
  let vector := putByteEntry - 1
  let m := (b.setHandlerId m ownId).poke (b.base + 1) unit
  (m.poke (b.base + 6) (lowByte vector)).poke (b.base + 7) (highByte vector)

def deliver (b : Iocb) (m : Memory) (bytes : ByteArray) : Memory :=
  let start := b.bufferAddress m
  let m := (bytes.foldl (fun (m, address) byte => (Memory.poke m address byte, address + 1))
    (m, start)).1
  b.setBufferLength m bytes.size

def readText (m : Memory) (address : UInt16) : Nat → List Char
  | 0 => []
  | n + 1 =>
    let byte := m.peek address
    if byte == eol || byte == 0 || byte == 0x20 then []
    else Char.ofNat (byte &&& 0x7F).toNat :: readText m (address + 1) n

def target (b : Iocb) (m : Memory) : List Char := readText m (b.bufferAddress m) 64

def namesOwnDevice (b : Iocb) (m : Memory) : Bool := m.peek (b.bufferAddress m) == 0x48

end Iocb

end Atari800XL.FileDevice
