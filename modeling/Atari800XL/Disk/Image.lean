import Atari800XL.Fault

namespace Atari800XL

namespace Disk

inductive Density
  | single
  | double
  deriving DecidableEq, Repr, Inhabited

namespace Density

def sectorSize : Density → Nat
  | .single => 128
  | .double => 256

def ofSectorSize? : Nat → Option Density
  | 128 => some .single
  | 256 => some .double
  | _ => none

end Density

def headerSize : Nat := 16
def bootSectors : Nat := 3
def bootSectorSize : Nat := 128

def bodyStart : Nat := headerSize + bootSectors * bootSectorSize

structure Image where
  name : String
  bytes : ByteArray
  density : Density
  writable : Bool
  deriving Inhabited

namespace Image

def byteAt (bytes : ByteArray) (i : Nat) : UInt8 := if h : i < bytes.size then bytes[i] else 0

/-- Check the header. Bit 0 of its last byte protects the image from writing. -/
def parse (name : String) (bytes : ByteArray) : Except Fault Image :=
  if bytes.size < headerSize then .error (.diskImage name .tooShort)
  else if byteAt bytes 0 != 0x96 || byteAt bytes 1 != 0x02 then
    .error (.diskImage name (.badMagic (byteAt bytes 0) (byteAt bytes 1)))
  else
    let size := (byteAt bytes 4).toNat + 256 * (byteAt bytes 5).toNat
    match Density.ofSectorSize? size with
    | none => .error (.diskImage name (.sectorSize size))
    | some density => .ok { name, bytes, density, writable := byteAt bytes 15 &&& 0x01 == 0 }

def payloadSize (sectors sectorSize : Nat) : Nat :=
  min sectors bootSectors * bootSectorSize + (sectors - bootSectors) * sectorSize

def header (payload sectorSize : Nat) : List UInt8 :=
  let paragraphs := payload / 16
  [0x96, 0x02, UInt8.ofNat paragraphs, UInt8.ofNat (paragraphs / 256),
    UInt8.ofNat sectorSize, UInt8.ofNat (sectorSize / 256), UInt8.ofNat (paragraphs / 65536),
    0, 0, 0, 0, 0, 0, 0, 0, 0]

def blank (name : String) (sectors sectorSize : Nat) : Except Fault Image :=
  let payload := payloadSize sectors sectorSize
  parse name ⟨(header payload sectorSize).toArray ++ Array.replicate payload 0⟩

def sectorSize (d : Image) : Nat := d.density.sectorSize

def sectorCount (d : Image) : Nat :=
  let payload := d.bytes.size - headerSize
  let boot := bootSectors * bootSectorSize
  if payload ≤ boot then payload / bootSectorSize
  else bootSectors + (payload - boot) / d.sectorSize

/-- Where a sector starts and how long it is. Sectors count from one. -/
def place (d : Image) (sector : UInt16) : Nat × Nat :=
  let s := sector.toNat
  if s ≤ bootSectors then (headerSize + (s - 1) * bootSectorSize, bootSectorSize)
  else (bodyStart + (s - bootSectors - 1) * d.sectorSize, d.sectorSize)

def sector? (d : Image) (sector : UInt16) : Option (Nat × Nat) :=
  if sector = 0 then none
  else
    let (start, length) := d.place sector
    if start + length ≤ d.bytes.size then some (start, length) else none

def sectorLength (d : Image) (sector : UInt16) : Option Nat := (d.sector? sector).map (·.2)

def readSector (d : Image) (sector : UInt16) : Option ByteArray :=
  (d.sector? sector).map fun (start, length) => d.bytes.extract start (start + length)

def writeSector (d : Image) (sector : UInt16) (data : ByteArray) : Option Image :=
  if !d.writable then none
  else match d.sector? sector with
    | none => none
    | some (start, length) =>
      if data.size = length then some { d with bytes := data.copySlice 0 d.bytes start length }
      else none

def format (d : Image) : Option Image :=
  if d.writable then
    some { d with
      bytes := d.bytes.extract 0 headerSize ++
        ⟨Array.replicate (d.bytes.size - headerSize) 0⟩ }
  else none

def statusBlock (d : Image) : ByteArray :=
  let density : UInt8 := match d.density with
    | .single => 0x10
    | .double => 0x30
  let protection : UInt8 := if d.writable then 0x00 else 0x08
  ⟨#[density ||| protection, 0xFF, 0xE0, 0x00]⟩

end Image

end Disk

end Atari800XL
