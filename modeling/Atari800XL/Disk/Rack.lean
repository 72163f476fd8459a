import Atari800XL.Disk.Image
import Atari800XL.Journal

namespace Atari800XL.Disk

def slotCount : Nat := 8

structure Rack where
  images : Array Image := #[]
  slots : Vector (Option Nat) slotCount := Vector.replicate _ none
  /-- The image in each drive, as its index; drive 1 comes first. -/
  drives : Vector (Option Nat) slotCount := Vector.replicate _ none
  deriving Inhabited

namespace Rack

def slot (r : Rack) (slot : Nat) : Option Nat := r.slots[slot]?.join

def drive (r : Rack) (device : Nat) : Option Nat :=
  match device with
  | 0 => none
  | d + 1 => r.drives[d]?.join

def image? (r : Rack) (index : Option Nat) : Option Image := index.bind (r.images[·]?)

def mounted (r : Rack) (device : Nat) : Option Image := r.image? (r.drive device)

def exportSlot (r : Rack) (slot : Nat) : Option ByteArray :=
  (r.image? (r.slot slot)).map (·.bytes)

def replace (r : Rack) (device : Nat) (image : Image) : Rack :=
  match r.drive device with
  | none => r
  | some index => { r with images := r.images.setIfInBounds index image }

def upload (r : Rack) (slot : Nat) (name : String) (data : ByteArray) :
    Except Fault (Nat × Rack × List Notice) :=
  if h : slot < slotCount then do
    let image ← Image.parse name data
    let notices := [.imageAccepted name image.sectorCount image.sectorSize image.writable,
      .diskStored name slot]
    match r.slots[slot] with
    | some index =>
      return (index, { r with images := r.images.setIfInBounds index image }, notices)
    | none =>
      let index := r.images.size
      return (index,
        { r with images := r.images.push image, slots := r.slots.set slot (some index) }, notices)
  else .error (.invalidSlot slot)

def mount (r : Rack) (slot device : Nat) : Except Fault (Rack × List Notice) :=
  if h : slot < slotCount then
    if hd : device ≠ 0 ∧ device ≤ slotCount then
      match r.slots[slot] with
      | none => .error (.missingResource .diskImage)
      | some index =>
        let name := ((r.images[index]?).map (·.name)).getD ""
        .ok ({ r with drives := r.drives.set (device - 1) (some index) (by omega) },
          [.diskMounted device name])
    else .error (.invalidSlot device)
  else .error (.invalidSlot slot)

def unmount (r : Rack) (device : Nat) : Rack :=
  match device with
  | 0 => r
  | d + 1 => { r with drives := r.drives.setIfInBounds d none }

end Rack

end Atari800XL.Disk
