import Atari800XL.Bus
import Atari800XL.Bytes

namespace Atari800XL

abbrev Ram := Bytes 65536

namespace Ram

def read (ram : Ram) (address : UInt16) : UInt8 := ram.get address.toNat address.toNat_lt

def write (ram : Ram) (address : UInt16) (value : UInt8) : Ram :=
  ram.set address.toNat value address.toNat_lt

def filled (value : UInt8) : Ram := Bytes.replicate _ value

def writeBytes (ram : Ram) (address : UInt16) (bytes : ByteArray) : Ram :=
  (bytes.foldl (fun (ram, address) b => (Ram.write ram address b, address + 1)) (ram, address)).1

@[simp] theorem read_write (ram : Ram) (a b : UInt16) (value : UInt8) :
    (ram.write a value).read b = if a = b then value else ram.read b := by
  simp [read, write, UInt16.toNat_inj]

instance : Bus Ram where
  read ram address := (ram.read address, ram)
  write := write

end Ram

end Atari800XL
