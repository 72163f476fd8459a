import Atari800XL.Word

namespace Atari800XL

class Bus (β : Type) where
  read : β → UInt16 → UInt8 × β
  write : β → UInt16 → UInt8 → β

namespace Bus

variable {β : Type} [Bus β]

def readPair (bus : β) (low high : UInt16) : UInt16 × β :=
  let (l, bus) := read bus low
  let (h, bus) := read bus high
  (word l h, bus)

def readWord (bus : β) (address : UInt16) : UInt16 × β :=
  readPair bus address (address + 1)

end Bus

end Atari800XL
