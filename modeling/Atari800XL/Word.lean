namespace Atari800XL

def word (low high : UInt8) : UInt16 := (high.toUInt16 <<< 8) ||| low.toUInt16

def lowByte (w : UInt16) : UInt8 := w.toUInt8

def highByte (w : UInt16) : UInt8 := (w >>> 8).toUInt8

def crossesPage (a b : UInt16) : Bool := highByte a != highByte b

@[inline] def hasBit (value mask : UInt8) : Bool := value &&& mask != 0

@[inline] def withBit (value mask : UInt8) (on : Bool) : UInt8 :=
  if on then value ||| mask else value &&& ~~~mask

end Atari800XL
