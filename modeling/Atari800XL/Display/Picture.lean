namespace Atari800XL

structure Picture where
  width : Nat
  height : Nat
  pixels : Array UInt32
  deriving DecidableEq, Repr, Inhabited

namespace Picture

def red (pixel : UInt32) : UInt8 := (pixel >>> 16).toUInt8

def green (pixel : UInt32) : UInt8 := (pixel >>> 8).toUInt8

def blue (pixel : UInt32) : UInt8 := pixel.toUInt8

def pushPixel (out : ByteArray) (pixel : UInt32) : ByteArray :=
  ((out.push (red pixel)).push (green pixel)).push (blue pixel)

def bytes (p : Picture) : ByteArray := p.pixels.foldl pushPixel .empty

end Picture

end Atari800XL
