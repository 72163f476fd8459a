import Atari800XL.Bytes

namespace Atari800XL.Display

def cyclesPerLine : UInt64 := 114

abbrev lineWidth : Nat := 456
def colorClocks : Nat := 228

def screenWidth : Nat := 384
def screenHeight : Nat := 240
def screenLeft : Nat := 64
def firstDisplayLine : Nat := 8
def verticalBlankLine : Nat := 248

structure Pixel where
  color : UInt8
  playfield : UInt8
  deriving DecidableEq, Repr, Inhabited

structure Line where
  colors : Bytes lineWidth := Bytes.replicate _ 0
  playfields : Bytes lineWidth := Bytes.replicate _ 0
  deriving Inhabited

namespace Line

def blank (background : UInt8) : Line := { colors := Bytes.replicate _ background }

def setPixel (l : Line) (x : Nat) (p : Pixel) (h : x < lineWidth) : Line :=
  { colors := l.colors.set x p.color h, playfields := l.playfields.set x p.playfield h }

def paint (l : Line) (x count : Nat) (f : Nat → Pixel) : Line :=
  match count with
  | 0 => l
  | count + 1 =>
    if h : x < lineWidth then (l.setPixel x (f x) h).paint (x + 1) count f else l

end Line

end Atari800XL.Display
