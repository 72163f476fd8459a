import Atari800XL.Antic.Mode
import Atari800XL.Display.Line
import Atari800XL.Schedule

namespace Atari800XL

structure Antic where
  linesPerFrame : Nat
  dmaControl : UInt8 := 0
  characterControl : UInt8 := 0
  displayList : UInt16 := 0
  horizontalScroll : UInt8 := 0
  verticalScroll : UInt8 := 0
  objectBase : UInt8 := 0
  characterBase : UInt8 := 0
  interruptEnable : UInt8 := 0
  interruptStatus : UInt8 := 0
  scanline : Nat := 0
  currentLine : Nat := 0
  nextFetch : Nat := Display.firstDisplayLine
  waiting : Bool := false
  mode : Antic.Mode := .blank
  scrollsSideways : Bool := false
  inScrollRegion : Bool := false
  firstRow : UInt8 := 0
  modeStart : Nat := 0
  scanCounter : UInt16 := 0
  data : ByteArray := ByteArray.empty
  deriving Inhabited

namespace Antic

def listInterrupt : UInt8 := 0x80
def blankInterrupt : UInt8 := 0x40

def reset (a : Antic) : Antic := { linesPerFrame := a.linesPerFrame }

def waitForLine (s : Schedule) : Schedule :=
  if s.lineFetch == never then s else s.stallTo s.lineFetch

def write (a : Antic) (register value : UInt8) (s : Schedule) : Antic × Schedule :=
  match (register &&& 0x0F).toNat with
  | 0x00 => ({ a with dmaControl := value }, s)
  | 0x01 => ({ a with characterControl := value &&& 0x07 }, s)
  | 0x02 => ({ a with displayList := word value (highByte a.displayList) }, s)
  | 0x03 => ({ a with displayList := word (lowByte a.displayList) value }, s)
  | 0x04 => ({ a with horizontalScroll := value &&& 0x0F }, s)
  | 0x05 => ({ a with verticalScroll := value &&& 0x0F }, s)
  | 0x07 => ({ a with objectBase := value }, s)
  | 0x09 => ({ a with characterBase := value }, s)
  | 0x0A => (a, waitForLine s)
  | 0x0E => ({ a with interruptEnable := value }, s)
  | 0x0F => ({ a with interruptStatus := 0 }, s)
  | _ => (a, s)

def lineCounter (a : Antic) : UInt8 := UInt8.ofNat (a.currentLine / 2)

def read (a : Antic) (register : UInt8) : UInt8 :=
  match (register &&& 0x0F).toNat with
  | 0x0B => a.lineCounter
  | 0x0C | 0x0D => 0x00
  | 0x0F => a.interruptStatus ||| 0x1F
  | _ => 0xFF

def fireListInterrupt (a : Antic) : Bool × Antic :=
  (hasBit a.interruptEnable listInterrupt,
    { a with interruptStatus := (a.interruptStatus ||| listInterrupt) &&& ~~~blankInterrupt })

def fireBlankInterrupt (a : Antic) : Bool × Antic :=
  (hasBit a.interruptEnable blankInterrupt,
    { a with interruptStatus := (a.interruptStatus ||| blankInterrupt) &&& ~~~listInterrupt })

def displayWidth? (a : Antic) : Option Width := Width.ofControl? a.dmaControl

def fetchWidth (a : Antic) (width : Width) : Width :=
  if a.scrollsSideways then width.wider else width

end Antic

end Atari800XL
