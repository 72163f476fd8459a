import Atari800XL.Word

namespace Atari800XL.Antic

inductive Mode
  | blank
  | mode2
  | mode3
  | mode4
  | mode5
  | mode6
  | mode7
  | mode8
  | mode9
  | modeA
  | modeB
  | modeC
  | modeD
  | modeE
  | modeF
  deriving DecidableEq, Repr, Inhabited

namespace Mode

def ofCommand (command : UInt8) : Mode :=
  match (command &&& 0x0F).toNat with
  | 2 => .mode2
  | 3 => .mode3
  | 4 => .mode4
  | 5 => .mode5
  | 6 => .mode6
  | 7 => .mode7
  | 8 => .mode8
  | 9 => .mode9
  | 10 => .modeA
  | 11 => .modeB
  | 12 => .modeC
  | 13 => .modeD
  | 14 => .modeE
  | 15 => .modeF
  | _ => .blank

def lastRow : Mode → UInt8
  | .mode2 | .mode4 | .mode6 => 7
  | .mode3 => 9
  | .mode5 | .mode7 => 15
  | .mode8 => 7
  | .mode9 | .modeA => 3
  | .modeB | .modeD => 1
  | .modeC | .modeE | .modeF | .blank => 0

def clocksPerByte : Mode → Nat
  | .mode6 | .mode7 | .modeA | .modeB | .modeC => 8
  | .mode8 | .mode9 => 16
  | _ => 4

def pixelsPerByte (mode : Mode) : Nat := 2 * mode.clocksPerByte

def isText : Mode → Bool
  | .mode2 | .mode3 | .mode4 | .mode5 | .mode6 | .mode7 => true
  | _ => false

end Mode

inductive Width
  | narrow
  | normal
  | wide
  deriving DecidableEq, Repr, Inhabited

namespace Width

def ofControl? (dmaControl : UInt8) : Option Width :=
  match (dmaControl &&& 0x03).toNat with
  | 0 => none
  | 1 => some .narrow
  | 2 => some .normal
  | _ => some .wide

def wider : Width → Width
  | .narrow => .normal
  | .normal | .wide => .wide

def left : Width → Nat
  | .narrow => 128
  | .normal => 96
  | .wide => 64

def right : Width → Nat
  | .narrow => 384
  | .normal => 416
  | .wide => 448

def bytesPerLine (width : Width) (mode : Mode) : Nat :=
  (width.right - width.left) / mode.pixelsPerByte

end Width

end Atari800XL.Antic
