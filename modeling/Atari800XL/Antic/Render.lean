import Atari800XL.Antic.Registers
import Atari800XL.Gtia.Registers
import Atari800XL.Memory.Basic

namespace Atari800XL.Antic

open Display

structure Cell where
  bits : UInt8
  code : UInt8
  deriving DecidableEq, Repr, Inhabited

def characterSet (mode : Mode) (base : UInt8) : UInt16 :=
  match mode with
  | .mode6 | .mode7 => word 0 (base &&& 0xFE)
  | _ => word 0 (base &&& 0xFC)

def characterRow (control row : UInt8) : UInt8 :=
  if hasBit control 0x04 then 7 - (row &&& 7) else row &&& 7

def characterByte (m : Memory) (set : UInt16) (character row : UInt8) : UInt8 :=
  m.peek (set + (character.toUInt16 * 8 + row.toUInt16))

def inverse (control code bits : UInt8) : UInt8 :=
  if !hasBit code 0x80 then bits
  else
    let bits := if hasBit control 0x01 then 0 else bits
    if hasBit control 0x02 then ~~~bits else bits

def descenderRow? (code row : UInt8) : Option UInt8 :=
  if code &&& 0x7F ≥ 0x60 then
    if row < 2 then none
    else if row < 8 then some row
    else if row < 10 then some (row - 8)
    else none
  else if row < 8 then some row
  else none

def cell (a : Antic) (m : Memory) (row code : UInt8) : Cell :=
  let set := characterSet a.mode a.characterBase
  let glyph (character row : UInt8) : UInt8 :=
    characterByte m set character (characterRow a.characterControl row)
  let bits := match a.mode with
    | .mode2 => inverse a.characterControl code (glyph (code &&& 0x7F) row)
    | .mode3 =>
      inverse a.characterControl code <|
        match descenderRow? code row with
        | some row => glyph (code &&& 0x7F) row
        | none => 0
    | .mode4 => glyph (code &&& 0x7F) row
    | .mode5 => glyph (code &&& 0x7F) (row / 2)
    | .mode6 => glyph (code &&& 0x3F) row
    | .mode7 => glyph (code &&& 0x3F) (row / 2)
    | _ => code
  ⟨bits, code⟩

def playfield (g : Gtia) (n : Nat) : Pixel :=
  match n with
  | 0 => ⟨g.background, 0⟩
  | 1 => ⟨g.playfieldColor.at4 0, 0x01⟩
  | 2 => ⟨g.playfieldColor.at4 1, 0x02⟩
  | 3 => ⟨g.playfieldColor.at4 2, 0x04⟩
  | _ => ⟨g.playfieldColor.at4 3, 0x08⟩

/-- A set pixel of half a colour clock has the hue of playfield 2 and the brightness of
playfield 1. Both kinds belong to playfield 2. -/
def fine (g : Gtia) (on : Bool) : Pixel :=
  let back := g.playfieldColor.at4 2
  if on then ⟨(back &&& 0xF0) ||| (g.playfieldColor.at4 1 &&& 0x0E), 0x04⟩ else ⟨back, 0x04⟩

def bitAt (bits : UInt8) (i : Nat) : Bool := hasBit bits (0x80 >>> UInt8.ofNat i)

def pairAt (bits : UInt8) (i : Nat) : Nat := ((bits >>> (6 - 2 * UInt8.ofNat i)) &&& 0x03).toNat

def nibbleAt (bits : UInt8) (i : Nat) : UInt8 := if i = 0 then bits >>> 4 else bits &&& 0x0F

/-- Four bits as a colour: a brightness of the background's hue, one of nine registers, or a hue of
the background's brightness. -/
def paletteColor (g : Gtia) (nibble : UInt8) : Pixel :=
  match (g.priority >>> 6).toNat with
  | 1 => ⟨(g.background &&& 0xF0) ||| nibble, 0⟩
  | 2 =>
    if nibble < 4 then ⟨g.playerColor.at4 nibble.toNat, 0⟩
    else if nibble < 8 then playfield g (nibble.toNat - 3)
    else if nibble < 12 then ⟨g.background, 0⟩
    else playfield g (nibble.toNat - 11)
  | _ => ⟨(nibble <<< 4) ||| (g.background &&& 0x0F), 0⟩

def cellPixel (g : Gtia) (mode : Mode) (c : Cell) (i : Nat) : Pixel :=
  match mode with
  | .blank | .mode2 | .mode3 => fine g (bitAt c.bits i)
  | .mode4 | .mode5 =>
    let n := pairAt c.bits (i / 2)
    playfield g (if n = 3 && hasBit c.code 0x80 then 4 else n)
  | .mode6 | .mode7 =>
    playfield g (if bitAt c.bits (i / 2) then (c.code >>> 6).toNat + 1 else 0)
  | .mode8 => playfield g (pairAt c.bits (i / 8))
  | .modeA => playfield g (pairAt c.bits (i / 4))
  | .modeD | .modeE => playfield g (pairAt c.bits (i / 2))
  | .mode9 => playfield g (if bitAt c.bits (i / 4) then 1 else 0)
  | .modeB | .modeC => playfield g (if bitAt c.bits (i / 2) then 1 else 0)
  | .modeF =>
    if hasBit g.priority 0xC0 then paletteColor g (nibbleAt c.bits (i / 4))
    else fine g (bitAt c.bits i)

def rowPixel (g : Gtia) (mode : Mode) (cells : Array Cell) (i : Nat) : Pixel :=
  cellPixel g mode (cells.getD (i / mode.pixelsPerByte) default) (i % mode.pixelsPerByte)

/-- Where the first byte of data lies. Scrolling shifts the line to the right by colour clocks. -/
def dataStart (a : Antic) (width : Width) : Nat :=
  if a.scrollsSideways then (a.fetchWidth width).left + 2 * a.horizontalScroll.toNat else width.left

def render (a : Antic) (m : Memory) (g : Gtia) (width : Width) (row : UInt8) (line : Line) : Line :=
  let cells := a.data.data.map (a.cell m row)
  let start := a.dataStart width
  let left := max start width.left
  let right := min width.right (start + a.data.size * a.mode.pixelsPerByte)
  line.paint left (right - left) fun x => rowPixel g a.mode cells (x - start)

end Atari800XL.Antic
