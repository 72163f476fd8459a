import Atari800XL.Gtia.Registers
import Atari800XL.Memory.Basic

namespace Atari800XL.Gtia

def objectWidth (size : UInt8) : Nat :=
  match (size &&& 0x03).toNat with
  | 1 => 2
  | 3 => 4
  | _ => 1

def covers (graphics : UInt8) (bits : Nat) (position : UInt8) (width clock : Nat) : Bool :=
  position.toNat ≤ clock &&
    let i := (clock - position.toNat) / width
    i < bits && graphics.toNat.testBit (bits - 1 - i)

def playerCovers (g : Gtia) (p clock : Nat) : Bool :=
  covers (g.playerGraphics.at4 p) 8 (g.playerPosition.at4 p)
    (objectWidth (g.playerSize.at4 p)) clock

def missileField (value : UInt8) (m : Nat) : UInt8 := (value >>> (2 * UInt8.ofNat m)) &&& 0x03

def missileCovers (g : Gtia) (m clock : Nat) : Bool :=
  covers (missileField g.missileGraphics m) 2 (g.missilePosition.at4 m)
    (objectWidth (missileField g.missileSize m)) clock

def bitIf (on : Bool) (bit : UInt8) : UInt8 := if on then bit else 0

def mask4 (f : Nat → Bool) : UInt8 :=
  bitIf (f 0) 1 ||| bitIf (f 1) 2 ||| bitIf (f 2) 4 ||| bitIf (f 3) 8

def playersAt (g : Gtia) (clock : Nat) : UInt8 := mask4 fun p => g.playerCovers p clock

def missilesAt (g : Gtia) (clock : Nat) : UInt8 := mask4 fun m => g.missileCovers m clock

def objectsEmpty (g : Gtia) : Bool := g.missileGraphics == 0 && g.playerGraphics.all (· == 0)

structure ObjectArea where
  base : UInt16
  line : UInt16
  missiles : UInt16
  players : UInt16
  stride : UInt16
  deriving DecidableEq, Repr, Inhabited

def objectArea (single : Bool) (pageBase : UInt8) (scanline : Nat) : ObjectArea :=
  let line := UInt16.ofNat scanline
  if single then
    { base := (pageBase &&& 0xF8).toUInt16 <<< 8, line, missiles := 0x300, players := 0x400,
      stride := 0x100 }
  else
    { base := (pageBase &&& 0xFC).toUInt16 <<< 8, line := line / 2, missiles := 0x180,
      players := 0x200, stride := 0x80 }

def loadMissiles (g : Gtia) (data : UInt8) (held : UInt8 → Bool) : Gtia :=
  let keep (m : UInt8) : UInt8 := if held (1 <<< m) then 0 else 0x03 <<< (2 * m)
  let mask := keep 0 ||| keep 1 ||| keep 2 ||| keep 3
  { g with missileGraphics := (g.missileGraphics &&& ~~~mask) ||| (data &&& mask) }

def loadPlayer (g : Gtia) (m : Memory) (area : ObjectArea) (held : UInt8 → Bool) (p : Nat) : Gtia :=
  if held (0x10 <<< UInt8.ofNat p) then g
  else
    let address := area.base + (area.players + area.stride * UInt16.ofNat p + area.line)
    { g with playerGraphics := g.playerGraphics.put p (m.peek address) }

/-- Fetch the graphics of the objects for a line; also the cycles it takes. Fetching players
fetches missiles too, and what is fetched is loaded only as the control register says. Held-back
objects are not loaded on even lines, unless every line has a byte of its own. -/
def fetchObjects (g : Gtia) (m : Memory) (scanline : Nat) (dmaControl pageBase : UInt8) :
    Nat × Gtia :=
  let single := hasBit dmaControl 0x10
  let area := objectArea single pageBase scanline
  let held (bit : UInt8) : Bool := !single && scanline % 2 == 0 && hasBit g.verticalDelay bit
  if !hasBit dmaControl 0x0C then (0, g)
  else
    let g :=
      if hasBit g.control 0x01 then
        g.loadMissiles (m.peek (area.base + (area.missiles + area.line))) held
      else g
    if !hasBit dmaControl 0x08 then (1, g)
    else
      let g :=
        if hasBit g.control 0x02 then
          [0, 1, 2, 3].foldl (fun g p => g.loadPlayer m area held p) g
        else g
      (5, g)

end Atari800XL.Gtia
