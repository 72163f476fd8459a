import Atari800XL.Display.Line
import Atari800XL.Quad
import Atari800XL.Word

namespace Atari800XL

namespace Gtia

structure Hits where
  missilePlayfields : Quad := Quad.zero
  playerPlayfields : Quad := Quad.zero
  missilePlayers : Quad := Quad.zero
  playerPlayers : Quad := Quad.zero
  deriving DecidableEq, Repr, Inhabited

end Gtia

structure Gtia where
  playerPosition : Quad := Quad.zero
  missilePosition : Quad := Quad.zero
  playerSize : Quad := Quad.zero
  missileSize : UInt8 := 0
  playerGraphics : Quad := Quad.zero
  missileGraphics : UInt8 := 0
  playerColor : Quad := Quad.zero
  playfieldColor : Quad := Quad.zero
  background : UInt8 := 0
  priority : UInt8 := 0
  /-- Objects that are not loaded on even lines; missiles have the low bits. -/
  verticalDelay : UInt8 := 0
  control : UInt8 := 0
  consoleOutput : UInt8 := 0
  consoleKeys : UInt8 := 0
  triggers : Vector Bool 4 := Vector.replicate _ false
  triggerLatches : Vector Bool 4 := Vector.replicate _ false
  cartridge : Bool := false
  pal : Bool := false
  hits : Gtia.Hits := {}
  deriving DecidableEq, Repr, Inhabited

namespace Gtia

def reset (g : Gtia) : Gtia :=
  { pal := g.pal, triggers := g.triggers, consoleKeys := g.consoleKeys, cartridge := g.cartridge }

def colorBits (value : UInt8) : UInt8 := value &&& 0xFE

def write (g : Gtia) (register value : UInt8) : Gtia :=
  let r := (register &&& 0x1F).toNat
  if r < 0x04 then { g with playerPosition := g.playerPosition.put r value }
  else if r < 0x08 then { g with missilePosition := g.missilePosition.put (r - 0x04) value }
  else if r < 0x0C then { g with playerSize := g.playerSize.put (r - 0x08) (value &&& 0x03) }
  else if r = 0x0C then { g with missileSize := value }
  else if r < 0x11 then { g with playerGraphics := g.playerGraphics.put (r - 0x0D) value }
  else if r = 0x11 then { g with missileGraphics := value }
  else if r < 0x16 then { g with playerColor := g.playerColor.put (r - 0x12) (colorBits value) }
  else if r < 0x1A then
    { g with playfieldColor := g.playfieldColor.put (r - 0x16) (colorBits value) }
  else match r with
    | 0x1A => { g with background := colorBits value }
    | 0x1B => { g with priority := value }
    | 0x1C => { g with verticalDelay := value }
    | 0x1D =>
      { g with
        control := value
        triggerLatches :=
          if hasBit value 0x04 then g.triggerLatches else Vector.replicate _ false }
    | 0x1E => { g with hits := {} }
    | _ => { g with consoleOutput := value }

/-- A pressed trigger reads zero, and stays zero while it is latched. The fourth register tells of
the cartridge. -/
def readTrigger (g : Gtia) (n : Nat) : UInt8 :=
  if n = 3 then (if g.cartridge then 1 else 0)
  else if (g.triggers[n]?).getD false || (g.triggerLatches[n]?).getD false then 0 else 1

def read (g : Gtia) (register : UInt8) : UInt8 :=
  let r := (register &&& 0x1F).toNat
  if r < 0x04 then g.hits.missilePlayfields.at4 r
  else if r < 0x08 then g.hits.playerPlayfields.at4 (r - 0x04)
  else if r < 0x0C then g.hits.missilePlayers.at4 (r - 0x08)
  else if r < 0x10 then g.hits.playerPlayers.at4 (r - 0x0C)
  else if r < 0x14 then g.readTrigger (r - 0x10)
  else match r with
    | 0x14 => if g.pal then 0x01 else 0x0F
    | 0x1F => 0x08 ||| (~~~(g.consoleKeys ||| g.consoleOutput) &&& 0x07)
    | _ => 0x0F

def setTrigger (g : Gtia) (n : Nat) (pressed : Bool) : Gtia :=
  if n ≥ 3 then g
  else
    { g with
      triggers := g.triggers.setIfInBounds n pressed
      triggerLatches :=
        if pressed && hasBit g.control 0x04 then g.triggerLatches.setIfInBounds n true
        else g.triggerLatches }

def setConsole (g : Gtia) (keys : UInt8) : Gtia := { g with consoleKeys := keys &&& 0x07 }

end Gtia

end Atari800XL
