import Atari800XL.Gtia.Objects
import Atari800XL.Gtia.Priority

namespace Atari800XL.Gtia

open Display

def Quad.meet (q : Quad) (mask : UInt8) (bits : Nat → UInt8) : Quad :=
  Vector.ofFn fun i => if mask.toNat.testBit i.val then q[i] ||| bits i.val else q[i]

/-- Note what meets in one colour clock. A player does not meet itself. -/
def Hits.note (h : Hits) (players missiles playfields : UInt8) : Hits :=
  { missilePlayfields := Quad.meet h.missilePlayfields missiles fun _ => playfields
    missilePlayers := Quad.meet h.missilePlayers missiles fun _ => players
    playerPlayfields := Quad.meet h.playerPlayfields players fun _ => playfields
    playerPlayers :=
      Quad.meet h.playerPlayers players fun i => players &&& ~~~(1 <<< UInt8.ofNat i) }

def composePixel (g : Gtia) (players missiles : UInt8) (line : Line) (x : Nat) : Line :=
  if h : x < lineWidth then
    match g.objectColor players missiles (line.playfields.get x h) with
    | some color => { line with colors := line.colors.set x color h }
    | none => line
  else line

def composeClock (state : Gtia × Line) (clock : Nat) : Gtia × Line :=
  let (g, line) := state
  let players := g.playersAt clock
  let missiles := g.missilesAt clock
  if players == 0 && missiles == 0 then (g, line)
  else
    let x := 2 * clock
    let hits := g.hits.note players missiles (line.playfields.getD x)
    let line := g.composePixel players missiles line x
    let line := g.composePixel players missiles line (x + 1)
    ({ g with hits }, line)

def drawLine (g : Gtia) (line : Line) : Gtia × Line :=
  if g.objectsEmpty then (g, line)
  else Nat.fold colorClocks (fun clock _ state => composeClock state clock) (g, line)

end Atari800XL.Gtia
