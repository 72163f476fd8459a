import Atari800XL.Gtia.Registers

namespace Atari800XL.Gtia

structure Selection where
  player0 : Bool
  player1 : Bool
  player2 : Bool
  player3 : Bool
  playfield0 : Bool
  playfield1 : Bool
  playfield2 : Bool
  playfield3 : Bool
  background : Bool
  deriving DecidableEq, Repr, Inhabited

/-- The select signals, from the priority register and the players and playfields in the pixel. -/
def select (priority players playfields : UInt8) : Selection :=
  let pri0 := hasBit priority 0x01
  let pri1 := hasBit priority 0x02
  let pri2 := hasBit priority 0x04
  let pri3 := hasBit priority 0x08
  let multi := hasBit priority 0x20
  let p0 := hasBit players 0x01
  let p1 := hasBit players 0x02
  let p2 := hasBit players 0x04
  let p3 := hasBit players 0x08
  let pf0 := hasBit playfields 0x01
  let pf1 := hasBit playfields 0x02
  let pf2 := hasBit playfields 0x04
  let pf3 := hasBit playfields 0x08
  let p01 := p0 || p1
  let p23 := p2 || p3
  let pf01 := pf0 || pf1
  let pf23 := pf2 || pf3
  let pri01 := pri0 || pri1
  let pri12 := pri1 || pri2
  let pri23 := pri2 || pri3
  let pri03 := pri0 || pri3
  let front := !(pf01 && pri23) && !(pri2 && pf23)
  let back := !p01 && !(pf23 && pri12) && !(pf01 && !pri0)
  let sf3 := pf3 && !(p23 && pri03) && !(p01 && !pri2)
  { player0 := p0 && front
    player1 := p1 && front && (!p0 || multi)
    player2 := p2 && back
    player3 := p3 && back && (!p2 || multi)
    playfield0 := pf0 && !(p23 && pri0) && !(p01 && pri01) && !sf3
    playfield1 := pf1 && !(p23 && pri0) && !(p01 && pri01) && !sf3
    playfield2 := pf2 && !(p23 && pri03) && !(p01 && !pri2) && !sf3
    playfield3 := sf3
    background := !p01 && !p23 && !pf01 && !pf23 }

def Selection.anyPlayer (s : Selection) : Bool := s.player0 || s.player1 || s.player2 || s.player3

def mergedColor (g : Gtia) (s : Selection) : UInt8 :=
  let pick (on : Bool) (color : UInt8) : UInt8 := if on then color else 0
  pick s.player0 (g.playerColor.at4 0) ||| pick s.player1 (g.playerColor.at4 1)
    ||| pick s.player2 (g.playerColor.at4 2) ||| pick s.player3 (g.playerColor.at4 3)
    ||| pick s.playfield0 (g.playfieldColor.at4 0) ||| pick s.playfield1 (g.playfieldColor.at4 1)
    ||| pick s.playfield2 (g.playfieldColor.at4 2) ||| pick s.playfield3 (g.playfieldColor.at4 3)
    ||| pick s.background g.background

def fifthPlayfield : UInt8 := 0x08

/-- The colour that objects give a pixel, or nothing if the pixel keeps its own. -/
def objectColor (g : Gtia) (players missiles playfields : UInt8) : Option UInt8 :=
  let fifth := hasBit g.priority 0x10
  let fifthShows := fifth && missiles != 0
  let objects := if fifth then players else players ||| missiles
  let playfields := if fifthShows then playfields ||| fifthPlayfield else playfields
  let s := select g.priority objects playfields
  if s.anyPlayer then some (g.mergedColor s)
  else if fifthShows && s.playfield3 then some (g.playfieldColor.at4 3)
  else none

end Atari800XL.Gtia
