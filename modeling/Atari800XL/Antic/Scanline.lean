import Atari800XL.Antic.DisplayList
import Atari800XL.Antic.Render
import Atari800XL.Gtia.Compose

namespace Atari800XL.Antic

open Display

structure LineReport where
  scanline : Nat
  cycles : Nat
  blankInterrupt : Bool
  frameDone : Bool
  deriving DecidableEq, Repr, Inhabited

def isShown (line : Nat) : Bool := firstDisplayLine ≤ line && line < verticalBlankLine

def LineReport.visibleRow? (r : LineReport) : Option Nat :=
  if isShown r.scanline then some (r.scanline - firstDisplayLine) else none

def refreshCycles : Nat := 9

/-- The processor is left at least the other cycles of a line. -/
def maxCycles : Nat := 105

structure LineState where
  antic : Antic
  gtia : Gtia
  schedule : Schedule
  line : Line
  cycles : Nat := 0
  notices : List Notice := []

namespace LineState

def fetchObjects (s : LineState) (m : Memory) (line : Nat) : LineState :=
  let (cycles, gtia) := s.gtia.fetchObjects m line s.antic.dmaControl s.antic.objectBase
  { s with gtia, cycles := s.cycles + cycles }

/-- Without display list DMA nothing is shown, and the list stands still. -/
def followList (s : LineState) (m : Memory) (line : Nat) (lineStart : UInt64) : LineState :=
  if !hasBit s.antic.dmaControl 0x20 then { s with antic.mode := .blank }
  else if !s.antic.waiting && line == s.antic.nextFetch then
    let fetched := s.antic.fetchInstruction m line lineStart s.schedule
    { s with
      antic := fetched.antic
      schedule := fetched.schedule
      cycles := s.cycles + fetched.cycles
      notices := s.notices ++ fetched.notices }
  else s

def row (a : Antic) (line : Nat) : UInt8 :=
  (a.firstRow + UInt8.ofNat (line - a.modeStart)) &&& 0x0F

/-- Data is fetched on the first line of a mode line, characters on each of its lines. -/
def drawPlayfield (s : LineState) (m : Memory) (line : Nat) : LineState :=
  match s.antic.mode, s.antic.displayWidth? with
  | .blank, _ => s
  | _, none => s
  | _, some width =>
    let (fetched, antic) :=
      if line == s.antic.modeStart then s.antic.fetchData m width else (0, s.antic)
    let characters := if antic.mode.isText then antic.data.size else 0
    { s with
      antic
      line := antic.render m s.gtia width (row antic line) s.line
      cycles := s.cycles + fetched + characters }

def drawObjects (s : LineState) : LineState :=
  let (gtia, line) := s.gtia.drawLine s.line
  { s with gtia, line }

def display (s : LineState) (m : Memory) (line : Nat) (lineStart : UInt64) : LineState :=
  (((s.fetchObjects m line).followList m line lineStart).drawPlayfield m line).drawObjects

end LineState

def startFrame (a : Antic) : Antic :=
  { a with
    waiting := false
    nextFetch := firstDisplayLine
    inScrollRegion := false
    mode := .blank }

def nextLine (a : Antic) : Bool × Antic :=
  let next := a.scanline + 1
  if next ≥ a.linesPerFrame then (true, { a with scanline := 0 })
  else (false, { a with scanline := next })

structure Processed where
  antic : Antic
  gtia : Gtia
  schedule : Schedule
  line : Line
  report : LineReport
  notices : List Notice

/-- Process the next line, which starts at the cycle `lineStart`. -/
def processLine (a : Antic) (m : Memory) (g : Gtia) (lineStart : UInt64) (s : Schedule) :
    Processed :=
  let line := a.scanline
  let a := { a with currentLine := line }
  let a := if line == firstDisplayLine then a.startFrame else a
  let start : LineState :=
    { antic := a
      gtia := g
      schedule := s
      line := Line.blank g.background
      cycles := refreshCycles }
  let done := if isShown line then start.display m line lineStart else start
  let (blankInterrupt, a) :=
    if line == verticalBlankLine then done.antic.fireBlankInterrupt else (false, done.antic)
  let (frameDone, a) := a.nextLine
  { antic := a
    gtia := done.gtia
    schedule := done.schedule
    line := done.line
    report :=
      { scanline := line, cycles := min done.cycles maxCycles, blankInterrupt, frameDone }
    notices := done.notices }

end Atari800XL.Antic
