import Atari800XL.Pokey.Sound
import Atari800XL.Schedule

namespace Atari800XL

structure Pokey where
  frequency : Quad := Quad.zero
  control : Quad := Quad.zero
  soundControl : UInt8 := 0
  serialControl : UInt8 := 0
  interruptEnable : UInt8 := 0
  interruptStatus : UInt8 := 0xFF
  keyCode : UInt8 := 0xFF
  serialStatus : UInt8 := 0xFF
  serialInput : UInt8 := 0
  paddles : Vector UInt8 8
  paddleStart : UInt64 := 0
  sound : Pokey.Sound
  deriving Inhabited

namespace Pokey

namespace Source

def timer1 : UInt8 := 0x01
def timer2 : UInt8 := 0x02
def timer4 : UInt8 := 0x04
/-- The one source whose status does not wait to be enabled. -/
def serialOutDone : UInt8 := 0x08
def serialOutNeeded : UInt8 := 0x10
def serialInReady : UInt8 := 0x20
def key : UInt8 := 0x40
def breakKey : UInt8 := 0x80

end Source

inductive Timer
  | one
  | two
  | four
  deriving DecidableEq, Repr, Inhabited

namespace Timer

def all : List Timer := [.one, .two, .four]

def event : Timer → Event
  | .one => .timer1
  | .two => .timer2
  | .four => .timer4

def ofEvent? : Event → Option Timer
  | .timer1 => some .one
  | .timer2 => some .two
  | .timer4 => some .four
  | _ => none

def source : Timer → UInt8
  | .one => Source.timer1
  | .two => Source.timer2
  | .four => Source.timer4

def period (p : Periods) : Timer → UInt64
  | .one => p.one
  | .two => p.two
  | .four => p.four

end Timer

def paddleMax : UInt8 := 228

def create (clockRate sampleRate : UInt32) (audio : Bool) : Pokey :=
  { paddles := Vector.replicate _ paddleMax, sound := Sound.create clockRate sampleRate audio }

def reset (p : Pokey) (now : UInt64) : Pokey :=
  { paddles := p.paddles, paddleStart := now, sound := p.sound.reset now }

def held (p : Pokey) : Bool := !hasBit p.serialControl 0x03

def wideClock : UInt64 := 28
def lineClock : UInt64 := 114

/-- Periods of the dividers. A divider counts a slow clock, or every cycle if the control register
says so for the first or third one; a joined pair counts with sixteen bits. Counting every cycle
takes three more cycles, or six for a pair. -/
def periods (p : Pokey) : Periods :=
  let base := if hasBit p.soundControl 0x01 then lineClock else wideClock
  let fast1 := hasBit p.soundControl 0x40
  let fast3 := hasBit p.soundControl 0x20
  let value (i : Nat) : UInt64 := (p.frequency.at4 i).toUInt64
  let single (fast : Bool) (n : UInt64) : UInt64 := if fast then n + 4 else (n + 1) * base
  let pair (fast : Bool) (low high : UInt64) : UInt64 :=
    let n := (high <<< 8) ||| low
    if fast then n + 7 else (n + 1) * base
  let joined12 := hasBit p.soundControl 0x10
  let joined34 := hasBit p.soundControl 0x08
  { one := single fast1 (value 0)
    two := if joined12 then pair fast1 (value 0) (value 1) else single false (value 1)
    three := single fast3 (value 2)
    four := if joined34 then pair fast3 (value 2) (value 3) else single false (value 3) }

def settings (p : Pokey) : Settings :=
  { control := p.control, shared := p.soundControl, periods := p.periods, held := p.held }

def catchUp (p : Pokey) (now : UInt64) : Pokey :=
  { p with sound := p.sound.catchUp now p.settings }

def enables (p : Pokey) (source : UInt8) : Bool := hasBit p.interruptEnable source

def raise (p : Pokey) (source : UInt8) : Bool × Pokey :=
  if p.enables source then
    (true, { p with interruptStatus := p.interruptStatus &&& ~~~source })
  else (false, p)

def setTimer (p : Pokey) (now : UInt64) (s : Schedule) (t : Timer) : Schedule :=
  if p.enables t.source && !p.held then s.set t.event (now + t.period p.periods)
  else s.clear t.event

def restartTimers (p : Pokey) (now : UInt64) (s : Schedule) : Schedule :=
  Timer.all.foldl (p.setTimer now) s

def changeTimers (p : Pokey) (changed : UInt8) (now : UInt64) (s : Schedule) : Schedule :=
  (Timer.all.filter fun t => hasBit changed t.source).foldl (p.setTimer now) s

/-- A timer has run out at `deadline`; the next time counts from there. -/
def timerDue (p : Pokey) (t : Timer) (deadline : UInt64) (s : Schedule) :
    Bool × Pokey × Schedule :=
  if p.held || !p.enables t.source then (false, p, s.clear t.event)
  else
    let (raised, p) := p.raise t.source
    (raised, p, s.set t.event (deadline + t.period p.periods))

def byteCycles : UInt64 := 930

def drainCycles : UInt64 := 100

def send (p : Pokey) (now : UInt64) (s : Schedule) : Pokey × Schedule :=
  let needed := now + byteCycles
  ({ p with interruptStatus := p.interruptStatus ||| Source.serialOutDone },
    (s.set .serialOutNeeded needed).set .serialOutDone (needed + drainCycles))

def serialOutNeeded (p : Pokey) (s : Schedule) : Bool × Pokey × Schedule :=
  let (raised, p) := p.raise Source.serialOutNeeded
  (raised, p, s.clear .serialOutNeeded)

def serialOutDone (p : Pokey) (s : Schedule) : Bool × Pokey × Schedule :=
  (p.enables Source.serialOutDone,
    { p with interruptStatus := p.interruptStatus &&& ~~~Source.serialOutDone },
    s.clear .serialOutDone)

def receive (p : Pokey) (byte : UInt8) : Bool × Pokey :=
  { p with serialInput := byte }.raise Source.serialInReady

def keyDown (p : Pokey) (code : UInt8) : Bool × Pokey :=
  { p with keyCode := code, serialStatus := p.serialStatus &&& ~~~0x04 }.raise Source.key

def keyUp (p : Pokey) : Pokey := { p with serialStatus := p.serialStatus ||| 0x04 }

def setShift (p : Pokey) (pressed : Bool) : Pokey :=
  { p with serialStatus := withBit p.serialStatus 0x08 !pressed }

def breakDown (p : Pokey) : Bool × Pokey := p.raise Source.breakKey

def setPaddle (p : Pokey) (n : Nat) (position : UInt8) : Pokey :=
  { p with paddles := p.paddles.setIfInBounds n (min position paddleMax) }

def paddleCount (p : Pokey) (now : UInt64) : UInt64 :=
  let elapsed := if now ≤ p.paddleStart then 0 else now - p.paddleStart
  let count := if hasBit p.serialControl 0x04 then elapsed else elapsed / lineClock
  min count paddleMax.toUInt64

def readPaddle (p : Pokey) (n : Nat) (now : UInt64) : UInt8 :=
  min (p.paddleCount now).toUInt8 ((p.paddles[n]?).getD 0)

def paddlesCounting (p : Pokey) (now : UInt64) : UInt8 :=
  (List.range 8).foldl (fun bits n =>
    withBit bits (1 <<< UInt8.ofNat n) ((p.paddleCount now).toUInt8 < (p.paddles[n]?).getD 0)) 0

def timerSources : UInt8 := Source.timer1 ||| Source.timer2 ||| Source.timer4

def setEnable (p : Pokey) (value : UInt8) (now : UInt64) (s : Schedule) : Pokey × Schedule :=
  let changed := (value ^^^ p.interruptEnable) &&& timerSources
  let p := { p with
    interruptEnable := value
    interruptStatus := p.interruptStatus ||| (~~~value &&& ~~~Source.serialOutDone) }
  (p, p.changeTimers changed now s)

/-- Holding the chip in reset stops the timers and starts the random numbers over; letting it go
starts the timers. -/
def setSerialControl (p : Pokey) (value : UInt8) (now : UInt64) (s : Schedule) :
    Pokey × Schedule :=
  let wasHeld := p.held
  let p := { p with serialControl := value }
  if p.held then ({ p with sound := p.sound.resetNoise }, p.restartTimers now s)
  else if wasHeld then (p, p.restartTimers now s)
  else (p, s)

def restart (p : Pokey) (now : UInt64) (s : Schedule) : Pokey × Schedule :=
  ({ p with sound := p.sound.reload p.periods }, p.restartTimers now s)

def write (p : Pokey) (register value : UInt8) (now : UInt64) (s : Schedule) : Pokey × Schedule :=
  let p := p.catchUp now
  let r := (register &&& 0x0F).toNat
  match r with
  | 0x00 | 0x02 | 0x04 | 0x06 => ({ p with frequency := p.frequency.put (r / 2) value }, s)
  | 0x01 | 0x03 | 0x05 | 0x07 => ({ p with control := p.control.put (r / 2) value }, s)
  | 0x08 => { p with soundControl := value }.restart now s
  | 0x09 => p.restart now s
  | 0x0A => ({ p with serialStatus := p.serialStatus ||| 0xE0 }, s)
  | 0x0B => ({ p with paddleStart := now }, s)
  | 0x0D => p.send now s
  | 0x0E => p.setEnable value now s
  | 0x0F => p.setSerialControl value now s
  | _ => (p, s)

def read (p : Pokey) (register : UInt8) (now : UInt64) : UInt8 × Pokey :=
  let r := (register &&& 0x0F).toNat
  match r with
  | 0x08 => (p.paddlesCounting now, p)
  | 0x09 => (p.keyCode, p)
  | 0x0A =>
    if p.held then (0xFF, p)
    else
      let p := p.catchUp now
      (p.sound.random (hasBit p.soundControl 0x80), p)
  | 0x0D => (p.serialInput, p)
  | 0x0E => (p.interruptStatus, p)
  | 0x0F => (p.serialStatus, p)
  | _ => (if r < 8 then p.readPaddle r now else 0xFF, p)

end Pokey

end Atari800XL
