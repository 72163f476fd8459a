import Atari800XL.Pokey.Polynomials
import Atari800XL.Quad
import Atari800XL.Word

namespace Atari800XL.Pokey

structure Periods where
  one : UInt64
  two : UInt64
  three : UInt64
  four : UInt64
  deriving DecidableEq, Repr, Inhabited

structure Settings where
  control : Quad
  shared : UInt8
  periods : Periods
  held : Bool
  deriving DecidableEq, Repr, Inhabited

namespace Settings

def joins12 (s : Settings) : Bool := hasBit s.shared 0x10
def joins34 (s : Settings) : Bool := hasBit s.shared 0x08
def filters13 (s : Settings) : Bool := hasBit s.shared 0x04
def filters24 (s : Settings) : Bool := hasBit s.shared 0x02
def nineBit (s : Settings) : Bool := hasBit s.shared 0x80

end Settings

structure Tone where
  counter : UInt64 := 0
  output : Bool := false
  deriving DecidableEq, Repr, Inhabited

namespace Tone

def runsOut (t : Tone) : Bool := t.counter ≤ 1

/-- What a channel's output becomes when its divider runs out: it may be gated by the five-bit
counter, and then toggles or copies the bit of another counter. -/
def nextOutput (t : Tone) (noise : Polynomials) (control : UInt8) (nineBit : Bool) : Bool :=
  if !hasBit control 0x80 && !Polynomials.lowBit noise.poly5 then t.output
  else if hasBit control 0x20 then !t.output
  else if hasBit control 0x40 then Polynomials.lowBit noise.poly4
  else if nineBit then Polynomials.lowBit noise.poly9
  else Polynomials.lowBit noise.poly17

def tick (t : Tone) (noise : Polynomials) (period : UInt64) (control : UInt8) (nineBit : Bool) :
    Tone :=
  if t.runsOut then
    { counter := max period 1, output := t.nextOutput noise control nineBit }
  else { t with counter := t.counter - 1 }

end Tone

structure Generator where
  noise : Polynomials := {}
  one : Tone := {}
  two : Tone := {}
  three : Tone := {}
  four : Tone := {}
  latch1 : Bool := false
  latch2 : Bool := false
  deriving DecidableEq, Repr, Inhabited

namespace Generator

def reload (g : Generator) (p : Periods) : Generator :=
  { g with
    one.counter := p.one
    two.counter := p.two
    three.counter := p.three
    four.counter := p.four }

/-- One cycle. The channels go in order, so that a filter copies an output of this cycle. -/
def step (g : Generator) (s : Settings) : Generator :=
  match g with
  | { noise, one, two, three, four, latch1, latch2 } =>
    let noise := noise.step
    let one :=
      if s.joins12 then one else one.tick noise s.periods.one (s.control.at4 0) s.nineBit
    let two := two.tick noise s.periods.two (s.control.at4 1) s.nineBit
    let latch1 := if three.runsOut && !s.joins34 && s.filters13 then one.output else latch1
    let three :=
      if s.joins34 then three else three.tick noise s.periods.three (s.control.at4 2) s.nineBit
    let latch2 := if four.runsOut && s.filters24 then two.output else latch2
    let four := four.tick noise s.periods.four (s.control.at4 3) s.nineBit
    { noise, one, two, three, four, latch1, latch2 }

def volume (control : UInt8) (output : Bool) : UInt32 :=
  if hasBit control 0x10 || output then (control &&& 0x0F).toUInt32 else 0

def level (g : Generator) (s : Settings) : UInt32 :=
  let one := if s.filters13 then g.one.output != g.latch1 else g.one.output
  let two := if s.filters24 then g.two.output != g.latch2 else g.two.output
  volume (s.control.at4 0) one + volume (s.control.at4 1) two
    + volume (s.control.at4 2) g.three.output + volume (s.control.at4 3) g.four.output

end Generator

end Atari800XL.Pokey
