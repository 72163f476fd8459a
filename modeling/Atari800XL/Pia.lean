import Atari800XL.Word

namespace Atari800XL

structure Port where
  output : UInt8 := 0
  direction : UInt8 := 0
  control : UInt8 := 0x3C
  deriving DecidableEq, Repr, Inhabited

namespace Port

def pins (p : Port) (input : UInt8) : UInt8 :=
  (p.output &&& p.direction) ||| (input &&& ~~~p.direction)

/-- Bit 2 of the control register selects the data register; without it the port's address shows
the directions. -/
def selectsData (p : Port) : Bool := hasBit p.control 0x04

def read (p : Port) (input : UInt8) : UInt8 := if p.selectsData then p.pins input else p.direction

def write (p : Port) (value : UInt8) : Port :=
  if p.selectsData then { p with output := value } else { p with direction := value }

end Port

structure Pia where
  portA : Port := {}
  portB : Port := {}
  sticks : UInt8 := 0xFF
  deriving DecidableEq, Repr, Inhabited

namespace Pia

def portBPins (p : Pia) : UInt8 := p.portB.pins 0xFF

def reset (p : Pia) : Pia := { sticks := p.sticks }

def read (p : Pia) (register : UInt8) : UInt8 :=
  match (register &&& 0x03).toNat with
  | 0 => p.portA.read p.sticks
  | 1 => p.portB.read 0xFF
  | 2 => p.portA.control
  | _ => p.portB.control

def write (p : Pia) (register value : UInt8) : Pia :=
  match (register &&& 0x03).toNat with
  | 0 => { p with portA := p.portA.write value }
  | 1 => { p with portB := p.portB.write value }
  | 2 => { p with portA := { p.portA with control := value } }
  | _ => { p with portB := { p.portB with control := value } }

/-- The command line of the serial bus is asserted: the second control line is an output held
low. -/
def commandLine (p : Pia) : Bool := p.portB.control &&& 0x38 == 0x30

def setStick (p : Pia) (stick : Nat) (directions : UInt8) : Pia :=
  let shift : UInt8 := if stick = 0 then 0 else 4
  let mask : UInt8 := 0x0F <<< shift
  let pressed := ~~~(directions &&& 0x0F) <<< shift
  { p with sticks := (p.sticks &&& ~~~mask) ||| (pressed &&& mask) }

end Pia

end Atari800XL
