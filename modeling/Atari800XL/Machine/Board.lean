import Atari800XL.Antic.Scanline
import Atari800XL.Disk.Sio
import Atari800XL.Display.Picture
import Atari800XL.FileDevice.Basic
import Atari800XL.Gtia.Palette
import Atari800XL.Machine.Setup
import Atari800XL.Pia
import Atari800XL.Pokey.Basic

namespace Atari800XL

abbrev Screen := Bytes (Display.screenWidth * Display.screenHeight)

namespace Screen

open Display

def black : Screen := Bytes.replicate _ 0

def drawRow (s : Screen) (row : Nat) (line : Line) : Screen :=
  let start := row * screenWidth
  s.update start screenWidth fun i => line.colors.getD (i - start + screenLeft)

def toRgb (s : Screen) : Array UInt32 := s.data.data.map fun c => Gtia.palette.getD c.toNat 0

def picture (s : Screen) : Picture :=
  { width := screenWidth, height := screenHeight, pixels := s.toRgb }

end Screen

structure Board where
  setup : Setup
  memory : Memory
  rack : Disk.Rack := {}
  antic : Antic
  gtia : Gtia
  pokey : Pokey
  pia : Pia := {}
  sio : Disk.Sio := {}
  device : FileDevice
  schedule : Schedule := {}
  /-- The cycle that the chips take for the present: the start of the instruction that runs, or the
  deadline of the event that is handled. -/
  clock : UInt64 := 0
  screen : Screen := .black
  frames : Nat := 0
  journal : Journal := {}

namespace Board

def tell (b : Board) (notices : List Notice) : Board :=
  { b with journal := b.journal.addAll notices }

/-- Pass the outputs of the parallel ports on: to the memory banks, to the command line of the
serial bus, and to the trigger that tells of a cartridge. -/
def applyPorts (b : Board) : Board :=
  let memory := b.memory.applyPortB b.pia.portBPins
  { b with
    memory
    sio := b.sio.setCommandLine b.pia.commandLine
    gtia := { b.gtia with cartridge := memory.basicMapped } }

def expectReply (b : Board) (now : UInt64) : Board :=
  if b.schedule.serialInReady != never then b
  else
    match b.sio.nextDelay with
    | none => b
    | some delay => { b with schedule := b.schedule.set .serialInReady (now + delay) }

/-- A byte leaves for the drives. A new answer makes the deadline of the old one void. -/
def sendToDrives (b : Board) (byte : UInt8) : Board :=
  let step := b.sio.putByte b.rack byte
  let schedule := if step.renewed then b.schedule.clear .serialInReady else b.schedule
  ({ b with sio := step.sio, rack := step.rack, schedule }.tell step.notices).expectReply b.clock

def serialOutput : UInt8 := 0x0D

def writePokey (b : Board) (register value : UInt8) : Board :=
  let (pokey, schedule) := b.pokey.write register value b.clock b.schedule
  let b := { b with pokey, schedule }
  if register &&& 0x0F == serialOutput then b.sendToDrives value else b

def read (b : Board) (address : UInt16) : UInt8 × Board :=
  match b.memory.accessAt address with
  | .ram | .rom => (b.memory.peek address, b)
  | .gtia => (b.gtia.read (lowByte address), b)
  | .pokey =>
    let (value, pokey) := b.pokey.read (lowByte address) b.clock
    (value, { b with pokey })
  | .pia => (b.pia.read (lowByte address), b)
  | .antic => (b.antic.read (lowByte address), b)

def write (b : Board) (address : UInt16) (value : UInt8) : Board :=
  match b.memory.accessAt address with
  | .ram => { b with memory := b.memory.poke address value }
  | .rom => b
  | .gtia => { b with gtia := b.gtia.write (lowByte address) value }
  | .pokey => b.writePokey (lowByte address) value
  | .pia => { b with pia := b.pia.write (lowByte address) value }.applyPorts
  | .antic =>
    let (antic, schedule) := b.antic.write (lowByte address) value b.schedule
    { b with antic, schedule }

instance : Bus Board where
  read := read
  write := write

end Board

end Atari800XL
