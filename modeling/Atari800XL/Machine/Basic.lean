import Atari800XL.Keyboard
import Atari800XL.Machine.Events
import Atari800XL.Memory.Build

/-! The whole machine: switching it on, running it, its keys and sticks, its disks, and what it
shows and plays. -/

namespace Atari800XL

structure Machine where
  cpu : Cpu
  board : Board

namespace Machine

def ciov : UInt16 := 0xE456

def jumpAbsolute : UInt8 := 0x4C

/-- Hook the entries that the host file device takes over: the central one and, if it holds a jump,
where that leads, and the entry that puts a byte. -/
def installHooks (m : Machine) : Machine :=
  let { cpu, board } := m
  let cpu := cpu.setHook ciov .deviceCall
  let (cpu, board) :=
    if board.memory.peek ciov == jumpAbsolute then
      let target := board.memory.peekWord (ciov + 1)
      (if target == ciov then cpu else cpu.setHook target .deviceCall,
        board.tell [.hooksInstalled ciov target])
    else (cpu, board)
  { cpu := cpu.setHook FileDevice.Iocb.putByteEntry .putByte, board }

def nextLineStart (now : UInt64) : UInt64 :=
  let n := Display.cyclesPerLine
  (now / n + if now % n == 0 then 0 else 1) * n

/-- Power the machine off and on. Disks stay in their drives, files stay on the host, and pictures
are counted on. -/
def hardReset (m : Machine) : Machine :=
  let b := m.board
  let board : Board :=
    { b with
      schedule := {}
      clock := 0
      memory := b.memory.reset
      antic := b.antic.reset
      gtia := b.gtia.reset
      pokey := b.pokey.reset 0
      pia := b.pia.reset
      sio := {}
      device := b.device.closeAll
      screen := .black }
  let board := board.applyPorts
  let (cpu, memory) := ({} : Cpu).reset board.memory
  let m : Machine := { cpu, board := { board with memory } }
  let m := if m.board.setup.fileDevice then m.installHooks else m
  let schedule := m.board.schedule.set .lineFetch (nextLineStart m.cpu.total)
  { m with board := { m.board with schedule }.tell [.hardReset m.cpu.regs.pc] }

def assembled (setup : Setup) (memory : Memory) (store : Files.Store) (trace : TraceFlags) :
    Machine :=
  { cpu := {}
    board :=
      { setup
        memory
        antic := { linesPerFrame := setup.video.linesPerFrame }
        gtia := { pal := setup.video == .pal }
        pokey := Pokey.create setup.video.clockRate setup.sampleRate setup.audio
        device := { store }
        journal := { flags := trace } } }

def takeNotices (m : Machine) : List Notice × Machine :=
  let journal := m.board.journal
  (journal.entries.toList,
    { m with board := { m.board with journal := { journal with entries := #[] } } })

def build (os : ByteArray) (basic : Option ByteArray) (setup : Setup) (store : Files.Store) :
    Build Machine := do
  let memory ← Memory.build os basic
  let journal ← get
  let (notices, m) := (assembled setup memory store journal.flags).hardReset.takeNotices
  Build.tell notices
  return m

def run (m : Machine) (cycles : UInt64) : Machine :=
  let { cpu, board } := m
  let target := cpu.total + cycles
  let (cpu, board) := cpu.run board target
  { cpu, board }

/-- Run line by line until `frames` is passed, at most for `lines` lines. -/
def runWhileFrame (m : Machine) (frames lines : Nat) : Machine :=
  match lines with
  | 0 => m
  | lines + 1 =>
    if m.board.frames = frames then
      (m.run Display.cyclesPerLine).runWhileFrame frames lines
    else m

def runFrame (m : Machine) : Machine :=
  m.runWhileFrame m.board.frames (2 * m.board.antic.linesPerFrame)

def runFrames (m : Machine) (count : Nat) : Machine :=
  match count with
  | 0 => m
  | count + 1 => m.runFrame.runFrames count

def takeSamples (m : Machine) (n : Nat) : List Float32 × Machine :=
  let { cpu, board } := m
  let pokey := board.pokey.catchUp cpu.total
  let (samples, sound) := pokey.sound.drain n
  (samples, { cpu, board := { board with pokey := { pokey with sound } } })

def requestIrq (m : Machine) (source : String) : Machine :=
  { cpu := m.cpu.requestIrq, board := m.board.tell [.interrupt source m.cpu.total] }

def keyDown (m : Machine) (key : UInt8) (shift control : Bool) : Machine :=
  let pokey := m.board.pokey.setShift shift
  let (asked, pokey) := pokey.keyDown (Keyboard.scanCode key shift control)
  let m := { m with board := { m.board with pokey } }
  if asked then m.requestIrq "KEY" else m

def typeChar (m : Machine) (c : Char) : Bool × Machine :=
  match Keyboard.keyFor c with
  | none => (false, m)
  | some (key, shift) => (true, m.keyDown key shift false)

def keyUp (m : Machine) : Machine :=
  { m with board := { m.board with pokey := m.board.pokey.keyUp.setShift false } }

def breakKey (m : Machine) : Machine :=
  let (asked, pokey) := m.board.pokey.breakDown
  let m := { m with board := { m.board with pokey } }
  if asked then m.requestIrq "BREAK" else m

def setConsole (m : Machine) (start select option : Bool) : Machine :=
  let keys := withBit (withBit (withBit 0 0x01 start) 0x02 select) 0x04 option
  { m with board := { m.board with gtia := m.board.gtia.setConsole keys } }

def setJoystick (m : Machine) (port : Nat) (directions : UInt8) (fire : Bool) : Machine :=
  let b := m.board
  { m with board :=
      { b with pia := b.pia.setStick port directions, gtia := b.gtia.setTrigger port fire } }

def setPaddle (m : Machine) (n : Nat) (position : UInt8) : Machine :=
  { m with board := { m.board with pokey := m.board.pokey.setPaddle n position } }

def upload (m : Machine) (slot : Nat) (name : String) (data : ByteArray) :
    Except Fault (Nat × Machine × List Notice) := do
  let (index, rack, notices) ← m.board.rack.upload slot name data
  return (index, { m with board := { m.board with rack } }, notices)

def mount (m : Machine) (slot device : Nat) : Except Fault (Machine × List Notice) := do
  let (rack, notices) ← m.board.rack.mount slot device
  return ({ m with board := { m.board with rack } }, notices)

def unmount (m : Machine) (device : Nat) : Machine :=
  { m with board := { m.board with rack := m.board.rack.unmount device } }

end Machine

end Atari800XL
