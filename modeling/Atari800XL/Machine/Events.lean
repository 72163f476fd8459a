import Atari800XL.Cpu.Run
import Atari800XL.Machine.Board

namespace Atari800XL.Board

def raiseIrq (cpu : Cpu) (b : Board) (source : String) : Cpu × Board :=
  cpu.irq (b.tell [.interrupt source cpu.total])

def raiseIf (asked : Bool) (cpu : Cpu) (b : Board) (source : String) : Cpu × Board :=
  if asked then raiseIrq cpu b source else (cpu, b)

def raiseNmi (cpu : Cpu) (b : Board) (source : String) (cycle : UInt64) : Cpu × Board :=
  cpu.nmi (b.tell [.interrupt source cycle])

def drawLine (b : Board) (deadline : UInt64) : Antic.LineReport × Board :=
  let p := b.antic.processLine b.memory b.gtia deadline b.schedule
  let screen :=
    match p.report.visibleRow? with
    | some row => b.screen.drawRow row p.line
    | none => b.screen
  let schedule := p.schedule.stallTo (deadline + UInt64.ofNat p.report.cycles)
  let b := { b with
    antic := p.antic
    gtia := p.gtia
    pokey := b.pokey.catchUp deadline
    schedule := schedule.set .lineFetch (deadline + Display.cyclesPerLine)
    screen
    frames := if p.report.frameDone then b.frames + 1 else b.frames }
  (p.report, b.tell p.notices)

def lineFetch (cpu : Cpu) (b : Board) (deadline : UInt64) : Cpu × Board :=
  let (report, b) := b.drawLine deadline
  if report.blankInterrupt then raiseNmi cpu b "VBI" deadline else (cpu, b)

def listInterrupt (cpu : Cpu) (b : Board) (deadline : UInt64) : Cpu × Board :=
  let (asked, antic) := b.antic.fireListInterrupt
  let b := { b with antic, schedule := b.schedule.clear .displayListInterrupt }
  if asked then raiseNmi cpu b "DLI" deadline else (cpu, b)

def timerDue (cpu : Cpu) (b : Board) (timer : Pokey.Timer) (deadline : UInt64) : Cpu × Board :=
  let (asked, pokey, schedule) := b.pokey.timerDue timer deadline b.schedule
  raiseIf asked cpu { b with pokey, schedule } "TIMER"

def serialOutNeeded (cpu : Cpu) (b : Board) : Cpu × Board :=
  let (asked, pokey, schedule) := b.pokey.serialOutNeeded b.schedule
  raiseIf asked cpu { b with pokey, schedule } "SEROUT"

def serialOutDone (cpu : Cpu) (b : Board) : Cpu × Board :=
  let (asked, pokey, schedule) := b.pokey.serialOutDone b.schedule
  raiseIf asked cpu { b with pokey, schedule } "SEROC"

def expectNext (b : Board) (deadline : UInt64) : Board :=
  match b.sio.nextDelay with
  | none => b
  | some delay => { b with schedule := b.schedule.set .serialInReady (deadline + delay) }

def serialInReady (cpu : Cpu) (b : Board) (deadline : UInt64) : Cpu × Board :=
  let b := { b with schedule := b.schedule.clear .serialInReady }
  match b.sio.pop with
  | none => (cpu, b)
  | some (byte, sio) =>
    let (asked, pokey) := b.pokey.receive byte
    let (cpu, b) := raiseIf asked cpu { b with pokey, sio } "SERIN"
    (cpu, b.expectNext deadline)

def handle (cpu : Cpu) (b : Board) (event : Event) (deadline : UInt64) : Cpu × Board :=
  let b := { b with clock := deadline }
  match event with
  | .lineFetch => lineFetch cpu b deadline
  | .displayListInterrupt => listInterrupt cpu b deadline
  | .timer1 => timerDue cpu b .one deadline
  | .timer2 => timerDue cpu b .two deadline
  | .timer4 => timerDue cpu b .four deadline
  | .serialOutNeeded => serialOutNeeded cpu b
  | .serialOutDone => serialOutDone cpu b
  | .serialInReady => serialInReady cpu b deadline

/-- Handle all that is due. Entering an interrupt takes time, in which more may fall due. -/
def serviceEvents (cpu : Cpu) (b : Board) : Cpu × Board :=
  match b.schedule.due cpu.total with
  | none => (cpu, b)
  | some (event, deadline) =>
    let (cpu, b) := handle cpu b event deadline
    b |>.serviceEvents cpu
partial_fixpoint

/-- Let the host file device take over a call that is meant for it. -/
def takeHook (hook : Hook) (cpu : Cpu) (b : Board) : Bool × Cpu × Board :=
  let called :=
    match hook with
    | .deviceCall => b.device.call cpu b.memory
    | .putByte => b.device.putByte cpu b.memory
  (called.handled, called.cpu,
    { b with device := called.device, memory := called.memory }.tell called.notices)

instance : TimedBus Board where
  nextEvent b := b.schedule.next
  serviceEvents := serviceEvents
  stallUntil b := b.schedule.stallUntil
  takeHook := takeHook
  syncClock cycle b := { b with clock := cycle }

end Atari800XL.Board
