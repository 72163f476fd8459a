import Atari800XL.Cpu.Run
import Atari800XL.Ram

namespace Atari800XL

inductive Signal
  | irq
  | nmi
  | stall
  | silent
  deriving DecidableEq, Repr, Inhabited

structure Bench where
  ram : Ram
  writes : Array (UInt16 × UInt8) := #[]
  signals : List (UInt64 × Signal) := []
  stallUntil : UInt64 := 0
  hookCalls : Nat := 0
  clock : UInt64 := 0
  deriving Inhabited

namespace Bench

def never : UInt64 := 0xFFFFFFFFFFFFFFFF

def stallCycles : UInt64 := 50

def nextSignal (b : Bench) : UInt64 := b.signals.foldl (fun d s => min d s.1) never

def write (b : Bench) (address : UInt16) (value : UInt8) : Bench :=
  { b with ram := Ram.write b.ram address value, writes := b.writes.push (address, value) }

instance : Bus Bench where
  read b address := (Ram.read b.ram address, b)
  write := write

def deliver (cpu : Cpu) (b : Bench) (cycle : UInt64) : Signal → Cpu × Bench
  | .irq => cpu.irq b
  | .nmi => cpu.nmi b
  | .stall => (cpu, { b with stallUntil := max b.stallUntil (cycle + stallCycles) })
  | .silent => (cpu, b)

def deliverDue (count : Nat) (cpu : Cpu) (b : Bench) : Cpu × Bench :=
  match count with
  | 0 => (cpu, b)
  | count + 1 =>
    let next := b.nextSignal
    if cpu.total < next then (cpu, b)
    else match b.signals.find? (·.1 == next) with
      | none => (cpu, b)
      | some signal =>
        let b := { b with signals := b.signals.erase signal }
        let (cpu, b) := deliver cpu b signal.1 signal.2
        deliverDue count cpu b

def hookCycles : UInt64 := 10

def takeHook (hook : Hook) (cpu : Cpu) (b : Bench) : Bool × Cpu × Bench :=
  let b := { b with hookCalls := b.hookCalls + 1 }
  match hook with
  | .putByte => (false, cpu, b)
  | .deviceCall =>
    let (cpu, b) := { cpu with regs.a := 0x55 }.returnFromCall b
    (true, cpu.advance hookCycles, b)

instance : TimedBus Bench where
  nextEvent := nextSignal
  serviceEvents cpu b := deliverDue b.signals.length cpu b
  stallUntil := stallUntil
  takeHook := takeHook
  syncClock cycle b := { b with clock := cycle }

end Bench

end Atari800XL
