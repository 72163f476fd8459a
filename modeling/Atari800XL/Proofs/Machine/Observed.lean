import Atari800XL.Proofs.Cpu.Related
import Atari800XL.Proofs.Machine.Board

namespace Atari800XL

/-- What can be observed while a machine runs. -/
inductive Observation
  | started (cycle : UInt64)
  | wrote (before : Board) (address : UInt16) (value : UInt8)
  | handled (cpu : Cpu) (before : Board) (event : Event) (deadline : UInt64)

namespace Observation

def line? : Observation → Option (UInt64 × Nat)
  | .handled _ before .lineFetch deadline => some (deadline, before.lineCycles deadline)
  | _ => none

def wait? : Observation → Option UInt64
  | .wrote before address _ =>
    if before.asksToWait address then some before.schedule.lineFetch else none
  | _ => none

/-- A new answer of the drives, and the cycle from which it is timed. -/
def answer? : Observation → Option (UInt64 × List Disk.Reply)
  | .wrote before address value =>
    let step := before.sio.putByte before.rack value
    if before.sends address && step.renewed then some (before.clock, step.sio.replies) else none
  | _ => none

def delivery? : Observation → Option (Nat × UInt8)
  | .handled cpu before .serialInReady deadline =>
    some (deadline.toNat,
      (Board.handle cpu before .serialInReady deadline).2.pokey.serialInput)
  | _ => none

end Observation

structure Observed where
  board : Board
  trace : List Observation := []

namespace Observed

variable {o : Observed} {cpu : Cpu}

instance : Bus Observed where
  read o address :=
    let (value, board) := o.board.read address
    (value, { o with board })
  write o address value :=
    { board := o.board.write address value, trace := .wrote o.board address value :: o.trace }

def handle (o : Observed) (cpu : Cpu) (event : Event) (deadline : UInt64) : Cpu × Observed :=
  let (cpu', board) := Board.handle cpu o.board event deadline
  (cpu', { board, trace := .handled cpu o.board event deadline :: o.trace })

def serviceEvents (cpu : Cpu) (o : Observed) : Cpu × Observed :=
  match o.board.schedule.due cpu.total with
  | none => (cpu, o)
  | some (event, deadline) =>
    let (cpu, o) := o.handle cpu event deadline
    o |>.serviceEvents cpu
partial_fixpoint

def takeHook (hook : Hook) (cpu : Cpu) (o : Observed) : Bool × Cpu × Observed :=
  let (taken, cpu, board) := Board.takeHook hook cpu o.board
  (taken, cpu, { o with board })

instance : TimedBus Observed where
  nextEvent o := o.board.schedule.next
  serviceEvents := serviceEvents
  stallUntil o := o.board.schedule.stallUntil
  takeHook := takeHook
  syncClock cycle o :=
    { board := TimedBus.syncClock cycle o.board, trace := .started cycle :: o.trace }

theorem related_board : TimedBus.Related fun (o : Observed) (b : Board) => o.board = b where
  read address := by
    rintro rfl
    exact ⟨rfl, rfl⟩
  write address value := by
    rintro rfl
    rfl
  takeHook hook cpu := by
    rintro rfl
    exact ⟨rfl, rfl, rfl⟩

def start (o : Observed) (cycle : UInt64) : Observed :=
  { board := { o.board with clock := cycle }, trace := .started cycle :: o.trace }

theorem stepHooked_of_none (h : cpu.hookAt cpu.regs.pc = none) :
    cpu.stepHooked o = cpu.step (o.start cpu.total) := by
  rw [Cpu.stepHooked, h]
  rfl

theorem stepHooked_of_some {hook : Hook} (h : cpu.hookAt cpu.regs.pc = some hook) :
    cpu.stepHooked o =
      let called := takeHook hook cpu (o.start cpu.total)
      if called.1 then called.2 else called.2.1.step called.2.2 := by
  rw [Cpu.stepHooked, h]
  rfl

theorem stepHooked_board (cpu : Cpu) (o : Observed) :
    cpu.stepHooked o.board = ((cpu.stepHooked o).1, (cpu.stepHooked o).2.board) := by
  obtain ⟨stepped, board⟩ := Cpu.stepHooked_related related_board cpu (x := o) (y := o.board) rfl
  exact Prod.ext stepped.symm board.symm

theorem stepHooked_keeps {P : Observed → Prop} (bus : Bus.Keeps P)
    (hook : ∀ hook cpu o, P o → P (takeHook hook cpu o).2.2) (h : P (o.start cpu.total)) :
    P (cpu.stepHooked o).2 := Cpu.stepHooked_keeps bus hook h

end Observed

end Atari800XL
