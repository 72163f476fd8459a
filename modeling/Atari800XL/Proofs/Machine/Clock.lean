import Atari800XL.Proofs.Machine.Ahead
import Atari800XL.Proofs.Machine.Companion
import Atari800XL.Proofs.Machine.Unheard

namespace Atari800XL

/-- A value that the clock is given, and the deadlines at that moment. -/
inductive Tick
  | start (cycle : UInt64) (expected : Schedule)
  | event (now : UInt64) (event : Event) (deadline : UInt64) (expected : Schedule)

namespace Tick

def clock : Tick → UInt64
  | .start cycle _ => cycle
  | .event _ _ deadline _ => deadline

def OnTime : Tick → Prop
  | .start cycle expected => ∀ e, cycle < expected.deadline e
  | .event now e deadline expected => expected.deadline e = deadline ∧ deadline ≤ now

end Tick

structure Clocked where
  board : Board
  ticks : List Tick := []

namespace Clocked

variable {x : Clocked} {cpu : Cpu}

instance : Bus Clocked where
  read x address :=
    let (value, board) := x.board.read address
    (value, { x with board })
  write x address value := { x with board := x.board.write address value }

def handle (x : Clocked) (cpu : Cpu) (event : Event) (deadline : UInt64) : Cpu × Clocked :=
  let (cpu', board) := Board.handle cpu x.board event deadline
  (cpu', { board, ticks := .event cpu.total event deadline x.board.schedule :: x.ticks })

def serviceEvents (cpu : Cpu) (x : Clocked) : Cpu × Clocked :=
  match x.board.schedule.due cpu.total with
  | none => (cpu, x)
  | some (event, deadline) =>
    let (cpu, x) := x.handle cpu event deadline
    x |>.serviceEvents cpu
partial_fixpoint

def takeHook (hook : Hook) (cpu : Cpu) (x : Clocked) : Bool × Cpu × Clocked :=
  let (taken, cpu, board) := Board.takeHook hook cpu x.board
  (taken, cpu, { x with board })

instance : TimedBus Clocked where
  nextEvent x := x.board.schedule.next
  serviceEvents := serviceEvents
  stallUntil x := x.board.schedule.stallUntil
  takeHook := takeHook
  syncClock cycle x :=
    { board := TimedBus.syncClock cycle x.board
      ticks := .start cycle x.board.schedule :: x.ticks }

theorem related_board : TimedBus.Related fun (x : Clocked) (b : Board) => x.board = b where
  read address := by
    rintro rfl
    exact ⟨rfl, rfl⟩
  write address value := by
    rintro rfl
    rfl
  takeHook hook cpu := by
    rintro rfl
    exact ⟨rfl, rfl, rfl⟩

theorem stepHooked_board (cpu : Cpu) (x : Clocked) :
    cpu.stepHooked x.board = ((cpu.stepHooked x).1, (cpu.stepHooked x).2.board) := by
  obtain ⟨stepped, board⟩ := Cpu.stepHooked_related related_board cpu (x := x) (y := x.board) rfl
  exact Prod.ext stepped.symm board.symm

theorem ticks_stepHooked (cpu : Cpu) (x : Clocked) :
    (cpu.stepHooked x).2.ticks = .start cpu.total x.board.schedule :: x.ticks := by
  have keeps : Bus.Keeps fun y : Clocked =>
      y.ticks = .start cpu.total x.board.schedule :: x.ticks :=
    ⟨fun _ _ same => same, fun _ _ _ same => same⟩
  exact Cpu.stepHooked_keeps keeps (fun _ _ _ same => same) rfl

/-- The clock never went back, stands where it was put last, and was always on time. -/
structure Orderly (x : Clocked) : Prop where
  forward : x.ticks.Pairwise fun later earlier => earlier.clock ≤ later.clock
  present : x.board.clock = (x.ticks.head?.map Tick.clock).getD 0
  onTime : ∀ t ∈ x.ticks, t.OnTime

namespace Orderly

theorem le_clock (h : x.Orderly) {t : Tick} (mem : t ∈ x.ticks) : t.clock ≤ x.board.clock := by
  obtain ⟨board, ticks⟩ := x
  cases ticks with
  | nil => cases mem
  | cons latest earlier =>
    have present : board.clock = latest.clock := h.present
    dsimp only
    rw [present]
    rcases List.mem_cons.1 mem with rfl | mem
    · exact UInt64.le_refl _
    · exact (List.pairwise_cons.1 h.forward).1 t mem

theorem cons (h : x.Orderly) {b : Board} {t : Tick} (clock : b.clock = t.clock)
    (later : x.board.clock ≤ t.clock) (onTime : t.OnTime) :
    Orderly { board := b, ticks := t :: x.ticks } where
  forward := List.pairwise_cons.2
    ⟨fun _ mem => UInt64.le_trans (h.le_clock mem) later, h.forward⟩
  present := clock
  onTime := List.forall_mem_cons.2 ⟨onTime, h.onTime⟩

theorem stepHooked (h : x.Orderly) (clock : x.board.clock ≤ cpu.total)
    (next : ∀ e, cpu.total < x.board.schedule.deadline e) : (cpu.stepHooked x).2.Orderly := by
  have present := Board.clock_stepHooked cpu x.board
  rw [stepHooked_board] at present
  have more := h.cons (b := (cpu.stepHooked x).2.board)
    (t := .start cpu.total x.board.schedule) present clock next
  rw [← ticks_stepHooked] at more
  exact more

theorem of_clock_eq (h : x.Orderly) {board : Board} (same : board.clock = x.board.clock) :
    Orderly { x with board } := ⟨h.forward, same.trans h.present, h.onTime⟩

theorem fresh (m : Machine) : Orderly { board := m.hardReset.board } :=
  ⟨.nil, m.clock_hardReset, nofun⟩

end Orderly

structure Beside (s : Session) (x : Clocked) : Prop where
  here : x.board = s.observed.board
  orderly : x.Orderly

namespace Beside

variable {s : Session} {event : Event} {deadline target : UInt64} (h : Beside s x)
include h

theorem handle (reach : s.Reachable) (due : s.due = some (event, deadline)) :
    (x.handle s.cpu event deadline).1 = (s.handle event deadline).cpu ∧
      Beside (s.handle event deadline) (x.handle s.cpu event deadline).2 := by
  obtain ⟨own, le⟩ := reach.due_spec due
  have ahead := reach.ahead event
  have clock := reach.clock_handle event deadline
  obtain ⟨here, orderly⟩ := h
  obtain ⟨board, ticks⟩ := x
  dsimp only at here
  subst here
  rw [own] at ahead
  exact ⟨rfl, rfl, orderly.cons clock ahead ⟨own, le⟩⟩

theorem move (reach : s.Reachable) (fits : Fits s.cpu.total) (before : s.cpu.total < target)
    (none : s.due = none) :
    ∃ x', s.cpu.move x target = ((s.move target).cpu, x') ∧ Beside (s.move target) x' := by
  have next := reach.due_eq_none_iff.1 none
  have exact := reach.sound.exact
  have clock := reach.clock_le
  have moves := (reach.moves fits before none).board
  rw [← h.here] at next exact clock moves
  have waits : ¬x.board.schedule.next ≤ s.cpu.total := UInt64.not_le.2 next
  by_cases stall : x.board.schedule.stallUntil > s.cpu.total
  · rw [Cpu.move_halted waits stall, Prod.mk.injEq] at moves
    refine ⟨x, ?_, moves.2, h.orderly⟩
    rw [← moves.1]
    exact Cpu.move_halted waits stall
  · rw [Cpu.move_started waits stall, stepHooked_board, Prod.mk.injEq] at moves
    have later (e : Event) := UInt64.lt_of_lt_of_le next (exact.next_le e)
    refine ⟨(s.cpu.stepHooked x).2, ?_, moves.2, h.orderly.stepHooked clock later⟩
    rw [← moves.1]
    exact Cpu.move_started waits stall

end Beside

theorem companion : Session.Companion Beside where
  next h := congrArg (fun b => b.schedule.next) h.here
  idle {s x} h none := by
    rw [Session.due, ← h.here] at none
    show serviceEvents s.cpu x = _
    rw [serviceEvents, none]
  handle {s x event deadline} h reach _ due := by
    obtain ⟨cpu, after⟩ := h.handle reach due
    rw [Session.due, ← h.here] at due
    refine ⟨_, ?_, after⟩
    show serviceEvents s.cpu x = serviceEvents _ _
    rw [serviceEvents, due, ← cpu]
  move h reach fits before none := h.move reach fits before none

end Clocked

structure Watched where
  cpu : Cpu
  clocked : Clocked

namespace Watched

open Machine

variable {m : Machine} {w : Watched}

def machine (w : Watched) : Machine := ⟨w.cpu, w.clocked.board⟩

def fresh (m : Machine) : Watched := ⟨m.hardReset.cpu, { board := m.hardReset.board }⟩

def run (w : Watched) (cycles : UInt64) : Watched :=
  let (cpu, clocked) := w.cpu.run w.clocked (w.cpu.total + cycles)
  { cpu, clocked }

def runWhileFrame (w : Watched) (frames : Nat) : Nat → Watched
  | 0 => w
  | lines + 1 =>
    if w.clocked.board.frames = frames then
      (w.run Display.cyclesPerLine).runWhileFrame frames lines
    else w

def call (w : Watched) (c : Call) : Watched :=
  let m := w.machine.perform c
  { cpu := m.cpu, clocked := { w.clocked with board := m.board } }

def apply (w : Watched) : Op → Watched
  | .run cycles => w.run cycles
  | .runFrame => w.runWhileFrame w.clocked.board.frames (2 * w.clocked.board.antic.linesPerFrame)
  | .call c => w.call c
  | .hardReset => fresh w.machine

def applyAll (w : Watched) (ops : List Op) : Watched := ops.foldl apply w

structure Good (w : Watched) : Prop where
  hosted : w.machine.Hosted
  orderly : w.clocked.Orderly

namespace Good

theorem run (h : w.Good) {cycles : UInt64} (room : w.machine.HasRoom (.run cycles)) :
    (w.run cycles).machine = w.machine.run cycles ∧ (w.run cycles).Good := by
  have hosted := h.hosted.run cycles room
  obtain ⟨s, reach, same⟩ := h.hosted.reachable
  have cpu : s.cpu = w.cpu := congrArg Machine.cpu same
  have board : s.observed.board = w.clocked.board := congrArg Machine.board same
  have room' : s.cpu.total.toNat + cycles.toNat + FileDevice.longestCall + longestDelay <
      never.toNat := by
    rw [cpu]
    exact room
  obtain ⟨s', x', -, machine, run, after⟩ :=
    Clocked.companion.run reach (x := w.clocked) ⟨board.symm, h.orderly⟩ room'
  have watched : w.run cycles = ⟨s'.cpu, x'⟩ := by
    rw [Watched.run, ← cpu, run]
  have there : (w.run cycles).machine = w.machine.run cycles := by
    rw [watched, ← same, ← machine, Watched.machine, after.here]
    rfl
  refine ⟨there, there ▸ hosted, ?_⟩
  rw [watched]
  exact after.orderly

theorem runWhileFrame (frames : Nat) {lines : Nat} {w : Watched} (h : w.Good)
    (room : w.cpu.total.toNat + lines * (Display.cyclesPerLine.toNat + FileDevice.longestCall) +
      longestDelay < never.toNat) :
    (w.runWhileFrame frames lines).machine = w.machine.runWhileFrame frames lines ∧
      (w.runWhileFrame frames lines).Good := by
  induction lines generalizing w with
  | zero => exact ⟨rfl, h⟩
  | succ lines ih =>
    rw [Watched.runWhileFrame, Machine.runWhileFrame]
    show (if w.clocked.board.frames = frames then _ else w).machine =
      (if w.clocked.board.frames = frames then _ else w.machine) ∧ _
    split
    · rw [Nat.succ_mul] at room
      have line : w.machine.HasRoom (.run Display.cyclesPerLine) := by
        show w.cpu.total.toNat + _ + _ + _ < _
        omega
      have total := h.hosted.total_run line
      obtain ⟨there, good⟩ := h.run line
      have reached : (w.run Display.cyclesPerLine).cpu.total.toNat ≤
          w.cpu.total.toNat + Display.cyclesPerLine.toNat + FileDevice.longestCall := by
        rw [← there] at total
        exact total
      rw [← there]
      exact ih good (by omega)
    · exact ⟨rfl, h⟩

theorem apply (h : w.Good) {op : Op} (room : w.machine.HasRoom op) :
    (w.apply op).machine = w.machine.apply op ∧ (w.apply op).Good := by
  cases op with
  | run cycles => exact h.run room
  | runFrame => exact h.runWhileFrame w.clocked.board.frames room
  | call c =>
    have quiet := w.machine.quiet_perform c
    exact ⟨rfl, .call c h.hosted, h.orderly.of_clock_eq quiet.clock⟩
  | hardReset => exact ⟨rfl, .hardReset h.hosted, .fresh w.machine⟩

theorem applyAll {ops : List Op} {w : Watched} (h : w.Good) (room : w.machine.HasRoomFor ops) :
    (w.applyAll ops).machine = w.machine.applyAll ops ∧ (w.applyAll ops).Good := by
  induction ops generalizing w with
  | nil => exact ⟨rfl, h⟩
  | cons op ops ih =>
    obtain ⟨there, good⟩ := h.apply room.1
    have rest := room.2
    rw [← there] at rest
    obtain ⟨last, after⟩ := ih good rest
    refine ⟨last.trans ?_, after⟩
    rw [there]
    rfl

end Good

theorem good_fresh (hosted : m.Hosted) : (fresh m).Good := ⟨.hardReset hosted, .fresh m⟩

/-- From the moment a machine is reset, whatever programs it runs and whatever its host does in
between, its clock goes forward only, no event is handled before its deadline, and nothing starts
while an event is due. Watching the clock changes nothing. -/
theorem orderly_applyAll (hosted : m.Hosted) {ops : List Op} (room : m.hardReset.HasRoomFor ops) :
    ((fresh m).applyAll ops).machine = m.hardReset.applyAll ops ∧
      ((fresh m).applyAll ops).clocked.Orderly :=
  have ⟨there, good⟩ := (good_fresh hosted).applyAll room
  ⟨there, good.orderly⟩

theorem orderly_applyAll_blank :
    let m := (assembled {} (Memory.create Session.blankOs none) {} {}).hardReset
    let ops : List Op := [.run 1000, .call .breakKey, .hardReset, .run 1000]
    m.Hosted ∧ m.hardReset.HasRoomFor ops ∧
      ((fresh m).applyAll ops).machine = m.hardReset.applyAll ops ∧
        ((fresh m).applyAll ops).clocked.Orderly := by
  intro m ops
  have hosted : m.Hosted := .powerOn {} Session.blankOs none {} {}
  have room : m.hardReset.HasRoomFor ops :=
    ⟨hasRoom_hardReset _, trivial, trivial, hasRoom_hardReset _, trivial⟩
  exact ⟨hosted, room, orderly_applyAll hosted room⟩

end Watched

end Atari800XL
