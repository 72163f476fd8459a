import Atari800XL.Proofs.Machine.Session

/-! What is true of an observed board whatever happens to it. Most of what happens is quiet: it
leaves the deadlines, the drives and the clock alone. An invariant has to be looked after where an
instruction starts, where the processor writes, where an event settles and where the machine is
reset. -/

namespace Atari800XL

namespace Board

variable {b b' : Board}

structure Sound (b : Board) : Prop where
  low : b.memory.LowIsRam
  exact : b.schedule.Exact

structure Quiet (b b' : Board) : Prop where
  memory : b.memory.Pokes b'.memory
  schedule : b'.schedule = b.schedule
  sio : b'.sio = b.sio
  clock : b'.clock = b.clock
  antic : b'.antic = b.antic
  timing : b'.pokey.timing = b.pokey.timing

theorem Quiet.refl (b : Board) : b.Quiet b := ⟨.refl, rfl, rfl, rfl, rfl, rfl⟩

theorem Pushed.quiet (h : b.Pushed b') : b.Quiet b' :=
  ⟨h.memory, h.schedule, h.sio, h.clock, h.antic, h.timing⟩

theorem Quiet.sound (h : b.Quiet b') (sound : b.Sound) : b'.Sound := by
  refine ⟨h.memory.lowIsRam sound.low, ?_⟩
  rw [h.schedule]
  exact sound.exact

theorem quiet_takeHook (hook : Hook) (cpu : Cpu) (b : Board) :
    b.Quiet (takeHook hook cpu b).2.2 := by
  cases hook with
  | deviceCall => exact ⟨FileDevice.pokes_call b.device b.memory cpu, rfl, rfl, rfl, rfl, rfl⟩
  | putByte => exact ⟨FileDevice.pokes_putByte b.device b.memory cpu, rfl, rfl, rfl, rfl, rfl⟩

theorem sound_write (sound : b.Sound) (address : UInt16) (value : UInt8) :
    (b.write address value).Sound := by
  refine ⟨low_write sound.low address value, ?_⟩
  cases h : b.asksToWait address with
  | false => exact (sets_write h value).exact sound.exact
  | true =>
    rw [write_of_asksToWait h]
    unfold Antic.waitForLine
    split
    · exact sound.exact
    · exact Schedule.exact_stallTo sound.exact _

theorem sound_settle (sound : b.Sound) (event : Event) (deadline : UInt64) :
    (b.settle event deadline).Sound := by
  refine ⟨?_, ?_⟩
  · rw [memory_settle]
    exact sound.low
  · by_cases h : event = .lineFetch
    · obtain ⟨s, -, line⟩ := schedule_settle_lineFetch b deadline
      rw [h, line]
      exact Schedule.exact_set _ _ _
    · exact (sets_settle h b deadline).exact sound.exact

def powered (b : Board) (memory : Memory) : Board :=
  { b with
    schedule := {}
    clock := 0
    memory
    antic := b.antic.reset
    gtia := { b.gtia.reset with cartridge := memory.basicMapped }
    pokey := b.pokey.reset 0
    pia := b.pia.reset
    sio := Disk.Sio.setCommandLine {} b.pia.reset.commandLine
    device := b.device.closeAll
    screen := .black }

end Board

namespace Machine

variable (m : Machine)

structure Touched (m m' : Machine) : Prop where
  cpu : m'.cpu = m.cpu ∨ m'.cpu = m.cpu.requestIrq
  board : ∃ rack gtia pokey pia journal,
    m'.board = { m.board with rack, gtia, pokey, pia, journal }

theorem touched_self : m.Touched m := ⟨.inl rfl, _, _, _, _, _, rfl⟩

theorem touched_keyDown (key : UInt8) (shift control : Bool) :
    m.Touched (m.keyDown key shift control) := by
  unfold keyDown
  dsimp only
  split
  · exact ⟨.inr rfl, _, _, _, _, _, rfl⟩
  · exact ⟨.inl rfl, _, _, _, _, _, rfl⟩

theorem touched_perform (c : Call) : m.Touched (m.perform c) := by
  cases c with
  | keyDown key shift control => exact m.touched_keyDown key shift control
  | typeChar c =>
    simp only [perform, typeChar]
    cases Keyboard.keyFor c with
    | none => exact m.touched_self
    | some key => exact m.touched_keyDown key.1 key.2 false
  | breakKey =>
    simp only [perform, breakKey]
    split
    · exact ⟨.inr rfl, _, _, _, _, _, rfl⟩
    · exact ⟨.inl rfl, _, _, _, _, _, rfl⟩
  | upload slot name data =>
    simp only [perform, upload]
    cases m.board.rack.upload slot name data with
    | error fault => exact m.touched_self
    | ok uploaded => exact ⟨.inl rfl, _, _, _, _, _, rfl⟩
  | mount slot device =>
    simp only [perform, mount]
    cases m.board.rack.mount slot device with
    | error fault => exact m.touched_self
    | ok mounted => exact ⟨.inl rfl, _, _, _, _, _, rfl⟩
  | _ => exact ⟨.inl rfl, _, _, _, _, _, rfl⟩

theorem timing_keyDown (key : UInt8) (shift control : Bool) :
    (m.keyDown key shift control).board.pokey.timing = m.board.pokey.timing := by
  have raised := Pokey.timing_raise
    { m.board.pokey.setShift shift with
      keyCode := Keyboard.scanCode key shift control
      serialStatus := (m.board.pokey.setShift shift).serialStatus &&& ~~~0x04 } Pokey.Source.key
  unfold keyDown
  dsimp only
  split <;> exact raised

theorem timing_perform (c : Call) : (m.perform c).board.pokey.timing = m.board.pokey.timing := by
  cases c with
  | keyDown key shift control => exact m.timing_keyDown key shift control
  | typeChar c =>
    simp only [perform, typeChar]
    cases Keyboard.keyFor c with
    | none => rfl
    | some key => exact m.timing_keyDown key.1 key.2 false
  | breakKey =>
    have raised := Pokey.timing_raise m.board.pokey Pokey.Source.breakKey
    simp only [perform, breakKey]
    split <;> exact raised
  | upload slot name data =>
    simp only [perform, upload]
    cases m.board.rack.upload slot name data <;> rfl
  | mount slot device =>
    simp only [perform, mount]
    cases m.board.rack.mount slot device <;> rfl
  | _ => rfl

theorem quiet_perform (c : Call) : m.board.Quiet (m.perform c).board := by
  have timing := m.timing_perform c
  obtain ⟨rack, gtia, pokey, pia, journal, board⟩ := (m.touched_perform c).board
  rw [board] at timing ⊢
  exact ⟨.refl, rfl, rfl, rfl, rfl, timing⟩

theorem total_perform (c : Call) : (m.perform c).cpu.total = m.cpu.total := by
  rcases (m.touched_perform c).cpu with same | asked
  · rw [same]
  · rw [asked]
    rfl

theorem quiet_installHooks : m.board.Quiet m.installHooks.board := by
  unfold installHooks
  dsimp only
  split <;> exact ⟨.refl, rfl, rfl, rfl, rfl, rfl⟩

theorem total_installHooks : m.installHooks.cpu.total = m.cpu.total := by
  unfold installHooks
  dsimp only
  split
  · dsimp only
    split <;> rfl
  · rfl

def cleared : Machine :=
  let b := m.board
  let board : Board :=
    { b with
      schedule := {}
      clock := 0
      memory := b.memory.reset
      antic := b.antic.reset
      gtia := b.gtia.reset
      pokey := b.pokey.reset 0
      pia := b.pia.reset
      sio := {}
      device := b.device.closeAll
      screen := .black }
  let board := board.applyPorts
  let (cpu, memory) := ({} : Cpu).reset board.memory
  { cpu, board := { board with memory } }

def powered : Memory := m.board.memory.reset.applyPortB m.board.pia.reset.portBPins

theorem memory_reset (memory : Memory) : (({} : Cpu).reset memory).2 = memory := rfl

theorem cleared_eq :
    m.cleared = ⟨(({} : Cpu).reset m.powered).1, m.board.powered m.powered⟩ := by
  unfold cleared Board.applyPorts
  dsimp only
  rw [memory_reset]
  rfl

def hooked : Machine :=
  if m.cleared.board.setup.fileDevice then m.cleared.installHooks else m.cleared

theorem hardReset_eq :
    m.hardReset =
      { m.hooked with
        board := { m.hooked.board with
          schedule := m.hooked.board.schedule.set .lineFetch (nextLineStart m.hooked.cpu.total)
          }.tell [.hardReset m.hooked.cpu.regs.pc] } := rfl

theorem quiet_hooked : m.cleared.board.Quiet m.hooked.board := by
  unfold hooked
  split
  · exact quiet_installHooks _
  · exact .refl _

theorem total_hooked : m.hooked.cpu.total = Cpu.interruptCycles := by
  have total : m.cleared.cpu.total = Cpu.interruptCycles := rfl
  unfold hooked
  split
  · rw [total_installHooks, total]
  · exact total

theorem total_hardReset : m.hardReset.cpu.total = Cpu.interruptCycles := by
  have cpu := congrArg (fun m => m.cpu.total) m.hardReset_eq
  dsimp only at cpu
  rw [cpu, total_hooked]

theorem schedule_hardReset :
    m.hardReset.board.schedule = ({} : Schedule).set .lineFetch Display.cyclesPerLine := by
  have empty : m.cleared.board.schedule = {} := rfl
  have first : nextLineStart Cpu.interruptCycles = Display.cyclesPerLine := by decide
  have board := congrArg (fun m => m.board.schedule) m.hardReset_eq
  dsimp only [Board.tell] at board
  rw [board, total_hooked, first, m.quiet_hooked.schedule, empty]

theorem replies_hardReset : m.hardReset.board.sio.replies = [] := by
  have empty : m.cleared.board.sio.replies = [] := Disk.Sio.replies_setCommandLine _ _
  have board := congrArg (fun m => m.board.sio) m.hardReset_eq
  dsimp only [Board.tell] at board
  rw [board, m.quiet_hooked.sio, empty]

theorem clock_hardReset : m.hardReset.board.clock = 0 := by
  have board := congrArg (fun m => m.board.clock) m.hardReset_eq
  dsimp only [Board.tell] at board
  rw [board, m.quiet_hooked.clock]
  rfl

theorem antic_hardReset : m.hardReset.board.antic = m.board.antic.reset := by
  have board := congrArg (fun m => m.board.antic) m.hardReset_eq
  dsimp only [Board.tell] at board
  rw [board, m.quiet_hooked.antic]
  rfl

theorem sound_hardReset : m.hardReset.board.Sound := by
  have low : m.cleared.board.memory.LowIsRam :=
    (Memory.lowIsRam_reset m.board.memory).applyPortB _
  have board := congrArg (fun m => m.board.memory) m.hardReset_eq
  dsimp only [Board.tell] at board
  refine ⟨?_, ?_⟩
  · rw [board]
    exact m.quiet_hooked.memory.lowIsRam low
  · rw [schedule_hardReset]
    exact Schedule.exact_set _ _ _

end Machine

namespace Session

theorem total_fresh (m : Machine) : (fresh m).cpu.total = Cpu.interruptCycles := m.total_hardReset

end Session

namespace Observed

/-- What has to be shown of a property for it to be true at all times. -/
structure Invariant (P : Observed → Prop) : Prop where
  reset : ∀ m : Machine, P { board := m.hardReset.board }
  quiet : ∀ {o : Observed} {board : Board}, P o → o.board.Quiet board → P { o with board }
  start : ∀ {o : Observed} {cycle : UInt64}, P o → o.board.Sound → Fits cycle →
    cycle < o.board.schedule.next → o.board.schedule.stallUntil ≤ cycle → P (o.start cycle)
  write : ∀ (o : Observed) (address : UInt16) (value : UInt8), P o → P (Bus.write o address value)
  settle : ∀ {o : Observed} {cpu : Cpu} {event : Event} {deadline : UInt64}, P o → o.board.Sound →
    Fits deadline → o.board.schedule.deadline event = deadline →
    (∀ other, deadline ≤ o.board.schedule.deadline other) →
    P { board := o.board.settle event deadline,
        trace := .handled cpu o.board event deadline :: o.trace }

variable {P : Observed → Prop} (hP : Invariant P)

def Holds (P : Observed → Prop) (o : Observed) : Prop := o.board.Sound ∧ P o

namespace Invariant

include hP

theorem quiet' {o : Observed} {board : Board} (h : Holds P o) (quiet : o.board.Quiet board) :
    Holds P { o with board } := ⟨quiet.sound h.1, hP.quiet h.2 quiet⟩

theorem keeps : Bus.Keeps (Holds P) where
  read o address h := hP.quiet' h (Board.pushed_read o.board address).quiet
  write o address value h := ⟨Board.sound_write h.1 address value, hP.write o address value h.2⟩

theorem handle {o : Observed} {cpu : Cpu} {event : Event} {deadline : UInt64} (h : Holds P o)
    (fits : Fits cpu.total) (due : o.board.schedule.due cpu.total = some (event, deadline)) :
    Holds P (o.handle cpu event deadline).2 := by
  obtain ⟨own, le, first⟩ := h.1.exact.due due
  exact hP.quiet'
    ⟨Board.sound_settle h.1 event deadline, hP.settle h.2 h.1 (Fits.mono fits le) own first⟩
    (Board.pushed_handle h.1.low cpu event deadline).quiet

theorem stepHooked {o : Observed} {cpu : Cpu} (h : Holds P o) (fits : Fits cpu.total)
    (next : cpu.total < o.board.schedule.next) (stall : o.board.schedule.stallUntil ≤ cpu.total) :
    Holds P (cpu.stepHooked o).2 :=
  stepHooked_keeps hP.keeps
    (fun hook cpu o h => hP.quiet' h (Board.quiet_takeHook hook cpu o.board))
    ⟨⟨h.1.low, h.1.exact⟩, hP.start h.2 h.1 fits next stall⟩

theorem move {o : Observed} {cpu : Cpu} (h : Holds P o) (fits : Fits cpu.total)
    (next : cpu.total < o.board.schedule.next) (target : UInt64) :
    Holds P (cpu.move o target).2 := by
  unfold Cpu.move
  split
  · exact absurd next (UInt64.not_lt.2 ‹_›)
  · dsimp only
    split
    · exact h
    · exact hP.stepHooked h fits next (UInt64.not_lt.1 ‹_›)

theorem fresh (m : Machine) : Holds P (Session.fresh m).observed := ⟨m.sound_hardReset, hP.reset m⟩

theorem reachable {s : Session} (h : s.Reachable) : Holds P s.observed := by
  induction h with
  | powerOn setup os basic store flags => exact hP.fresh _
  | @step s _ _ next ih =>
    cases next with
    | handle fits due => exact hP.handle ih fits due
    | move fits _ none => exact hP.move ih fits (ih.1.exact.due_eq_none_iff.1 none) _
    | call c => exact hP.quiet' ih (s.machine.quiet_perform c)
    | hardReset => exact hP.fresh _

end Invariant

end Observed

end Atari800XL
