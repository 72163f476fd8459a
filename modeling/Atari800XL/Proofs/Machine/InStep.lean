import Atari800XL.Proofs.Machine.Companion
import Atari800XL.Proofs.Machine.Unheard
import Atari800XL.Proofs.Pokey.InStep

namespace Atari800XL

namespace Board

variable {same : Prop} {ahead : Int} {b b' : Board} {cpu : Cpu}

/-- The second board is `ahead` by some pictures, may have told something else, and its sound is in
step. -/
inductive InStep (same : Prop) (ahead : Int) (b : Board) : Board → Prop
  | intro {frames : Nat} {journal : Journal} {pokey : Pokey} :
      (frames : Int) = b.frames + ahead → b.pokey.InStep same pokey →
      InStep same ahead b { b with frames, journal, pokey }

namespace InStep

theorem frames (h : b.InStep same ahead b') : (b'.frames : Int) = b.frames + ahead := by
  obtain ⟨frames, -⟩ := h
  exact frames

theorem pokey (h : b.InStep same ahead b') : b.pokey.InStep same b'.pokey := by
  obtain ⟨-, pokey⟩ := h
  exact pokey

theorem schedule (h : b.InStep same ahead b') : b'.schedule = b.schedule := by
  cases h
  rfl

theorem setup (h : b.InStep same ahead b') : b'.setup = b.setup := by
  cases h
  rfl

theorem antic (h : b.InStep same ahead b') : b'.antic = b.antic := by
  cases h
  rfl

theorem tell (h : b.InStep same ahead b') (notices notices' : List Notice) :
    (b.tell notices).InStep same ahead (b'.tell notices') := by
  obtain ⟨frames, pokey⟩ := h
  exact .intro frames pokey

theorem read (h : b.InStep same ahead b') (address : UInt16) :
    (b.read address).1 = (b'.read address).1 ∧
      (b.read address).2.InStep same ahead (b'.read address).2 := by
  obtain ⟨frames, pokey⟩ := h
  unfold Board.read
  dsimp only
  split
  case h_4 =>
    obtain ⟨value, pokey⟩ := pokey.read (lowByte address) b.clock
    exact ⟨value, .intro frames pokey⟩
  all_goals exact ⟨rfl, .intro frames pokey⟩

theorem expectReply (h : b.InStep same ahead b') (now : UInt64) :
    (b.expectReply now).InStep same ahead (b'.expectReply now) := by
  obtain ⟨frames, pokey⟩ := h
  unfold Board.expectReply
  dsimp only
  split
  · exact .intro frames pokey
  · split <;> exact .intro frames pokey

theorem sendToDrives (h : b.InStep same ahead b') (byte : UInt8) :
    (b.sendToDrives byte).InStep same ahead (b'.sendToDrives byte) := by
  obtain ⟨frames, pokey⟩ := h
  unfold Board.sendToDrives Board.tell
  dsimp only
  refine expectReply ?_ b.clock
  exact .intro frames pokey

theorem writePokey (h : b.InStep same ahead b') (register value : UInt8) :
    (b.writePokey register value).InStep same ahead (b'.writePokey register value) := by
  obtain ⟨frames, pokey⟩ := h
  obtain ⟨pokey, schedule⟩ := pokey.write register value b.clock b.schedule
  unfold Board.writePokey
  dsimp only
  rw [← schedule]
  split
  · refine sendToDrives ?_ value
    exact .intro frames pokey
  · exact .intro frames pokey

theorem applyPorts (h : b.InStep same ahead b') : b.applyPorts.InStep same ahead b'.applyPorts := by
  obtain ⟨frames, pokey⟩ := h
  unfold Board.applyPorts
  dsimp only
  exact .intro frames pokey

theorem write (h : b.InStep same ahead b') (address : UInt16) (value : UInt8) :
    (b.write address value).InStep same ahead (b'.write address value) := by
  have chip := h.writePokey (lowByte address) value
  obtain ⟨frames, pokey⟩ := h
  unfold Board.write
  dsimp only
  split
  case h_4 => exact chip
  case h_5 =>
    refine applyPorts ?_
    exact .intro frames pokey
  all_goals exact .intro frames pokey

theorem takeHook (h : b.InStep same ahead b') (hook : Hook) (cpu : Cpu) :
    (takeHook hook cpu b).1 = (takeHook hook cpu b').1 ∧
      (takeHook hook cpu b).2.1 = (takeHook hook cpu b').2.1 ∧
        (takeHook hook cpu b).2.2.InStep same ahead (takeHook hook cpu b').2.2 := by
  obtain ⟨frames, pokey⟩ := h
  cases hook <;> exact ⟨rfl, rfl, .intro frames pokey⟩

theorem syncClock (h : b.InStep same ahead b') (cycle : UInt64) :
    Board.InStep same ahead (TimedBus.syncClock cycle b) (TimedBus.syncClock cycle b') := by
  obtain ⟨frames, pokey⟩ := h
  exact .intro frames pokey

end InStep

theorem related_inStep (same : Prop) (ahead : Int) :
    TimedBus.Related fun b b' : Board => b.InStep same ahead b' where
  read address h := h.read address
  write address value h := h.write address value
  takeHook hook cpu h := h.takeHook hook cpu

theorem enters_inStep (same : Prop) (ahead : Int) :
    Bus.Enters fun b b' : Board => b.InStep same ahead b' where
  push r value h := h.write r.stackAddress value
  vector address _ h := h.read address

namespace InStep

theorem raiseNmi (h : b.InStep same ahead b') (cpu : Cpu) (source : String) (cycle : UInt64) :
    (raiseNmi cpu b source cycle).1 = (raiseNmi cpu b' source cycle).1 ∧
      (raiseNmi cpu b source cycle).2.InStep same ahead (raiseNmi cpu b' source cycle).2 := by
  unfold Board.raiseNmi
  exact Cpu.nmi_related (enters_inStep same ahead) (h.tell _ _) cpu

theorem raiseIf (h : b.InStep same ahead b') (asked : Bool) (cpu : Cpu) (source : String) :
    (raiseIf asked cpu b source).1 = (raiseIf asked cpu b' source).1 ∧
      (raiseIf asked cpu b source).2.InStep same ahead (raiseIf asked cpu b' source).2 := by
  unfold Board.raiseIf Board.raiseIrq
  split
  · exact Cpu.irq_related (enters_inStep same ahead) (h.tell _ _) cpu
  · exact ⟨rfl, h⟩

theorem drawLine (h : b.InStep same ahead b') (deadline : UInt64) :
    (b.drawLine deadline).1 = (b'.drawLine deadline).1 ∧
      (b.drawLine deadline).2.InStep same ahead (b'.drawLine deadline).2 := by
  obtain ⟨frames, pokey⟩ := h
  unfold Board.drawLine Board.tell
  dsimp only
  refine ⟨rfl, .intro ?_ (pokey.catchUp deadline)⟩
  dsimp only
  split <;> omega

theorem lineFetch (h : b.InStep same ahead b') (cpu : Cpu) (deadline : UInt64) :
    (lineFetch cpu b deadline).1 = (lineFetch cpu b' deadline).1 ∧
      (lineFetch cpu b deadline).2.InStep same ahead (lineFetch cpu b' deadline).2 := by
  obtain ⟨report, drawn⟩ := h.drawLine deadline
  unfold Board.lineFetch
  dsimp only
  rw [report]
  split
  · exact drawn.raiseNmi cpu _ _
  · exact ⟨rfl, drawn⟩

theorem listInterrupt (h : b.InStep same ahead b') (cpu : Cpu) (deadline : UInt64) :
    (listInterrupt cpu b deadline).1 = (listInterrupt cpu b' deadline).1 ∧
      (listInterrupt cpu b deadline).2.InStep same ahead (listInterrupt cpu b' deadline).2 := by
  obtain ⟨frames, pokey⟩ := h
  unfold Board.listInterrupt
  dsimp only
  split
  · refine raiseNmi ?_ cpu _ _
    exact .intro frames pokey
  · exact ⟨rfl, .intro frames pokey⟩

theorem timerDue (h : b.InStep same ahead b') (cpu : Cpu) (timer : Pokey.Timer)
    (deadline : UInt64) :
    (timerDue cpu b timer deadline).1 = (timerDue cpu b' timer deadline).1 ∧
      (timerDue cpu b timer deadline).2.InStep same ahead (timerDue cpu b' timer deadline).2 := by
  obtain ⟨frames, pokey⟩ := h
  obtain ⟨asked, schedule, pokey⟩ := pokey.timerDue timer deadline b.schedule
  unfold Board.timerDue
  dsimp only
  rw [← asked, ← schedule]
  refine raiseIf ?_ _ cpu _
  exact .intro frames pokey

theorem serialOutNeeded (h : b.InStep same ahead b') (cpu : Cpu) :
    (serialOutNeeded cpu b).1 = (serialOutNeeded cpu b').1 ∧
      (serialOutNeeded cpu b).2.InStep same ahead (serialOutNeeded cpu b').2 := by
  obtain ⟨frames, pokey⟩ := h
  obtain ⟨asked, schedule, pokey⟩ := pokey.serialOutNeeded b.schedule
  unfold Board.serialOutNeeded
  dsimp only
  rw [← asked, ← schedule]
  refine raiseIf ?_ _ cpu _
  exact .intro frames pokey

theorem serialOutDone (h : b.InStep same ahead b') (cpu : Cpu) :
    (serialOutDone cpu b).1 = (serialOutDone cpu b').1 ∧
      (serialOutDone cpu b).2.InStep same ahead (serialOutDone cpu b').2 := by
  obtain ⟨frames, pokey⟩ := h
  obtain ⟨asked, schedule, pokey⟩ := pokey.serialOutDone b.schedule
  unfold Board.serialOutDone
  dsimp only
  rw [← asked, ← schedule]
  refine raiseIf ?_ _ cpu _
  exact .intro frames pokey

theorem expectNext (h : b.InStep same ahead b') (deadline : UInt64) :
    (b.expectNext deadline).InStep same ahead (b'.expectNext deadline) := by
  obtain ⟨frames, pokey⟩ := h
  unfold Board.expectNext
  dsimp only
  split <;> exact .intro frames pokey

theorem serialInReady (h : b.InStep same ahead b') (cpu : Cpu) (deadline : UInt64) :
    (serialInReady cpu b deadline).1 = (serialInReady cpu b' deadline).1 ∧
      (serialInReady cpu b deadline).2.InStep same ahead (serialInReady cpu b' deadline).2 := by
  obtain ⟨frames, pokey⟩ := h
  unfold Board.serialInReady
  dsimp only
  split
  · exact ⟨rfl, .intro frames pokey⟩
  · rename_i byte sio _
    obtain ⟨asked, pokey⟩ := pokey.receive byte
    rw [← asked]
    refine And.imp_right (·.expectNext deadline) (raiseIf ?_ _ cpu _)
    exact .intro frames pokey

theorem handle (h : b.InStep same ahead b') (cpu : Cpu) (event : Event) (deadline : UInt64) :
    (handle cpu b event deadline).1 = (handle cpu b' event deadline).1 ∧
      (handle cpu b event deadline).2.InStep same ahead (handle cpu b' event deadline).2 := by
  have start := h.syncClock deadline
  cases event with
  | lineFetch => exact start.lineFetch cpu deadline
  | displayListInterrupt => exact start.listInterrupt cpu deadline
  | timer1 => exact start.timerDue cpu .one deadline
  | timer2 => exact start.timerDue cpu .two deadline
  | timer4 => exact start.timerDue cpu .four deadline
  | serialOutNeeded => exact start.serialOutNeeded cpu
  | serialOutDone => exact start.serialOutDone cpu
  | serialInReady => exact start.serialInReady cpu deadline

end InStep

theorem companion_inStep (same : Prop) (ahead : Int) :
    Session.Companion fun s b' => s.observed.board.InStep same ahead b' where
  next h := congrArg Schedule.next h.schedule
  idle {s b'} h none := by
    rw [Session.due, ← h.schedule] at none
    show Board.serviceEvents s.cpu b' = _
    rw [Board.serviceEvents, none]
  handle {s b' event deadline} h _ _ due := by
    obtain ⟨cpu, after⟩ := h.handle s.cpu event deadline
    rw [Session.due, ← h.schedule] at due
    refine ⟨_, ?_, after⟩
    show Board.serviceEvents s.cpu b' = Board.serviceEvents (Board.handle s.cpu _ _ _).1 _
    rw [Board.serviceEvents, due, cpu]
  move {s b' target} h reach fits before none := by
    have next : s.cpu.total < s.observed.board.schedule.next := reach.due_eq_none_iff.1 none
    have schedule := h.schedule.symm
    obtain ⟨moved, after⟩ := Cpu.move_related (related_inStep same ahead) s.cpu h
      (h.syncClock _) (congrArg Schedule.next schedule) (congrArg Schedule.stallUntil schedule)
      (UInt64.not_le.2 next) target
    rw [(reach.moves fits before none).board] at moved after
    exact ⟨(s.cpu.move b' target).2, Prod.ext moved.symm rfl, after⟩

end Board

namespace Machine

open FileDevice

variable {same : Prop} {ahead : Int} {m m' : Machine}

structure InStep (same : Prop) (ahead : Int) (m m' : Machine) : Prop where
  cpu : m.cpu = m'.cpu
  board : m.board.InStep same ahead m'.board

namespace InStep

theorem run (h : m.InStep same ahead m') (hosted : m.Hosted) {cycles : UInt64}
    (room : m.HasRoom (.run cycles)) : (m.run cycles).InStep same ahead (m'.run cycles) := by
  obtain ⟨s, reach, rfl⟩ := hosted.reachable
  obtain ⟨s', b', -, there, beside, after⟩ :=
    (Board.companion_inStep same ahead).run reach h.board room
  have run : m'.run cycles = ⟨s'.cpu, b'⟩ := by
    have cpu : m'.cpu = s.cpu := h.cpu.symm
    rw [Machine.run, cpu, beside]
  rw [← there, run]
  exact ⟨rfl, after⟩

theorem runWhileFrame {frames frames' : Nat} (offset : (frames' : Int) = frames + ahead)
    {lines : Nat} (h : m.InStep same ahead m') (hosted : m.Hosted)
    (room : m.cpu.total.toNat + lines * (Display.cyclesPerLine.toNat + longestCall) +
      longestDelay < never.toNat) :
    (m.runWhileFrame frames lines).InStep same ahead (m'.runWhileFrame frames' lines) := by
  induction lines generalizing m m' with
  | zero => exact h
  | succ lines ih =>
    have counted := h.board.frames
    have passed : m.board.frames = frames ↔ m'.board.frames = frames' := by omega
    rw [Nat.succ_mul] at room
    rw [Machine.runWhileFrame, Machine.runWhileFrame]
    by_cases here : m.board.frames = frames
    · have line : m.HasRoom (.run Display.cyclesPerLine) := by
        show m.cpu.total.toNat + _ + _ + _ < _
        omega
      have total := hosted.total_run line
      rw [if_pos here, if_pos (passed.1 here)]
      exact ih (h.run hosted line) (.run _ hosted line) (by omega)
    · rw [if_neg here, if_neg (mt passed.2 here)]
      exact h

theorem takeSamples (h : m.InStep same ahead m') (n : Nat) :
    (m.takeSamples n).1.length = (m'.takeSamples n).1.length ∧
      (same → (m.takeSamples n).1 = (m'.takeSamples n).1) ∧
        (m.takeSamples n).2.InStep same ahead (m'.takeSamples n).2 := by
  obtain ⟨cpu, board⟩ := m
  obtain ⟨cpu', board'⟩ := m'
  obtain ⟨rfl, h⟩ := h
  obtain ⟨frames, pokey⟩ := h
  have caught := pokey.catchUp cpu.total
  obtain ⟨length, samples, drained⟩ := caught.sound.drain n
  refine ⟨length, samples, rfl, .intro frames ?_⟩
  exact caught.of_sound drained

theorem keyDown (h : m.InStep same ahead m') (key : UInt8) (shift control : Bool) :
    (m.keyDown key shift control).InStep same ahead (m'.keyDown key shift control) := by
  obtain ⟨cpu, board⟩ := m
  obtain ⟨cpu', board'⟩ := m'
  obtain ⟨rfl, h⟩ := h
  obtain ⟨frames, pokey⟩ := h
  obtain ⟨asked, pressed⟩ :=
    (pokey.setShift shift).keyDown (Keyboard.scanCode key shift control)
  unfold Machine.keyDown
  dsimp only
  rw [← asked]
  split
  · exact ⟨rfl, .intro frames pressed⟩
  · exact ⟨rfl, .intro frames pressed⟩

theorem perform (h : m.InStep same ahead m') (c : Call) :
    (m.perform c).InStep same ahead (m'.perform c) := by
  have whole := h
  obtain ⟨cpu, board⟩ := m
  obtain ⟨cpu', board'⟩ := m'
  obtain ⟨rfl, h⟩ := h
  obtain ⟨frames, pokey⟩ := h
  cases c with
  | takeSamples n => exact (whole.takeSamples n).2.2
  | keyDown key shift control => exact whole.keyDown key shift control
  | typeChar c =>
    simp only [Machine.perform, typeChar]
    cases Keyboard.keyFor c with
    | none => exact whole
    | some key => exact whole.keyDown key.1 key.2 false
  | keyUp => exact ⟨rfl, .intro frames (pokey.keyUp.setShift false)⟩
  | breakKey =>
    obtain ⟨asked, pressed⟩ := pokey.raise Pokey.Source.breakKey
    simp only [Machine.perform]
    unfold Machine.breakKey Pokey.breakDown
    dsimp only
    rw [← asked]
    split
    · exact ⟨rfl, .intro frames pressed⟩
    · exact ⟨rfl, .intro frames pressed⟩
  | setPaddle n position => exact ⟨rfl, .intro frames (pokey.setPaddle n position)⟩
  | upload slot name data =>
    simp only [Machine.perform, upload]
    cases board.rack.upload slot name data <;> exact ⟨rfl, .intro frames pokey⟩
  | mount slot device =>
    simp only [Machine.perform, mount]
    cases board.rack.mount slot device <;> exact ⟨rfl, .intro frames pokey⟩
  | _ => exact ⟨rfl, .intro frames pokey⟩

end InStep

end Machine

end Atari800XL
