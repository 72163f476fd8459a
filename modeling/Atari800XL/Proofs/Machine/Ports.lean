import Atari800XL.Proofs.Machine.Ending
import Atari800XL.Proofs.Machine.Fittings
import Atari800XL.Proofs.Machine.Programs

namespace Atari800XL

open FileDevice

namespace Disk.Sio

theorem commandLine_setCommandLine (s : Sio) (asserted : Bool) :
    (s.setCommandLine asserted).commandLine = asserted := by
  unfold setCommandLine
  split
  · rename_i rises
    exact (Bool.and_eq_true_iff.1 rises).1.symm
  · rfl

theorem commandLine_finishCommand (s : Sio) (rack : Rack) (frame : ByteArray) :
    (s.finishCommand rack frame).sio.commandLine = s.commandLine := by
  unfold finishCommand
  dsimp only
  split
  · rfl
  · split <;> rfl

theorem commandLine_finishData (s : Sio) (rack : Rack) (p : Pending) (frame : ByteArray) :
    (s.finishData rack p frame).sio.commandLine = s.commandLine := by
  unfold finishData
  dsimp only
  split
  · rfl
  · split <;> rfl

theorem commandLine_putByte (s : Sio) (rack : Rack) (byte : UInt8) :
    (s.putByte rack byte).sio.commandLine = s.commandLine := by
  unfold putByte
  dsimp only
  split
  · split
    · split
      · exact commandLine_finishCommand s rack _
      · rfl
    · rfl
  · split
    · exact commandLine_finishData s rack _ _
    · rfl

theorem commandLine_of_pop {s s' : Sio} {byte : UInt8} (h : s.pop = some (byte, s')) :
    s'.commandLine = s.commandLine := by
  unfold pop at h
  split at h
  · cases h
  · cases h
    rfl

end Disk.Sio

namespace Board

structure Wires where
  portB : Port
  banks : Banks
  commandLine : Bool
  cartridge : Bool

def wires (b : Board) : Wires where
  portB := b.pia.portB
  banks := b.memory.banks
  commandLine := b.sio.commandLine
  cartridge := b.gtia.cartridge

/-- Every copy of the outputs of the second port is up to date. -/
structure Wired (b : Board) : Prop where
  os : b.memory.osMapped = hasBit b.pia.portBPins 0x01
  selfTest : b.memory.selfTestMapped =
    (hasBit b.pia.portBPins 0x01 && !hasBit b.pia.portBPins 0x80)
  basic : b.memory.basicMapped = (b.memory.basic.isSome && !hasBit b.pia.portBPins 0x02)
  commandLine : b.sio.commandLine = b.pia.commandLine
  cartridge : b.gtia.cartridge = b.memory.basicMapped

variable {b b' : Board}

theorem Wired.of_wires_eq (wired : b.Wired) (same : b'.wires = b.wires) : b'.Wired := by
  have port : b'.pia.portB = b.pia.portB := congrArg Wires.portB same
  have banks : b'.memory.banks = b.memory.banks := congrArg Wires.banks same
  have pins : b'.pia.portBPins = b.pia.portBPins := congrArg (Port.pins · 0xFF) port
  have basicMapped : b'.memory.basicMapped = b.memory.basicMapped :=
    congrArg Banks.basicMapped banks
  exact
    { os := by
        rw [pins]
        exact (congrArg Banks.osMapped banks).trans wired.os
      selfTest := by
        rw [pins]
        exact (congrArg Banks.selfTestMapped banks).trans wired.selfTest
      basic := by
        have rom : b'.memory.basic = b.memory.basic := congrArg Banks.basic banks
        rw [pins, rom]
        exact basicMapped.trans wired.basic
      commandLine := by
        have line : b'.pia.commandLine = b.pia.commandLine :=
          congrArg (fun p : Port => p.control &&& 0x38 == 0x30) port
        rw [line]
        exact (congrArg Wires.commandLine same).trans wired.commandLine
      cartridge := by
        rw [basicMapped]
        exact (congrArg Wires.cartridge same).trans wired.cartridge }

theorem wired_of_banks_eq {os : Bytes RomKind.os.size} {basic : Option (Bytes RomKind.basic.size)}
    (banks : b.memory.banks =
      { os, basic
        osMapped := hasBit b.pia.portBPins 0x01
        basicMapped := !hasBit b.pia.portBPins 0x02 && basic.isSome
        selfTestMapped := hasBit b.pia.portBPins 0x01 && !hasBit b.pia.portBPins 0x80 })
    (commandLine : b.sio.commandLine = b.pia.commandLine)
    (cartridge : b.gtia.cartridge = b.memory.basicMapped) : b.Wired where
  os := congrArg Banks.osMapped banks
  selfTest := congrArg Banks.selfTestMapped banks
  basic := by
    have rom : b.memory.basic = basic := congrArg Banks.basic banks
    rw [rom, Bool.and_comm]
    exact congrArg Banks.basicMapped banks
  commandLine := commandLine
  cartridge := cartridge

theorem wired_applyPorts (b : Board) : b.applyPorts.Wired := by
  have banks := b.memory.banks_applyPortB b.pia.portBPins
  unfold applyPorts
  generalize b.memory.applyPortB b.pia.portBPins = memory at banks
  exact wired_of_banks_eq banks (Disk.Sio.commandLine_setCommandLine _ _) rfl

theorem Pushed.wires (h : b.Pushed b') : b'.wires = b.wires := by
  have banks := h.memory.banks
  obtain ⟨-, sound, rest⟩ := h
  unfold Board.wires
  rw [banks, rest]

theorem wires_read (b : Board) (address : UInt16) : (b.read address).2.wires = b.wires :=
  (b.pushed_read address).wires

theorem wires_expectReply (b : Board) (now : UInt64) : (b.expectReply now).wires = b.wires := by
  rw [expectReply_eq]
  rfl

theorem wires_writePokey (b : Board) (register value : UInt8) :
    (b.writePokey register value).wires = b.wires := by
  unfold writePokey
  dsimp only
  split
  · refine (wires_expectReply _ _).trans ?_
    exact congrArg (Wires.mk _ _ · _) (Disk.Sio.commandLine_putByte b.sio b.rack value)
  · rfl

theorem Wired.write (wired : b.Wired) (address : UInt16) (value : UInt8) :
    (b.write address value).Wired := by
  unfold Board.write
  split
  case h_1 =>
    exact wired.of_wires_eq (congrArg (Wires.mk _ · _ _) (b.memory.banks_poke address value))
  case h_2 => exact wired
  case h_3 =>
    refine wired.of_wires_eq (congrArg (Wires.mk _ _ _) ?_)
    exact congrArg Gtia.Wiring.cartridge (b.gtia.wiring_write _ value)
  case h_4 => exact wired.of_wires_eq (b.wires_writePokey _ value)
  case h_5 => exact wired_applyPorts _
  case h_6 => exact wired.of_wires_eq rfl

theorem wires_takeHook (hook : Hook) (cpu : Cpu) (b : Board) :
    (takeHook hook cpu b).2.2.wires = b.wires := by
  refine congrArg (Wires.mk _ · _ _) ?_
  cases hook with
  | deviceCall => exact (pokes_call b.device b.memory cpu).banks
  | putByte => exact (pokes_putByte b.device b.memory cpu).banks

theorem wires_settle (b : Board) (event : Event) (deadline : UInt64) :
    (b.settle event deadline).wires = b.wires := by
  cases event with
  | lineFetch =>
    exact congrArg (Wires.mk _ _ _) (congrArg Gtia.Wiring.cartridge
      (b.antic.wiring_processLine b.memory b.gtia deadline b.schedule))
  | serialInReady =>
    unfold settle
    dsimp only
    split
    · rfl
    · rename_i popped
      rw [expectNext_eq]
      exact congrArg (Wires.mk _ _ · _) (Disk.Sio.commandLine_of_pop popped)
  | _ => rfl

theorem wires_handle (low : b.memory.LowIsRam) (cpu : Cpu) (event : Event) (deadline : UInt64) :
    (handle cpu b event deadline).2.wires = b.wires :=
  (pushed_handle low cpu event deadline).wires.trans (b.wires_settle event deadline)

structure Settled (b : Board) : Prop extends b.Wired where
  low : b.memory.LowIsRam

theorem keeps_settled : Bus.Keeps Settled where
  read b address settled :=
    ⟨settled.toWired.of_wires_eq (b.wires_read address),
      (b.pushed_read address).low settled.low⟩
  write _ address value settled :=
    ⟨settled.toWired.write address value, low_write settled.low address value⟩

theorem Settled.schedule (settled : b.Settled) (schedule : Schedule) :
    Settled { b with schedule } :=
  ⟨settled.toWired.of_wires_eq rfl, settled.low⟩

theorem Settled.tell (settled : b.Settled) (notices : List Notice) : (b.tell notices).Settled :=
  ⟨settled.toWired.of_wires_eq rfl, settled.low⟩

theorem Settled.takeHook (settled : b.Settled) (hook : Hook) (cpu : Cpu) :
    (takeHook hook cpu b).2.2.Settled :=
  ⟨settled.toWired.of_wires_eq (wires_takeHook hook cpu b),
    (quiet_takeHook hook cpu b).memory.lowIsRam settled.low⟩

theorem Settled.handle (settled : b.Settled) (cpu : Cpu) (event : Event) (deadline : UInt64) :
    (handle cpu b event deadline).2.Settled := by
  have same := wires_handle settled.low cpu event deadline
  have low : (b.settle event deadline).memory.LowIsRam := by
    rw [memory_settle]
    exact settled.low
  exact ⟨settled.toWired.of_wires_eq same, (pushed_handle settled.low cpu event deadline).low low⟩

theorem Settled.move (settled : b.Settled) {cpu : Cpu} (next : cpu.total < b.schedule.next)
    (target : UInt64) : (cpu.move b target).2.Settled := by
  unfold Cpu.move
  split
  · exact absurd next (UInt64.not_lt.2 ‹_›)
  · dsimp only
    split
    · exact settled
    · refine Cpu.stepHooked_keeps keeps_settled (fun hook cpu b h => h.takeHook hook cpu) ?_
      exact ⟨settled.toWired.of_wires_eq rfl, settled.low⟩

end Board

namespace Machine

/-- What can happen next: an event that is due is handled, the processor goes on where nothing is
due, or the host does something. No bound is set to the clock. -/
inductive Turn (m : Machine) : Machine → Prop
  | handle {event : Event} {deadline : UInt64} :
      m.board.schedule.due m.cpu.total = some (event, deadline) →
      Turn m ⟨(m.board.handle m.cpu event deadline).1, (m.board.handle m.cpu event deadline).2⟩
  | advance {target : UInt64} : m.cpu.total < target → m.cpu.total < m.board.schedule.next →
      Turn m (m.advance target)
  | call (c : Call) : Turn m (m.perform c)
  | hardReset : Turn m m.hardReset

/-- The states that a machine goes through, within a run and between two of them. -/
inductive Visited : Machine → Prop
  | powerOn (setup : Setup) (os : Bytes RomKind.os.size) (basic : Option (Bytes RomKind.basic.size))
      (store : Files.Store) (flags : TraceFlags) :
      Visited (assembled setup (Memory.create os basic) store flags).hardReset
  | turn {m m' : Machine} : Visited m → Turn m m' → Visited m'

variable (m : Machine)

theorem wires_keyDown (key : UInt8) (shift control : Bool) :
    (m.keyDown key shift control).board.wires = m.board.wires := by
  unfold keyDown
  dsimp only
  split <;> rfl

theorem wires_perform (c : Call) : (m.perform c).board.wires = m.board.wires := by
  cases c with
  | keyDown key shift control => exact m.wires_keyDown key shift control
  | typeChar c =>
    simp only [perform, typeChar]
    cases Keyboard.keyFor c with
    | none => rfl
    | some key => exact m.wires_keyDown key.1 key.2 false
  | breakKey =>
    simp only [perform, breakKey]
    split <;> rfl
  | setJoystick port directions fire =>
    have cartridge : (m.board.gtia.setTrigger port fire).cartridge = m.board.gtia.cartridge := by
      unfold Gtia.setTrigger
      split <;> rfl
    exact congrArg (Board.Wires.mk _ _ _) cartridge
  | upload slot name data =>
    simp only [perform, upload]
    cases m.board.rack.upload slot name data <;> rfl
  | mount slot device =>
    simp only [perform, mount]
    cases m.board.rack.mount slot device <;> rfl
  | _ => rfl

theorem settled_powered : (m.board.powered m.powered).Settled := by
  have low : m.powered.LowIsRam := (Memory.lowIsRam_reset m.board.memory).applyPortB _
  have banks := m.board.memory.reset.banks_applyPortB m.board.pia.reset.portBPins
  unfold powered at low ⊢
  generalize m.board.memory.reset.applyPortB m.board.pia.reset.portBPins = memory at banks low ⊢
  exact ⟨Board.wired_of_banks_eq banks (Disk.Sio.commandLine_setCommandLine _ _) rfl, low⟩

theorem wires_installHooks : m.installHooks.board.wires = m.board.wires := by
  unfold installHooks
  dsimp only
  split <;> rfl

theorem settled_hooked : m.hooked.board.Settled := by
  have cleared : m.cleared.board.Settled := by
    rw [cleared_eq]
    exact m.settled_powered
  unfold hooked
  split
  · have low := m.cleared.quiet_installHooks.memory.lowIsRam cleared.low
    exact ⟨cleared.toWired.of_wires_eq m.cleared.wires_installHooks, low⟩
  · exact cleared

theorem settled_hardReset : m.hardReset.board.Settled := by
  rw [hardReset_eq]
  exact (m.settled_hooked.schedule _).tell _

variable {m}

theorem Turn.settled {m' : Machine} (turn : m.Turn m') (settled : m.board.Settled) :
    m'.board.Settled := by
  cases turn with
  | handle _ => exact settled.handle m.cpu _ _
  | advance _ next => exact settled.move next _
  | call c =>
    have low := (m.quiet_perform c).memory.lowIsRam settled.low
    exact ⟨settled.toWired.of_wires_eq (m.wires_perform c), low⟩
  | hardReset => exact m.settled_hardReset

end Machine

namespace Session

theorem Reachable.visited {s : Session} (h : s.Reachable) : s.machine.Visited := by
  induction h with
  | powerOn setup os basic store flags => exact .powerOn setup os basic store flags
  | @step s s' reach next ih =>
    cases next with
    | @handle event deadline fits due => exact .turn ih (.handle due)
    | @move target fits before none =>
      rw [← reach.advance_eq fits before none]
      exact .turn ih (.advance before (reach.due_eq_none_iff.1 none))
    | call c => exact .turn ih (.call c)
    | hardReset => exact .turn ih .hardReset

end Session

namespace Machine

variable {m : Machine}

/-- At all times the copies that the rest of the machine keeps of the ports are up to date. -/
theorem Visited.wired (h : m.Visited) : m.board.Wired := by
  have settled : m.board.Settled := by
    induction h with
    | powerOn setup os basic store flags => exact settled_hardReset _
    | turn _ turn ih => exact turn.settled ih
  exact settled.toWired

/-- A program asserts the command line and maps the self test in. -/
theorem wired_switched :
    ∃ m : Machine, m.Visited ∧ m.board.Wired ∧ m.board.sio.commandLine = true ∧
      m.board.memory.selfTestMapped = true := by
  let stores : List (UInt16 × UInt8) := [(0xD303, 0x30), (0xD301, 0x80)]
  let code := Program.storing stores
  obtain ⟨s₀, start, total, new⟩ := Session.exists_new code
  obtain ⟨e₁, loaded₁⟩ := Observed.stored_pia (a := 0xD303) start.loaded 7 0x30 (by decide) (by
    rw [new.pia]
    decide)
  have pia₁ : (s₀.observed.stored 7 0xD303 0x30).board.pia = ({} : Pia).write 0x03 0x30 := by
    rw [e₁, ← new.pia]
    rfl
  obtain ⟨e₂, loaded₂⟩ := Observed.stored_pia (a := 0xD301) loaded₁ (7 + 6) 0x80 (by decide) (by
    rw [pia₁]
    decide)
  have pia₂ : ((s₀.observed.stored 7 0xD303 0x30).stored (7 + 6) 0xD301 0x80).board.pia =
      (({} : Pia).write 0x03 0x30).write 0x01 0x80 := by
    rw [e₂, ← pia₁]
    rfl
  have goes : s₀.observed.GoThrough code 7 stores := by
    refine ⟨?_, loaded₁, ?_, loaded₂, trivial⟩
    · rw [new.schedule]
      decide
    · rw [e₁, Board.schedule_applyPorts]
      dsimp only
      rw [new.schedule]
      decide
  obtain ⟨s, stands, -, observed⟩ :=
    start.storeAll (List.prefix_append _ _) (by decide) (by rw [total]; decide) (total ▸ goes)
  have wired := stands.reachable.visited.wired
  rw [total] at observed
  have pia : s.machine.board.pia = (({} : Pia).write 0x03 0x30).write 0x01 0x80 :=
    (congrArg (·.board.pia) observed).trans pia₂
  refine ⟨s.machine, stands.reachable.visited, wired, ?_, ?_⟩
  · rw [wired.commandLine, pia]
    decide
  · rw [wired.selfTest, pia]
    decide

end Machine

namespace Board

theorem Serviced.visited {cpu cpu' : Cpu} {b b' : Board} (h : Serviced cpu b cpu' b')
    (visited : Machine.Visited ⟨cpu, b⟩) : Machine.Visited ⟨cpu', b'⟩ := by
  induction h with
  | done _ => exact visited
  | turn due _ ih => exact ih (.turn visited (.handle due))

end Board

namespace Machine

theorem Ran.visited {m m' : Machine} {target : UInt64} (h : Ran target m m')
    (visited : m.Visited) : m'.Visited := by
  induction h with
  | done _ => exact visited
  | service _ _ serviced _ ih => exact ih (serviced.visited visited)
  | advance before next _ ih => exact ih (.turn visited (.advance before next))

end Machine

end Atari800XL
