import Atari800XL.Proofs.Antic.Frames
import Atari800XL.Proofs.Machine.Running
import Atari800XL.Proofs.Machine.Tapped
import Mathlib.Logic.Relation

/-! Machines that run a program of their own ROM. Interrupts are off, so that the program writes to
one register after the other and then stays where it is while events go on around it. -/

namespace Atari800XL

namespace Program

def address (i : Nat) : UInt16 := UInt16.ofNat (0xE000 + i)

def room : Nat := 0x1000

def rom (code : List UInt8) : Bytes RomKind.os.size :=
  -- the program from `$E000` on, and that address in the reset vector
  ((Bytes.replicate _ 0).update 0x2000 room fun i => code.getD (i - 0x2000) 0).set 0x3FFD 0xE0
    (by decide)

def storeByte (a : UInt16) (value : UInt8) : List UInt8 :=
  -- `lda` with the byte, and `sta`
  [0xA9, value, 0x8D, lowByte a, highByte a]

def stay (i : Nat) : List UInt8 :=
  -- a `jmp` to itself
  [0x4C, lowByte (address i), highByte (address i)]

def storing (stores : List (UInt16 × UInt8)) : List UInt8 :=
  stores.flatMap (fun (a, value) => storeByte a value) ++ stay (5 * stores.length)

theorem length_stores (stores : List (UInt16 × UInt8)) :
    (stores.flatMap fun (a, value) => storeByte a value).length = 5 * stores.length := by
  induction stores with
  | nil => rfl
  | cons store rest ih =>
    rw [List.flatMap_cons, List.length_append, ih, List.length_cons, Nat.mul_succ, Nat.add_comm]
    rfl

theorem address_succ (i : Nat) : address i + 1 = address (i + 1) :=
  (UInt16.ofNat_add (0xE000 + i) 1).symm

theorem toNat_address {i : Nat} (inside : i < room) : (address i).toNat = 0xE000 + i := by
  unfold room at inside
  rw [address, UInt16.toNat_ofNat', Nat.mod_eq_of_lt (by omega)]

theorem getD_rom (code : List UInt8) {i : Nat} (inside : i < room) :
    (rom code).getD (0x2000 + i) = code.getD i 0 := by
  unfold room at inside
  have bound : 0x2000 + i < RomKind.os.size := by
    show 0x2000 + i < 0x4000
    omega
  rw [Bytes.getD, dif_pos bound, rom, Bytes.get_set, if_neg (by omega), Bytes.get_update,
    if_pos ⟨Nat.le_add_right _ _, Nat.add_lt_add_left inside _⟩, Nat.add_sub_cancel_left]

theorem start_rom (code : List UInt8) :
    word ((rom code).getD 0x3FFC) ((rom code).getD 0x3FFD) = address 0 := by
  have low : (rom code).getD 0x3FFC = 0 := by
    rw [Bytes.getD, dif_pos (by decide), rom, Bytes.get_set, if_neg (by decide), Bytes.get_update,
      if_neg (by decide)]
    exact Array.getElem_replicate _
  have high : (rom code).getD 0x3FFD = 0xE0 := by
    rw [Bytes.getD, dif_pos (by decide), rom, Bytes.get_set, if_pos rfl]
  rw [low, high]
  decide

end Program

open Program

namespace Memory

variable {m : Memory} {code : List UInt8} {i : Nat} {a : UInt16}

structure Loaded (m : Memory) (code : List UInt8) : Prop where
  mapped : m.osMapped = true
  text : ∀ a : UInt16, 0xE000 ≤ a.toNat →
    m.accessAt a = .rom ∧ m.peek a = (rom code).getD (a.toNat - 0xC000)
  chips : ∀ page ∈ ioPages, ∀ a, page.Holds a → m.accessAt a = page.chip.getD .rom

theorem shown_cell (m : Memory) (a : UInt16) : (m.cell a).shown = m.peek a := rfl

theorem not_page_of_high (high : 0xE000 ≤ a.toNat) : ∀ page ∈ ioPages, ¬page.Holds a := by
  have below : ∀ page ∈ ioPages, page.start + 0x100 ≤ 0xE000 := by decide
  intro page mem held
  rw [IoPage.Holds] at held
  have := below page mem
  omega

theorem cell_applyPortB_of_high (m : Memory) (pins : UInt8) (high : 0xE000 ≤ a.toNat) :
    (m.applyPortB pins).cell a =
      (m.cell a).switch m.osMapped (hasBit pins 0x01) (m.os.getD (a.toNat - 0xC000)) := by
  have bound := a.toNat_lt
  have low : ¬Window.osLow.Holds a := by
    simp only [Window.Holds, Window.osLow]
    omega
  have inside : Window.osHigh.Holds a := by
    simp only [Window.Holds, Window.osHigh]
    omega
  have byte : Window.osHigh.byte m.os a = m.os.getD (a.toNat - 0xC000) := by
    refine Window.byte_eq m.os ?_
    simp only [Window.osHigh]
    omega
  rw [cell_applyPortB_of_not_page m pins (not_page_of_high high), if_neg low, if_pos inside, byte]

theorem chips_applyPortB (m : Memory) (pins : UInt8) :
    ∀ page ∈ ioPages, ∀ a, page.Holds a →
      (m.applyPortB pins).accessAt a = page.chip.getD .rom := by
  intro page mem a held
  rw [← access_cell, cell_applyPortB_of_page m pins mem held]
  rfl

theorem osMapped_applyPortB (m : Memory) (pins : UInt8) :
    (m.applyPortB pins).osMapped = hasBit pins 0x01 := by
  have switched := m.banks_applyPortB pins
  rw [banks, Banks.mk.injEq] at switched
  exact switched.2.2.1

theorem loaded_of_off (os : m.os = rom code) (off : m.osMapped = false) {pins : UInt8}
    (on : hasBit pins 0x01 = true) : (m.applyPortB pins).Loaded code where
  mapped := (osMapped_applyPortB m pins).trans on
  text a high := by
    have cell := m.cell_applyPortB_of_high pins high
    rw [off, on, Cell.switch, if_neg (by decide), if_pos rfl, os] at cell
    rw [← access_cell, ← shown_cell, cell]
    refine ⟨rfl, ?_⟩
    dsimp only
  chips := chips_applyPortB m pins

theorem loaded_create (code : List UInt8) (basic : Option (Bytes RomKind.basic.size)) :
    (create (rom code) basic).Loaded code := by
  refine loaded_of_off ?_ ?_ (by decide)
  · rfl
  · rfl

theorem Loaded.applyPortB (h : m.Loaded code) {pins : UInt8} (on : hasBit pins 0x01 = true) :
    (m.applyPortB pins).Loaded code where
  mapped := (osMapped_applyPortB m pins).trans on
  text a high := by
    have cell := m.cell_applyPortB_of_high pins high
    rw [h.mapped, on, Cell.switch, if_pos rfl] at cell
    rw [← access_cell, ← shown_cell, cell]
    exact h.text a high
  chips := chips_applyPortB m pins

theorem Loaded.address (h : m.Loaded code) (inside : i < room) :
    m.accessAt (address i) = .rom ∧ m.peek (address i) = code.getD i 0 := by
  have place := toNat_address inside
  have index : 0xE000 + i - 0xC000 = 0x2000 + i := by omega
  obtain ⟨rom, byte⟩ := h.text (Program.address i) (by omega)
  rw [place, index] at byte
  exact ⟨rom, byte.trans (getD_rom code inside)⟩

theorem Loaded.pokey (h : m.Loaded code) (held : 0xD200 ≤ a.toNat ∧ a.toNat < 0xD300) :
    m.accessAt a = .pokey := h.chips ⟨0xD200, some .pokey⟩ (by decide) a held

theorem Loaded.pia (h : m.Loaded code) (held : 0xD300 ≤ a.toNat ∧ a.toNat < 0xD400) :
    m.accessAt a = .pia := h.chips ⟨0xD300, some .pia⟩ (by decide) a held

theorem Loaded.antic (h : m.Loaded code) (held : 0xD400 ≤ a.toNat ∧ a.toNat < 0xD500) :
    m.accessAt a = .antic := h.chips ⟨0xD400, some .antic⟩ (by decide) a held

end Memory

namespace Cpu

variable {β : Type} [Bus β] {cpu : Cpu} {bus : β}

theorem step_of_masked (masked : cpu.masked = true) : cpu.step bus = cpu.executeNext bus := by
  rw [step, masked, Bool.not_true, Bool.and_false, if_neg Bool.false_ne_true]

theorem executeNext_lda {value : UInt8} (opcode : Bus.read bus cpu.regs.pc = (0xA9, bus))
    (operand : Bus.read bus (cpu.regs.pc + 1) = (value, bus)) :
    cpu.executeNext bus =
      ({ cpu with regs := { cpu.regs with
          pc := cpu.regs.pc + 1 + 1, a := value,
          status := withResult cpu.regs.status value } }.charge 2, bus) := by
  have decoded : decode 0xA9 = .load .lda .immediate := rfl
  have inside : Effective.crossed ⟨cpu.regs.pc + 1, cpu.regs.pc + 1⟩ = false := bne_self_eq_false' _
  simp only [executeNext, Registers.fetch, opcode, decoded, Instruction.execute,
    Instruction.executeLoad, AddressMode.resolve, Effective.direct, operand, inside]
  rfl

theorem executeNext_sta {a : UInt16} (opcode : Bus.read bus cpu.regs.pc = (0x8D, bus))
    (low : Bus.read bus (cpu.regs.pc + 1) = (lowByte a, bus))
    (high : Bus.read bus (cpu.regs.pc + 1 + 1) = (highByte a, bus)) :
    cpu.executeNext bus =
      ({ cpu with regs := { cpu.regs with pc := cpu.regs.pc + 1 + 1 + 1 } }.charge 4,
        Bus.write bus a cpu.regs.a) := by
  have decoded : decode 0x8D = .store .sta .absolute := rfl
  simp only [executeNext, Registers.fetch, Registers.fetchWord, opcode, decoded,
    Instruction.execute, Instruction.executeStore, AddressMode.resolve, Effective.direct, low, high,
    word_lowByte_highByte]
  rfl

theorem executeNext_jmp {a : UInt16} (opcode : Bus.read bus cpu.regs.pc = (0x4C, bus))
    (low : Bus.read bus (cpu.regs.pc + 1) = (lowByte a, bus))
    (high : Bus.read bus (cpu.regs.pc + 1 + 1) = (highByte a, bus)) :
    cpu.executeNext bus = ({ cpu with regs := { cpu.regs with pc := a } }.charge 3, bus) := by
  have decoded : decode 0x4C = .jump .absolute := rfl
  simp only [executeNext, Registers.fetch, Registers.fetchWord, opcode, decoded,
    Instruction.execute, AddressMode.resolve, Effective.direct, low, high, word_lowByte_highByte]
  rfl

end Cpu

namespace Observed

variable {o : Observed} {code : List UInt8} {i : Nat}

theorem read_address (h : o.board.memory.Loaded code) (inside : i < room) :
    Bus.read o (address i) = (code.getD i 0, o) := by
  obtain ⟨rom, byte⟩ := h.address inside
  show ((o.board.read (address i)).1, { o with board := (o.board.read (address i)).2 }) = _
  rw [Board.read, rom, byte]

theorem read_text (h : o.board.memory.Loaded code) {bytes : List UInt8}
    (text : bytes <+: code.drop i) (inside : i + bytes.length ≤ room) {k : Nat} {byte : UInt8}
    (here : bytes[k]? = some byte) : Bus.read o (address (i + k)) = (byte, o) := by
  obtain ⟨rest, same⟩ := text
  obtain ⟨lt, -⟩ := List.getElem?_eq_some_iff.1 here
  rw [read_address h (by omega), List.getD_eq_getElem?_getD, ← List.getElem?_drop, ← same,
    List.getElem?_append_left lt, here, Option.getD_some]

def stored (o : Observed) (cycle : UInt64) (a : UInt16) (value : UInt8) : Observed :=
  Bus.write ((o.start cycle).start (cycle + 2)) a value

section

variable (h : o.board.memory.Loaded code) (cycle : UInt64) {a : UInt16} (value : UInt8)
include h

theorem stored_pokey (held : 0xD200 ≤ a.toNat ∧ a.toNat < 0xD300) :
    (o.stored cycle a value).board =
        { o.board with clock := cycle + 2 }.writePokey (lowByte a) value ∧
      (o.stored cycle a value).board.memory.Loaded code := by
  let b : Board := { o.board with clock := cycle + 2 }
  have written : b.write a value = b.writePokey (lowByte a) value := by
    simp only [Board.write, b, h.pokey held]
  have kept : (b.writePokey (lowByte a) value).memory = b.memory := by
    unfold Board.writePokey
    dsimp only
    split
    · exact Board.memory_expectReply _ _
    · rfl
  refine ⟨written, ?_⟩
  show (b.write a value).memory.Loaded code
  rw [written, kept]
  exact h

theorem stored_pokey_of_ne (held : 0xD200 ≤ a.toNat ∧ a.toNat < 0xD300)
    (quiet : (lowByte a &&& 0x0F == Board.serialOutput) = false) :
    let written := o.board.pokey.write (lowByte a) value (cycle + 2) o.board.schedule
    (o.stored cycle a value).board =
      { o.board with clock := cycle + 2, pokey := written.1, schedule := written.2 } := by
  intro written
  rw [(stored_pokey h cycle value held).1, Board.writePokey]
  simp only [quiet, Bool.false_eq_true, if_false, written]

theorem stored_pia (held : 0xD300 ≤ a.toNat ∧ a.toNat < 0xD400)
    (on : hasBit (o.board.pia.write (lowByte a) value).portBPins 0x01 = true) :
    (o.stored cycle a value).board =
        { o.board with
          clock := cycle + 2, pia := o.board.pia.write (lowByte a) value }.applyPorts ∧
      (o.stored cycle a value).board.memory.Loaded code := by
  let b : Board := { o.board with clock := cycle + 2 }
  have written : b.write a value =
      { b with pia := b.pia.write (lowByte a) value }.applyPorts := by
    simp only [Board.write, b, h.pia held]
  refine ⟨written, ?_⟩
  show (b.write a value).memory.Loaded code
  rw [written]
  exact h.applyPortB on

theorem stored_antic (held : 0xD400 ≤ a.toNat ∧ a.toNat < 0xD500) :
    let written := o.board.antic.write (lowByte a) value o.board.schedule
    (o.stored cycle a value).board =
        { o.board with clock := cycle + 2, antic := written.1, schedule := written.2 } ∧
      (o.stored cycle a value).board.memory.Loaded code := by
  intro written
  let b : Board := { o.board with clock := cycle + 2 }
  have same : b.write a value = { b with antic := written.1, schedule := written.2 } := by
    simp only [Board.write, b, h.antic held, written]
  refine ⟨same, ?_⟩
  show (b.write a value).memory.Loaded code
  rw [same]
  exact h

end

def storedAll (o : Observed) (cycle : UInt64) : List (UInt16 × UInt8) → Observed
  | [] => o
  | (a, value) :: rest => (o.stored cycle a value).storedAll (cycle + 6) rest

theorem lineFetch_storedAll (o : Observed) (cycle : UInt64) (stores : List (UInt16 × UInt8)) :
    (o.storedAll cycle stores).board.schedule.lineFetch = o.board.schedule.lineFetch := by
  induction stores generalizing o cycle with
  | nil => rfl
  | cons store rest ih => exact (ih _ _).trans (lineFetch_write _ _ _)

def GoThrough (o : Observed) (code : List UInt8) (cycle : UInt64) : List (UInt16 × UInt8) → Prop
  | [] => True
  | (a, value) :: rest =>
    (cycle + 2 < o.board.schedule.next ∧ o.board.schedule.stallUntil ≤ cycle) ∧
      (o.stored cycle a value).board.memory.Loaded code ∧
        (o.stored cycle a value).GoThrough code (cycle + 6) rest

end Observed

structure Board.New (b : Board) : Prop where
  antic : b.antic = { linesPerFrame := 262 }
  timing : b.pokey.timing = ⟨Quad.zero, 0, 0, 0⟩
  pia : b.pia = {}
  sio : b.sio = {}
  rack : b.rack = {}
  schedule : b.schedule = ({} : Schedule).set .lineFetch Display.cyclesPerLine

namespace Machine

def programmed (code : List UInt8) : Machine :=
  assembled { fileDevice := false } (Memory.create (rom code) none) {} {}

variable (code : List UInt8)

theorem loaded_powered : (programmed code).powered.Loaded code := by
  have pulled : (programmed code).board.pia.reset.portBPins = 0xFF := by
    show ({} : Pia).portBPins = 0xFF
    decide
  unfold powered
  rw [pulled]
  exact (Memory.loaded_create code none).applyPortB (by decide)

theorem hardReset_programmed :
    ∃ journal, (programmed code).hardReset =
      ⟨(({} : Cpu).reset (programmed code).powered).1,
        { (programmed code).board.powered (programmed code).powered with
          schedule := ({} : Schedule).set .lineFetch Display.cyclesPerLine, journal }⟩ := by
  have absent : (programmed code).cleared.board.setup.fileDevice = false := rfl
  have schedule := (programmed code).schedule_hardReset
  rw [hardReset_eq, hooked, absent, if_neg Bool.false_ne_true, cleared_eq] at schedule ⊢
  dsimp only [Board.tell] at schedule ⊢
  rw [schedule]
  exact ⟨_, rfl⟩

end Machine

namespace Session

variable {s : Session} {code : List UInt8} {i : Nat} {target : UInt64}

/-- The processor is to execute the byte `i` of its program, and nothing diverts it. -/
structure Stands (s : Session) (code : List UInt8) (i : Nat) : Prop where
  reachable : s.Reachable
  loaded : s.observed.board.memory.Loaded code
  pc : s.cpu.regs.pc = address i
  unhooked : s.cpu.hooks = []
  masked : s.cpu.masked = true

theorem stands_fresh (code : List UInt8) : (fresh (Machine.programmed code)).Stands code 0 := by
  obtain ⟨journal, booted⟩ := Machine.hardReset_programmed code
  have reachable : (fresh (Machine.programmed code)).Reachable :=
    .powerOn { fileDevice := false } _ none {} {}
  unfold fresh at reachable ⊢
  rw [booted] at reachable ⊢
  have masked : (({} : Cpu).reset (Machine.programmed code).powered).1.masked = true := by
    show hasBit (_ ||| Cpu.Flag.interruptDisable ||| Cpu.Flag.unused)
      Cpu.Flag.interruptDisable = true
    decide
  refine ⟨reachable, Machine.loaded_powered code, ?_, rfl, masked⟩
  have low := ((Machine.loaded_powered code).text 0xFFFC (by decide)).2
  have high := ((Machine.loaded_powered code).text 0xFFFD (by decide)).2
  have start := start_rom code
  show word ((Machine.programmed code).powered.peek 0xFFFC)
    ((Machine.programmed code).powered.peek 0xFFFD) = _
  rw [low, high]
  exact start

theorem exists_new (code : List UInt8) :
    ∃ s : Session, s.Stands code 0 ∧ s.cpu.total = 7 ∧ s.observed.board.New := by
  refine ⟨_, stands_fresh code, total_fresh _, ?_⟩
  obtain ⟨journal, booted⟩ := Machine.hardReset_programmed code
  have line : (Machine.programmed code).board.pia.reset.commandLine = false := by
    show ({} : Pia).commandLine = false
    decide
  unfold fresh
  rw [booted]
  refine ⟨rfl, rfl, rfl, ?_, rfl, rfl⟩
  show Disk.Sio.setCommandLine {} _ = _
  rw [line]
  rfl

namespace Stands

theorem move_eq (h : s.Stands code i) (next : s.cpu.total < s.observed.board.schedule.next)
    (stall : s.observed.board.schedule.stallUntil ≤ s.cpu.total) (target : UInt64) :
    s.move target =
      ⟨(s.cpu.executeNext (s.observed.start s.cpu.total)).1,
        (s.cpu.executeNext (s.observed.start s.cpu.total)).2⟩ := by
  have unhooked : s.cpu.hookAt s.cpu.regs.pc = none := by
    rw [Cpu.hookAt, h.unhooked]
    rfl
  have moved : s.cpu.move s.observed target = s.cpu.executeNext (s.observed.start s.cpu.total) := by
    rw [Cpu.move_started (UInt64.not_le.2 next) (UInt64.not_lt.2 stall),
      Observed.stepHooked_of_none unhooked, Cpu.step_of_masked h.masked]
  unfold Session.move
  rw [moved]

theorem after (h : s.Stands code i) (fits : Fits s.cpu.total)
    (next : s.cpu.total < s.observed.board.schedule.next)
    (stall : s.observed.board.schedule.stallUntil ≤ s.cpu.total) {s' : Session} {j : Nat}
    (executes : s.cpu.executeNext (s.observed.start s.cpu.total) = (s'.cpu, s'.observed))
    (loaded : s'.observed.board.memory.Loaded code) (pc : s'.cpu.regs.pc = address j)
    (hooks : s'.cpu.hooks = s.cpu.hooks) (masked : s'.cpu.masked = true) : s'.Stands code j where
  reachable := by
    have moved : s.move never = s' := by
      rw [h.move_eq next stall, executes]
    rw [← moved]
    exact .step h.reachable (.move fits fits.lt_never (due_of_lt next))
  loaded := loaded
  pc := pc
  unhooked := hooks.trans h.unhooked
  masked := masked

theorem call (h : s.Stands code i) (c : Machine.Call) : (s.call c).Stands code i := by
  obtain ⟨cpu, rack, gtia, pokey, pia, journal, board⟩ := s.machine.touched_perform c
  refine ⟨h.reachable.step (.call c), ?_, ?_, ?_, ?_⟩
  · show (s.machine.perform c).board.memory.Loaded code
    rw [board]
    exact h.loaded
  · rcases cpu with same | asked
    · exact (congrArg (·.regs.pc) same).trans h.pc
    · exact (congrArg (·.regs.pc) asked).trans h.pc
  · rcases cpu with same | asked
    · exact (congrArg (·.hooks) same).trans h.unhooked
    · exact (congrArg (·.hooks) asked).trans h.unhooked
  · rcases cpu with same | asked
    · exact (congrArg (·.masked) same).trans h.masked
    · exact (congrArg (·.masked) asked).trans h.masked

theorem load (h : s.Stands code i) {value : UInt8} (text : [0xA9, value] <+: code.drop i)
    (inside : i + 2 ≤ room) (fits : Fits s.cpu.total)
    (next : s.cpu.total < s.observed.board.schedule.next)
    (stall : s.observed.board.schedule.stallUntil ≤ s.cpu.total) :
    ∃ s' : Session, s'.Stands code (i + 2) ∧ s'.cpu.regs.a = value ∧
      s'.cpu.total = s.cpu.total + 2 ∧ s'.observed = s.observed.start s.cpu.total := by
  have loaded : (s.observed.start s.cpu.total).board.memory.Loaded code := h.loaded
  have opcode := Observed.read_text loaded text inside (k := 0) rfl
  have operand := Observed.read_text loaded text inside (k := 1) rfl
  rw [← address_succ] at operand
  rw [Nat.add_zero] at opcode
  rw [← h.pc] at opcode operand
  have pc : s.cpu.regs.pc + 1 + 1 = address (i + 2) := by
    rw [h.pc, address_succ, address_succ]
  have masked : hasBit (Cpu.withResult s.cpu.regs.status value) Cpu.Flag.interruptDisable =
      s.cpu.masked := by
    unfold Cpu.withResult
    rw [hasBit_withBit_of_apart (by decide), hasBit_withBit_of_apart (by decide)]
    rfl
  exact ⟨⟨_, _⟩, h.after fits next stall (Cpu.executeNext_lda opcode operand) loaded pc rfl
    (masked.trans h.masked), rfl, rfl, rfl⟩

theorem reads (h : s.Stands code i) {opcode low high : UInt8}
    (text : [opcode, low, high] <+: code.drop i) (inside : i + 3 ≤ room) :
    let o := s.observed.start s.cpu.total
    Bus.read o s.cpu.regs.pc = (opcode, o) ∧ Bus.read o (s.cpu.regs.pc + 1) = (low, o) ∧
      Bus.read o (s.cpu.regs.pc + 1 + 1) = (high, o) := by
  have loaded : (s.observed.start s.cpu.total).board.memory.Loaded code := h.loaded
  rw [h.pc, address_succ, address_succ]
  exact ⟨Observed.read_text loaded text inside (k := 0) rfl,
    Observed.read_text loaded text inside (k := 1) rfl,
    Observed.read_text loaded text inside (k := 2) rfl⟩

theorem put (h : s.Stands code i) {a : UInt16}
    (text : [0x8D, lowByte a, highByte a] <+: code.drop i) (inside : i + 3 ≤ room)
    (fits : Fits s.cpu.total) (next : s.cpu.total < s.observed.board.schedule.next)
    (stall : s.observed.board.schedule.stallUntil ≤ s.cpu.total)
    (after : (Bus.write (s.observed.start s.cpu.total) a s.cpu.regs.a).board.memory.Loaded code) :
    ∃ s' : Session, s'.Stands code (i + 3) ∧ s'.cpu.total = s.cpu.total + 4 ∧
      s'.observed = Bus.write (s.observed.start s.cpu.total) a s.cpu.regs.a := by
  obtain ⟨opcode, low, high⟩ := h.reads text inside
  have pc : s.cpu.regs.pc + 1 + 1 + 1 = address (i + 3) := by
    rw [h.pc, address_succ, address_succ, address_succ]
  exact ⟨⟨_, _⟩,
    h.after fits next stall (Cpu.executeNext_sta opcode low high) after pc rfl h.masked, rfl, rfl⟩

theorem store (h : s.Stands code i) {a : UInt16} {value : UInt8}
    (text : storeByte a value <+: code.drop i) (inside : i + 5 ≤ room)
    (early : s.cpu.total < Display.cyclesPerLine)
    (next : s.cpu.total + 2 < s.observed.board.schedule.next)
    (stall : s.observed.board.schedule.stallUntil ≤ s.cpu.total)
    (after : (s.observed.stored s.cpu.total a value).board.memory.Loaded code) :
    ∃ s' : Session, s'.Stands code (i + 5) ∧ s'.cpu.total = s.cpu.total + 6 ∧
      s'.observed = s.observed.stored s.cpu.total a value := by
  have far : Display.cyclesPerLine.toNat + 2 + longestDelay < never.toNat := by decide
  have lt := UInt64.lt_iff_toNat_lt.1 early
  have fits : Fits s.cpu.total := by
    unfold Fits
    omega
  have short : (2 : UInt64).toNat ≤ longestDelay := by decide
  obtain ⟨sum, -⟩ := fits.add short
  have two : (2 : UInt64).toNat = 2 := rfl
  have later : s.cpu.total < s.cpu.total + 2 := by
    rw [UInt64.lt_iff_toNat_lt]
    omega
  have fits' : Fits (s.cpu.total + 2) := by
    unfold Fits
    omega
  have opcode : [0xA9, value] <+: code.drop i := (List.prefix_append _ _).trans text
  have rest : [0x8D, lowByte a, highByte a] <+: code.drop (i + 2) := by
    obtain ⟨tail, same⟩ := text
    rw [← List.drop_drop, ← same]
    exact List.prefix_append _ tail
  obtain ⟨s₁, h₁, loaded, total, observed⟩ :=
    h.load opcode (by omega) fits (UInt64.lt_trans later next) stall
  have board : s₁.observed.board.schedule = s.observed.board.schedule := by
    rw [observed]
    rfl
  rw [← total] at next fits' later
  obtain ⟨s₂, h₂, total', observed'⟩ := h₁.put rest (by omega) fits' (board ▸ next)
    (board ▸ UInt64.le_of_lt (UInt64.lt_of_le_of_lt stall later))
    (by rw [observed, total, loaded]; exact after)
  refine ⟨s₂, h₂, ?_, ?_⟩
  · rw [total', total, UInt64.add_assoc]
    rfl
  · rw [observed', observed, total, loaded]
    rfl

theorem storeAll {stores : List (UInt16 × UInt8)} (h : s.Stands code i)
    (text : stores.flatMap (fun (a, value) => storeByte a value) <+: code.drop i)
    (inside : i + 5 * stores.length ≤ room)
    (early : s.cpu.total.toNat + 6 * stores.length ≤ Display.cyclesPerLine.toNat)
    (goes : s.observed.GoThrough code s.cpu.total stores) :
    ∃ s' : Session, s'.Stands code (i + 5 * stores.length) ∧
      s'.cpu.total.toNat = s.cpu.total.toNat + 6 * stores.length ∧
        s'.observed = s.observed.storedAll s.cpu.total stores := by
  induction stores generalizing s i with
  | nil => exact ⟨s, h, rfl, rfl⟩
  | cons store rest ih =>
    obtain ⟨a, value⟩ := store
    obtain ⟨⟨next, stall⟩, after, later⟩ := goes
    rw [List.length_cons] at inside early
    have first : storeByte a value <+: code.drop i := (List.prefix_append _ _).trans text
    have behind : rest.flatMap (fun (a, value) => storeByte a value) <+: code.drop (i + 5) := by
      obtain ⟨tail, same⟩ := text
      rw [List.flatMap_cons] at same
      rw [← List.drop_drop, ← same, List.append_assoc]
      exact List.prefix_append _ tail
    obtain ⟨s₁, h₁, total, observed⟩ := h.store first (by omega)
      (UInt64.lt_iff_toNat_lt.2 (by omega)) next stall after
    have six : (s.cpu.total + 6).toNat = s.cpu.total.toNat + 6 := by
      have far : Display.cyclesPerLine.toNat = 114 := rfl
      have six : (6 : UInt64).toNat = 6 := rfl
      rw [UInt64.toNat_add, six]
      omega
    rw [← total, ← observed] at later
    obtain ⟨s', h', total', observed'⟩ :=
      ih h₁ behind (by omega) (by rw [total, six]; omega) later
    refine ⟨s', ?_, ?_, ?_⟩
    · rw [List.length_cons, Nat.mul_succ, Nat.add_comm _ 5, ← Nat.add_assoc]
      exact h'
    · rw [total', total, six, List.length_cons]
      omega
    · rw [observed', observed, total]
      rfl

end Stands

end Session

namespace Board

variable {b : Board} {cpu : Cpu}

theorem interruptEnable_settle (b : Board) (event : Event) (deadline : UInt64) :
    (b.settle event deadline).antic.interruptEnable = b.antic.interruptEnable := by
  cases event with
  | lineFetch =>
    exact b.antic.interruptEnable_processLine b.memory b.gtia deadline b.schedule
  | serialInReady =>
    unfold settle
    dsimp only
    split
    · rfl
    · rw [antic_expectNext]
  | _ => rfl

theorem asks_of_quiet (quiet : b.antic.interruptEnable = 0) (event : Event) (deadline : UInt64) :
    b.asks event deadline = none ∨ ∃ source, b.asks event deadline = some (.irq source) := by
  have irq (asked : Bool) (source : String) :
      (if asked then some (Interrupt.irq source) else none) = none ∨
        ∃ source', (if asked then some (Interrupt.irq source) else none) =
          some (Interrupt.irq source') := by
    cases asked
    · exact .inl rfl
    · exact .inr ⟨source, rfl⟩
  cases event with
  | lineFetch =>
    have blank : (b.drawLine deadline).1.blankInterrupt = false := by
      refine (b.antic.blankInterrupt_processLine b.memory b.gtia deadline b.schedule).trans ?_
      rw [quiet]
      exact Bool.and_false _
    left
    simp only [asks, blank, Bool.false_eq_true, if_false]
  | displayListInterrupt =>
    have off : b.antic.fireListInterrupt.1 = false := by
      rw [Antic.fireListInterrupt, quiet]
      rfl
    left
    simp only [asks, off, Bool.false_eq_true, if_false]
  | serialInReady =>
    unfold asks
    dsimp only
    split
    · exact .inl rfl
    · exact irq _ _
  | _ => exact irq _ _

theorem handle_of_quiet (mapped : b.Mapped) (masked : cpu.masked = true)
    (quiet : b.antic.interruptEnable = 0) (event : Event) (deadline : UInt64) :
    ∃ cpu' journal, (cpu' = cpu ∨ cpu' = cpu.requestIrq) ∧
      handle cpu b event deadline = (cpu', { b.settle event deadline with journal }) := by
  rw [handle_eq mapped]
  rcases asks_of_quiet quiet event deadline with none | ⟨source, some⟩
  · rw [none]
    exact ⟨cpu, _, .inl rfl, rfl⟩
  · rw [some]
    let told := (b.settle event deadline).tell [(Interrupt.irq source).notice cpu]
    refine ⟨cpu.requestIrq, told.journal, .inr rfl, ?_⟩
    simp only [interrupted, Interrupt.enter, Cpu.irq, masked, if_true]
    rfl

end Board

def Observation.isWrite : Observation → Bool
  | .wrote .. => true
  | _ => false

namespace Observed

inductive Idle (o : Observed) : Observed → Prop
  | start (cycle : UInt64) : Idle o (o.start cycle)
  | settle {cpu : Cpu} {event : Event} {deadline : UInt64} (journal : Journal) :
      Fits deadline → o.board.schedule.deadline event = deadline →
      Idle o
        { board := { o.board.settle event deadline with journal },
          trace := .handled cpu o.board event deadline :: o.trace }

theorem exists_later {o o' : Observed} (h : Relation.ReflTransGen Idle o o') :
    ∃ later, o'.trace = later ++ o.trace ∧ ∀ x ∈ later, x.isWrite = false := by
  induction h with
  | refl => exact ⟨[], rfl, fun x mem => absurd mem List.not_mem_nil⟩
  | @tail o₁ _ _ next ih =>
    obtain ⟨later, trace, unwritten⟩ := ih
    cases next with
    | start cycle =>
      exact ⟨.started cycle :: later, congrArg (List.cons _) trace,
        List.forall_mem_cons.2 ⟨rfl, unwritten⟩⟩
    | @settle cpu event deadline journal _ _ =>
      exact ⟨.handled cpu o₁.board event deadline :: later, congrArg (List.cons _) trace,
        List.forall_mem_cons.2 ⟨rfl, unwritten⟩⟩

theorem exists_line {o o' : Observed} (h : Relation.ReflTransGen Idle o o')
    (passed : o'.board.schedule.lineFetch ≠ o.board.schedule.lineFetch) :
    ∃ cpu before, .handled cpu before .lineFetch o.board.schedule.lineFetch ∈ o'.trace := by
  induction h with
  | refl => exact absurd rfl passed
  | @tail o₁ _ _ next ih =>
    by_cases same : o₁.board.schedule.lineFetch = o.board.schedule.lineFetch
    · cases next with
      | start cycle => exact absurd same passed
      | @settle cpu event deadline journal _ own =>
        by_cases line : event = .lineFetch
        · subst line
          rw [← same, show o₁.board.schedule.lineFetch = deadline from own]
          exact ⟨cpu, o₁.board, List.mem_cons_self⟩
        · have kept := (Board.sets_settle line o₁.board deadline).deadline fun e => line e.symm
          exact absurd (kept.trans same) passed
    · obtain ⟨cpu, before, mem⟩ := ih same
      cases next with
      | start cycle => exact ⟨cpu, before, List.mem_cons_of_mem _ mem⟩
      | settle journal _ _ => exact ⟨cpu, before, List.mem_cons_of_mem _ mem⟩

end Observed

namespace Session

open Relation

variable {s s' : Session} {code : List UInt8} {i : Nat} {target : UInt64}

structure Idles (s : Session) (code : List UInt8) (i : Nat) : Prop extends s.Stands code i where
  stays : stay i <+: code.drop i
  inside : i + 3 ≤ room
  quiet : s.observed.board.antic.interruptEnable = 0

/-- A program has stayed where it is up to the cycle `target`, and all that is due has been
handled. -/
structure RanOn (s : Session) (o : Observed) (target : UInt64) : Prop where
  reachable : s.Reachable
  none : s.due = none
  reaches : target.toNat ≤ s.cpu.total.toNat
  idle : ReflTransGen Observed.Idle o s.observed

theorem RanOn.exists_line {o : Observed} (h : s.RanOn o target)
    (before : o.board.schedule.lineFetch ≤ target) :
    ∃ cpu b, .handled cpu b .lineFetch o.board.schedule.lineFetch ∈ s.observed.trace := by
  refine Observed.exists_line h.idle fun same => ?_
  have ahead := h.reachable.total_lt_line h.none
  rw [line, same] at ahead
  exact Nat.not_lt.2 (Nat.le_trans (UInt64.le_iff_toNat_le.1 before) h.reaches) ahead

theorem Stands.idles {stores : List (UInt16 × UInt8)} (h : s.Stands code 0)
    (text : storing stores <+: code)
    (early : s.cpu.total.toNat + 6 * stores.length ≤ Display.cyclesPerLine.toNat)
    (goes : s.observed.GoThrough code s.cpu.total stores)
    (quiet : (s.observed.storedAll s.cpu.total stores).board.antic.interruptEnable = 0) :
    ∃ s' : Session, s'.Idles code (5 * stores.length) ∧
      s'.cpu.total.toNat ≤ Display.cyclesPerLine.toNat ∧
        s'.observed = s.observed.storedAll s.cpu.total stores := by
  have few : 6 * stores.length ≤ 114 := Nat.le_trans (Nat.le_add_left _ _) early
  have inside : 5 * stores.length + 3 ≤ room := by
    unfold room
    omega
  obtain ⟨behind, rfl⟩ := text
  have first : stores.flatMap (fun (a, value) => storeByte a value) <+:
      (storing stores ++ behind).drop 0 := by
    rw [storing, List.append_assoc]
    exact List.prefix_append _ _
  obtain ⟨s', stands, total, observed⟩ := h.storeAll first (by omega) early goes
  rw [Nat.zero_add] at stands
  refine ⟨s', ⟨stands, ?_, inside, ?_⟩, total ▸ early, observed⟩
  · rw [storing, List.append_assoc, List.drop_left' (length_stores stores)]
    exact List.prefix_append _ _
  · rw [observed]
    exact quiet

namespace Idles

theorem move (h : s.Idles code i) (fits : Fits s.cpu.total) (before : s.cpu.total < target)
    (none : s.due = none) :
    (s.move target).Idles code i ∧
      ReflTransGen Observed.Idle s.observed (s.move target).observed := by
  have next := h.reachable.due_eq_none_iff.1 none
  have reachable := h.reachable.step (.move fits before none)
  by_cases stall : s.cpu.total < s.observed.board.schedule.stallUntil
  · obtain ⟨total, halted⟩ : ∃ total, s.move target = { s with cpu := { s.cpu with total } } := by
      unfold Session.move
      rw [Cpu.move_halted (UInt64.not_le.2 next) stall]
      exact ⟨_, rfl⟩
    rw [halted] at reachable ⊢
    exact ⟨⟨⟨reachable, h.loaded, h.pc, h.unhooked, h.masked⟩, h.stays, h.inside, h.quiet⟩, .refl⟩
  · obtain ⟨opcode, low, high⟩ := h.reads h.stays h.inside
    have moved := h.move_eq next (UInt64.not_lt.1 stall) target
    rw [Cpu.executeNext_jmp opcode low high] at moved
    rw [moved] at reachable ⊢
    exact ⟨⟨⟨reachable, h.loaded, rfl, h.unhooked, h.masked⟩, h.stays, h.inside, h.quiet⟩,
      .single (.start _)⟩

theorem handle (h : s.Idles code i) (fits : Fits s.cpu.total) {event : Event} {deadline : UInt64}
    (due : s.due = some (event, deadline)) :
    (s.handle event deadline).Idles code i ∧
      Observed.Idle s.observed (s.handle event deadline).observed := by
  obtain ⟨own, come⟩ := h.reachable.due_spec due
  obtain ⟨cpu, journal, same, handled⟩ :=
    Board.handle_of_quiet h.reachable.mapped h.masked h.quiet event deadline
  have went : s.handle event deadline =
      ⟨cpu, { board := { s.observed.board.settle event deadline with journal },
              trace := .handled s.cpu s.observed.board event deadline :: s.observed.trace }⟩ := by
    unfold Session.handle Observed.handle
    rw [handled]
  have reachable := h.reachable.step (.handle fits due)
  rw [went] at reachable ⊢
  refine ⟨⟨⟨reachable, ?_, ?_, ?_, ?_⟩, h.stays, h.inside, ?_⟩,
    .settle journal (fits.mono come) own⟩
  · show (s.observed.board.settle event deadline).memory.Loaded code
    rw [Board.memory_settle]
    exact h.loaded
  · rcases same with rfl | rfl <;> exact h.pc
  · rcases same with rfl | rfl <;> exact h.unhooked
  · rcases same with rfl | rfl <;> exact h.masked
  · exact (s.observed.board.interruptEnable_settle event deadline).trans h.quiet

theorem services (h : s.Idles code i) (services : s.Services s') :
    s'.Idles code i ∧ ReflTransGen Observed.Idle s.observed s'.observed := by
  induction services with
  | done _ => exact ⟨h, .refl⟩
  | handle fits due _ ih =>
    obtain ⟨handled, idle⟩ := h.handle fits due
    obtain ⟨idles, rest⟩ := ih handled
    exact ⟨idles, .head idle rest⟩

theorem travels (h : s.Idles code i) (travels : s.Travels target s') :
    s'.Idles code i ∧ ReflTransGen Observed.Idle s.observed s'.observed := by
  induction travels with
  | done _ => exact ⟨h, .refl⟩
  | move fits before none _ ih =>
    obtain ⟨moved, idle⟩ := h.move fits before none
    obtain ⟨idles, rest⟩ := ih moved
    exact ⟨idles, idle.trans rest⟩
  | service _ _ services _ ih =>
    obtain ⟨served, idle⟩ := h.services services
    obtain ⟨idles, rest⟩ := ih served
    exact ⟨idles, idle.trans rest⟩

theorem run (h : s.Idles code i) (target : UInt64) (before : s.cpu.total.toNat ≤ target.toNat)
    (room : target.toNat + 2 * FileDevice.longestCall + longestDelay < never.toNat) :
    ∃ s' : Session, s'.RanOn s.observed target := by
  obtain ⟨s₁, travels, total⟩ := h.reachable.travels target (by omega)
  obtain ⟨idles, idle⟩ := h.travels travels
  have horizon := idles.reachable.horizon_le
  obtain ⟨s', services⟩ :=
    idles.reachable.services (s₁.cpu.total.toNat + FileDevice.longestCall) horizon (by omega)
  obtain ⟨idles', rest⟩ := idles.services services
  have reaches := UInt64.le_iff_toNat_le.1 (travels.runs h.reachable).reaches
  exact ⟨s', idles'.reachable, services.due_eq_none, Nat.le_trans reaches services.onward,
    idle.trans rest⟩

end Idles

theorem Stands.ranOn {stores : List (UInt16 × UInt8)} (h : s.Stands code 0)
    (text : storing stores <+: code) {cycle : UInt64} (begins : s.cpu.total = cycle)
    (early : cycle.toNat + 6 * stores.length ≤ Display.cyclesPerLine.toNat)
    (goes : s.observed.GoThrough code cycle stores)
    (quiet : (s.observed.storedAll cycle stores).board.antic.interruptEnable = 0)
    (target : UInt64) (before : Display.cyclesPerLine.toNat ≤ target.toNat)
    (room : target.toNat + 2 * FileDevice.longestCall + longestDelay < never.toNat) :
    ∃ s' : Session, s'.RanOn (s.observed.storedAll cycle stores) target := by
  subst begins
  obtain ⟨s₁, idles, total, observed⟩ := h.idles text early goes quiet
  rw [← observed]
  exact idles.run target (Nat.le_trans total before) room

end Session

end Atari800XL
