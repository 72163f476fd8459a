import Atari800XL.Proofs.Cpu.Activity
import Atari800XL.Proofs.Memory.Cell

namespace Atari800XL.Cpu

theorem mem_stackUp {sp : UInt8} {n : Nat} {a : UInt16} (mem : a ∈ stackUp sp n) :
    ∃ i, 0 < i ∧ i ≤ n ∧ a = word (sp + UInt8.ofNat i) 0x01 := by
  induction n generalizing sp with
  | zero => cases mem
  | succ n ih =>
    cases mem with
    | head => exact ⟨1, by omega, by omega, rfl⟩
    | tail _ mem =>
      obtain ⟨i, positive, inside, rfl⟩ := ih mem
      refine ⟨i + 1, by omega, by omega, ?_⟩
      rw [UInt8.add_assoc, UInt8.add_comm 1, UInt8.ofNat_add]
      rfl

theorem not_mem_stackUp {sp : UInt8} {n : Nat} (small : n < 256) :
    word sp 0x01 ∉ stackUp sp n := by
  intro mem
  obtain ⟨i, positive, inside, same⟩ := mem_stackUp mem
  have low := congrArg lowByte same
  rw [lowByte_word, lowByte_word] at low
  have zero : UInt8.ofNat i = 0 := by simpa using low.symm
  have := congrArg UInt8.toNat zero
  simp only [UInt8.toNat_ofNat', UInt8.toNat_zero] at this
  omega

def Holds (r : Registers) (ram : Ram) (bytes : List UInt8) : Prop :=
  (stackUp r.sp bytes.length).map ram.read = bytes

namespace Registers

variable (r : Registers) (ram : Ram)

theorem push_ram (value : UInt8) :
    r.push ram value = ({ r with sp := r.sp - 1 }, ram.write (word r.sp 0x01) value) := rfl

theorem pull_ram :
    r.pull ram = (ram.read (word (r.sp + 1) 0x01), { r with sp := r.sp + 1 }, ram) := rfl

theorem readWord_ram (a : UInt16) :
    Bus.readWord ram a = (word (ram.read a) (ram.read (a + 1)), ram) := rfl

end Registers

theorem Holds.push {r : Registers} {ram : Ram} {bytes : List UInt8} (holds : Holds r ram bytes)
    (room : bytes.length < 256) (value : UInt8) :
    Holds (r.push ram value).1 (r.push ram value).2 (value :: bytes) := by
  have above (a : UInt16) (mem : a ∈ stackUp r.sp bytes.length) :
      (ram.write (word r.sp 0x01) value).read a = ram.read a := by
    have apart : word r.sp 0x01 ≠ a := fun same => not_mem_stackUp room (same ▸ mem)
    rw [Ram.read_write, if_neg apart]
  have back : r.sp - 1 + 1 = r.sp := UInt8.sub_add_cancel r.sp 1
  rw [Registers.push_ram, Holds, List.length_cons, stackUp, List.map_cons, back,
    List.map_congr_left above, holds, Ram.read_write, if_pos rfl]

theorem Holds.pull {r : Registers} {ram : Ram} {value : UInt8} {bytes : List UInt8}
    (holds : Holds r ram (value :: bytes)) :
    r.pull ram = (value, { r with sp := r.sp + 1 }, ram) ∧
      Holds { r with sp := r.sp + 1 } ram bytes := by
  rw [Holds, List.length_cons, stackUp, List.map_cons] at holds
  obtain ⟨top, below⟩ := List.cons.inj holds
  exact ⟨by rw [Registers.pull_ram, top], below⟩

theorem stackUp_succ (sp : UInt8) (n : Nat) :
    stackUp sp (n + 1) = stackUp sp n ++ [word (sp + UInt8.ofNat (n + 1)) 0x01] := by
  induction n generalizing sp with
  | zero => rfl
  | succ n ih =>
    have last : sp + 1 + UInt8.ofNat (n + 1) = sp + UInt8.ofNat (n + 1 + 1) := by
      rw [UInt8.ofNat_add (n + 1)]
      grind
    rw [stackUp, ih, last]
    rfl

theorem stackUp_sub (sp : UInt8) (n : Nat) :
    stackUp (sp - UInt8.ofNat n) n = (stackDown sp n).reverse := by
  induction n generalizing sp with
  | zero => rfl
  | succ n ih =>
    have first : sp - UInt8.ofNat (n + 1) = sp - 1 - UInt8.ofNat n := by
      rw [UInt8.ofNat_add]
      grind
    have last : sp - 1 - UInt8.ofNat n + UInt8.ofNat (n + 1) = sp := by
      rw [UInt8.ofNat_add]
      grind
    rw [first, stackUp_succ, ih, last, stackDown, List.reverse_cons]

namespace Registers

variable (r : Registers) (ram : Ram)

def pushAll (r : Registers) (ram : Ram) : List UInt8 → Registers × Ram
  | [] => (r, ram)
  | value :: rest => (r.push ram value).1.pushAll (r.push ram value).2 rest

theorem regs_pushAll (bytes : List UInt8) :
    (r.pushAll ram bytes).1 = { r with sp := r.sp - UInt8.ofNat bytes.length } := by
  induction bytes generalizing r ram with
  | nil => simp [pushAll]
  | cons value rest ih =>
    have through : r.sp - 1 - UInt8.ofNat rest.length = r.sp - UInt8.ofNat (rest.length + 1) := by
      rw [UInt8.ofNat_add]
      grind
    rw [pushAll, ih, push_ram, List.length_cons, ← through]

theorem read_pushAll (bytes : List UInt8) {a : UInt16} (other : a ∉ stackDown r.sp bytes.length) :
    (r.pushAll ram bytes).2.read a = ram.read a := by
  induction bytes generalizing r ram with
  | nil => rfl
  | cons value rest ih =>
    rw [List.length_cons, stackDown, List.mem_cons, not_or] at other
    rw [pushAll, ih _ _ other.2, push_ram, Ram.read_write, if_neg (Ne.symm other.1)]

theorem holds_pushAll (bytes : List UInt8) {old : List UInt8} (holds : Holds r ram old)
    (room : bytes.length + old.length ≤ 256) :
    Holds (r.pushAll ram bytes).1 (r.pushAll ram bytes).2 (bytes.reverse ++ old) := by
  induction bytes generalizing r ram old with
  | nil => exact holds
  | cons value rest ih =>
    rw [List.length_cons] at room
    have below : ([value] ++ old).length = old.length + 1 := rfl
    rw [pushAll, List.reverse_cons, List.append_assoc]
    exact ih _ _ (holds.push (by omega) value) (by omega)

theorem readWord_pushAll (bytes : List UInt8) {a : UInt16} (low : highByte a ≠ 0x01)
    (high : highByte (a + 1) ≠ 0x01) :
    Bus.readWord (r.pushAll ram bytes).2 a =
      (word (ram.read a) (ram.read (a + 1)), (r.pushAll ram bytes).2) := by
  have other {b : UInt16} (page : highByte b ≠ 0x01) : b ∉ stackDown r.sp bytes.length :=
    fun mem => page (page_of_mem_stackDown mem)
  rw [readWord_ram, r.read_pushAll ram bytes (other low), r.read_pushAll ram bytes (other high)]

end Registers

inductive Interruption
  /-- The interrupt line, while requests are not held back. -/
  | line
  /-- A request that has waited, taken in the place of an instruction. -/
  | request
  | nmi
  | brk
  deriving DecidableEq, Repr

namespace Interruption

def Occurs (i : Interruption) (cpu : Cpu) (ram : Ram) : Prop :=
  match i with
  | .line => cpu.masked = false
  | .request => cpu.interrupted = true
  | .nmi => True
  | .brk => cpu.interrupted = false ∧ ram.read cpu.regs.pc = 0x00

def enter (i : Interruption) (cpu : Cpu) (ram : Ram) : Cpu × Ram :=
  match i with
  | .line => cpu.irq ram
  | .nmi => cpu.nmi ram
  | .request | .brk => cpu.step ram

def vector : Interruption → UInt16
  | .nmi => nmiVector
  | .line | .request | .brk => irqVector

/-- Where the program goes on. The byte behind `brk` is passed over. -/
def resumption (i : Interruption) (pc : UInt16) : UInt16 :=
  match i with
  | .brk => pc + 2
  | .line | .request | .nmi => pc

/-- The status byte on the stack: its break bit tells `brk` from the interrupts of the chips. -/
def pushedStatus (i : Interruption) (status : UInt8) : UInt8 :=
  withBit (withBit status Flag.unused true) Flag.brk (i == .brk)

def pushed (i : Interruption) (r : Registers) : List UInt8 :=
  let back := i.resumption r.pc
  [highByte back, lowByte back, i.pushedStatus r.status]

end Interruption

/-- The program at `r` has been left for a routine, with these bytes pushed and nothing else in
memory changed. If the routine is no more than its last instruction, the next step goes back: the
registers are as they were, but for the program counter, which is where the program goes on. -/
structure Returns (r : Registers) (ram : Ram) (pushed : List UInt8) (last : UInt8)
    (resumed : UInt16) (away : Cpu × Ram) : Prop where
  stack : (stackDown r.sp pushed.length).map away.2.read = pushed
  elsewhere : ∀ a, a ∉ stackDown r.sp pushed.length → away.2.read a = ram.read a
  back : away.2.read away.1.regs.pc = last →
    (away.1.step away.2).1.regs = { r with pc := resumed } ∧ (away.1.step away.2).2 = away.2

section

variable {cpu : Cpu} {ram : Ram}

theorem step_of_read {β : Type} [Bus β] (bus : β) {i : Instruction}
    (calm : cpu.interrupted = false) (here : decode (Bus.read bus cpu.regs.pc).1 = i) :
    let done := i.execute cpu.regs.behindOpcode (Bus.read bus cpu.regs.pc).2
    (cpu.step bus).1.regs = done.regs ∧ (cpu.step bus).2 = done.bus := by
  have straight : ¬(decide (cpu.irqPending > 0) && !cpu.masked) = true := Bool.eq_false_iff.1 calm
  rw [step, if_neg straight, executeNext, ← here]
  exact ⟨rfl, rfl⟩

theorem step_of_decode {i : Instruction} (calm : cpu.interrupted = false)
    (here : decode (ram.read cpu.regs.pc) = i) :
    (cpu.step ram).1.regs = (i.execute cpu.regs.behindOpcode ram).regs ∧
      (cpu.step ram).2 = (i.execute cpu.regs.behindOpcode ram).bus :=
  step_of_read ram calm here

theorem returns_of_pushAll {r : Registers} {pushed : List UInt8} {last : UInt8} {resumed : UInt16}
    {away : Cpu × Ram} (room : pushed.length ≤ 256) (memory : away.2 = (r.pushAll ram pushed).2)
    (back : Holds { r with sp := r.sp - UInt8.ofNat pushed.length } away.2 pushed.reverse →
      away.2.read away.1.regs.pc = last →
        (away.1.step away.2).1.regs = { r with pc := resumed } ∧
          (away.1.step away.2).2 = away.2) :
    Returns r ram pushed last resumed away := by
  have empty : Holds r ram [] := rfl
  have holds := r.holds_pushAll ram pushed empty (by simpa using room)
  rw [List.append_nil, r.regs_pushAll, ← memory] at holds
  constructor
  · have above := holds
    rw [Holds, List.length_reverse, stackUp_sub, List.map_reverse] at above
    exact List.reverse_inj.1 above
  · intro a other
    rw [memory, r.read_pushAll ram pushed other]
  · exact back holds

theorem execute_rti {r : Registers} {status low high : UInt8}
    (holds : Holds r ram [status, low, high]) :
    Instruction.rti.execute r ram =
      ⟨{ r.restoreStatus status with sp := r.sp + 1 + 1 + 1, pc := word low high }, ram, 0⟩ := by
  obtain ⟨first, holds⟩ := holds.pull
  have restored : Holds ({ r with sp := r.sp + 1 }.restoreStatus status) ram [low, high] := holds
  obtain ⟨second, holds⟩ := restored.pull
  obtain ⟨third, -⟩ := holds.pull
  simp only [Instruction.execute, Registers.pullWord, first, second, third]
  rfl

theorem execute_rts {r : Registers} {low high : UInt8} (holds : Holds r ram [low, high]) :
    Instruction.rts.execute r ram =
      ⟨{ r with sp := r.sp + 1 + 1, pc := word low high + 1 }, ram, 0⟩ := by
  obtain ⟨first, holds⟩ := holds.pull
  obtain ⟨second, -⟩ := holds.pull
  simp only [Instruction.execute, Registers.returnFromCall, Registers.pullWord, first, second]

theorem enter_ram (r : Registers) (status : UInt8) {vector : UInt16}
    (low : highByte vector ≠ 0x01) (high : highByte (vector + 1) ≠ 0x01) :
    r.enter ram status vector =
      ({ r with
          sp := r.sp - 3
          pc := word (ram.read vector) (ram.read (vector + 1))
          status := withBit r.status Flag.interruptDisable true },
        (r.pushAll ram [highByte r.pc, lowByte r.pc, status]).2) := by
  let left := r.pushAll ram [highByte r.pc, lowByte r.pc, status]
  have target : Bus.readWord left.2 vector = _ := r.readWord_pushAll ram _ low high
  have regs : left.1 = { r with sp := r.sp - 3 } := r.regs_pushAll ram _
  show ({ left.1.setFlag Flag.interruptDisable true with pc := (Bus.readWord left.2 vector).1 },
    (Bus.readWord left.2 vector).2) = _
  rw [target, regs]
  rfl

theorem step_jsr (calm : cpu.interrupted = false) (here : ram.read cpu.regs.pc = 0x20) :
    (cpu.step ram).1.regs =
        { cpu.regs with sp := cpu.regs.sp - 2, pc := operandWord cpu.regs ram } ∧
      (cpu.step ram).2 = (cpu.regs.pushAll ram
        [highByte (cpu.regs.pc + 2), lowByte (cpu.regs.pc + 2)]).2 := by
  have jsr : decode (ram.read cpu.regs.pc) = .jsr := by rw [here]; rfl
  have last : cpu.regs.pc + 1 + 1 + 1 - 1 = cpu.regs.pc + 2 := by grind
  have executed : Instruction.jsr.execute cpu.regs.behindOpcode ram =
      let last := cpu.regs.pc + 1 + 1 + 1 - 1
      let left := cpu.regs.pushAll ram [highByte last, lowByte last]
      ⟨{ left.1 with pc := word (ram.read (cpu.regs.pc + 1)) (ram.read (cpu.regs.pc + 1 + 1)) },
        left.2, 0⟩ := rfl
  rw [last, add_one_add_one] at executed
  dsimp only at executed
  rw [Registers.regs_pushAll] at executed
  obtain ⟨regs, bus⟩ := step_of_decode calm jsr
  rw [regs, bus, executed]
  exact ⟨rfl, rfl⟩

namespace Interruption

theorem enter_eq_enter (i : Interruption) (occurs : i.Occurs cpu ram) :
    let entered := { cpu.regs with pc := i.resumption cpu.regs.pc }.enter ram
      (i.pushedStatus cpu.regs.status) i.vector
    (i.enter cpu ram).1.regs = entered.1 ∧ (i.enter cpu ram).2 = entered.2 := by
  intro entered
  cases i with
  | line =>
    have taken : ¬cpu.masked = true := Bool.eq_false_iff.1 occurs
    rw [enter, irq, if_neg taken]
    exact ⟨rfl, rfl⟩
  | request =>
    have taken : (decide (cpu.irqPending > 0) && !cpu.masked) = true := occurs
    rw [enter, step, if_pos taken]
    exact ⟨rfl, rfl⟩
  | nmi => exact ⟨rfl, rfl⟩
  | brk =>
    have brk : decode (ram.read cpu.regs.pc) = .brk := by rw [occurs.2]; rfl
    have status : cpu.regs.softwareStatus = Interruption.brk.pushedStatus cpu.regs.status := by
      rw [Registers.softwareStatus, UInt8.or_assoc, UInt8.or_comm Flag.brk, ← UInt8.or_assoc]
      rfl
    have executed : Instruction.brk.execute cpu.regs.behindOpcode ram =
        let entered := { cpu.regs with pc := cpu.regs.pc + 1 + 1 }.enter ram
          cpu.regs.softwareStatus irqVector
        ⟨entered.1, entered.2, 0⟩ := rfl
    rw [add_one_add_one, status] at executed
    obtain ⟨regs, bus⟩ := step_of_decode occurs.1 brk
    rw [enter, regs, bus, executed]
    exact ⟨rfl, rfl⟩

theorem enter_eq (i : Interruption) (occurs : i.Occurs cpu ram) :
    (i.enter cpu ram).1.regs =
        { cpu.regs with
          sp := cpu.regs.sp - 3
          pc := word (ram.read i.vector) (ram.read (i.vector + 1))
          status := withBit cpu.regs.status Flag.interruptDisable true } ∧
      (i.enter cpu ram).2 = (cpu.regs.pushAll ram (i.pushed cpu.regs)).2 := by
  have low : highByte i.vector ≠ 0x01 := by cases i <;> decide
  have high : highByte (i.vector + 1) ≠ 0x01 := by cases i <;> decide
  obtain ⟨regs, memory⟩ := i.enter_eq_enter occurs
  rw [regs, memory, enter_ram _ _ low high]
  exact ⟨rfl, rfl⟩

theorem restoreStatus_pushedStatus (i : Interruption) {r : Registers}
    (unused : r.flag Flag.unused = true) (brk : r.flag Flag.brk = false) :
    (i.pushedStatus r.status ||| Flag.unused) &&& ~~~Flag.brk = r.status := by
  have all : ∀ on : Bool, ∀ n < 256, hasBit (UInt8.ofNat n) Flag.unused = true →
      hasBit (UInt8.ofNat n) Flag.brk = false →
        (withBit (withBit (UInt8.ofNat n) Flag.unused true) Flag.brk on ||| Flag.unused) &&&
          ~~~Flag.brk = UInt8.ofNat n := by
    decide +kernel
  have here := all (i == .brk) r.status.toNat r.status.toNat_lt
  rw [UInt8.ofNat_toNat] at here
  exact here unused brk

theorem returns (i : Interruption) (occurs : i.Occurs cpu ram)
    (unused : cpu.regs.flag Flag.unused = true) (brk : cpu.regs.flag Flag.brk = false) :
    Returns cpu.regs ram (i.pushed cpu.regs) 0x40 (i.resumption cpu.regs.pc) (i.enter cpu ram) := by
  obtain ⟨regs, memory⟩ := i.enter_eq occurs
  have calm : (i.enter cpu ram).1.interrupted = false := by
    have set : (i.enter cpu ram).1.masked = true := by
      rw [masked, regs]
      exact hasBit_withBit _ (by decide) _
    rw [interrupted, set]
    simp
  refine returns_of_pushAll (by simp [pushed]) memory fun holds found => ?_
  have rti : decode ((i.enter cpu ram).2.read (i.enter cpu ram).1.regs.pc) = .rti := by
    rw [found]
    rfl
  have behind : Holds (i.enter cpu ram).1.regs.behindOpcode (i.enter cpu ram).2
      (i.pushed cpu.regs).reverse := by
    rw [regs]
    exact holds
  have pointer : cpu.regs.sp - 3 + 1 + 1 + 1 = cpu.regs.sp := by grind
  obtain ⟨regs', memory'⟩ := step_of_decode calm rti
  rw [regs', memory', execute_rti behind, word_lowByte_highByte]
  refine ⟨?_, rfl⟩
  simp only [Registers.restoreStatus, Registers.behindOpcode, regs, pointer,
    i.restoreStatus_pushedStatus unused brk]

end Interruption

theorem interrupted_step_jsr (calm : cpu.interrupted = false) (here : ram.read cpu.regs.pc = 0x20) :
    (cpu.step ram).1.interrupted = false := by
  have straight : ¬(decide (cpu.irqPending > 0) && !cpu.masked) = true := Bool.eq_false_iff.1 calm
  have waiting : (cpu.step ram).1.irqPending = cpu.irqPending := by
    rw [step, if_neg straight]
    rfl
  rw [interrupted, masked, waiting, (step_jsr calm here).1]
  exact calm

theorem returns_jsr (calm : cpu.interrupted = false) (here : ram.read cpu.regs.pc = 0x20) :
    Returns cpu.regs ram [highByte (cpu.regs.pc + 2), lowByte (cpu.regs.pc + 2)] 0x60
      (cpu.regs.pc + 3) (cpu.step ram) := by
  obtain ⟨regs, memory⟩ := step_jsr calm here
  refine returns_of_pushAll (by simp) memory fun holds found => ?_
  have rts : decode ((cpu.step ram).2.read (cpu.step ram).1.regs.pc) = .rts := by
    rw [found]
    rfl
  have behind : Holds (cpu.step ram).1.regs.behindOpcode (cpu.step ram).2
      [lowByte (cpu.regs.pc + 2), highByte (cpu.regs.pc + 2)] := by
    rw [regs]
    exact holds
  have pointer : cpu.regs.sp - 2 + 1 + 1 = cpu.regs.sp := by grind
  have resumed : cpu.regs.pc + 2 + 1 = cpu.regs.pc + 3 := by grind
  obtain ⟨regs', memory'⟩ := step_of_decode (interrupted_step_jsr calm here) rts
  rw [regs', memory', execute_rts behind, word_lowByte_highByte]
  refine ⟨?_, rfl⟩
  simp only [Registers.behindOpcode, regs, pointer, resumed]

end

/-- Interrupts and calls are transparent. An interruption goes where its vector points, with the
address where the program goes on and the status byte on the stack; bit 4 of that byte tells `brk`
from the others, and bit 5 is set. If all that the handler does is to return, the program goes on
with its registers and flags as they were, for `brk` behind the byte after the opcode. Likewise a
call goes to its operand, and the return from there goes on behind the call. The stack wraps in its
page, and no other byte of memory changes. -/
theorem interruption_returns (cpu : Cpu) (ram : Ram) (unused : cpu.regs.flag Flag.unused = true)
    (brk : cpu.regs.flag Flag.brk = false) :
    let r := cpu.regs
    (∀ i : Interruption, i.Occurs cpu ram →
        (i.enter cpu ram).1.regs.pc = word (ram.read i.vector) (ram.read (i.vector + 1)) ∧
          hasBit (i.pushedStatus r.status) Flag.unused = true ∧
          hasBit (i.pushedStatus r.status) Flag.brk = (i == .brk) ∧
          Returns r ram (i.pushed r) 0x40 (i.resumption r.pc) (i.enter cpu ram)) ∧
      (cpu.interrupted = false → ram.read r.pc = 0x20 →
        (cpu.step ram).1.regs.pc = operandWord r ram ∧
          Returns r ram [highByte (r.pc + 2), lowByte (r.pc + 2)] 0x60 (r.pc + 3)
            (cpu.step ram)) := by
  intro r
  refine ⟨fun i occurs => ⟨?_, ?_, ?_, i.returns occurs unused brk⟩, fun calm here =>
    ⟨?_, returns_jsr calm here⟩⟩
  · rw [(i.enter_eq occurs).1]
  · rw [Interruption.pushedStatus, hasBit_withBit_of_apart (by decide)]
    exact hasBit_withBit _ (by decide) _
  · exact hasBit_withBit _ (by decide) _
  · rw [(step_jsr calm here).1]

/-- An interruption at the very end of memory, where the operand of `brk` is the first byte of all
and its opcode is part of the vector, with a stack that wraps after two bytes. -/
theorem interruption_returns_brk :
    let r : Registers := { a := 0x12, sp := 0x01, pc := 0xFFFF, status := 0xA1 }
    let cpu : Cpu := { regs := r }
    let ram := ((Ram.filled 0).write 0xFFFE 0x40).write 0x0040 0x40
    let away := cpu.step ram
    let back := away.1.step away.2
    r.flag Flag.unused = true ∧ r.flag Flag.brk = false ∧ Interruption.brk.Occurs cpu ram ∧
      away.1.regs.pc = 0x0040 ∧ [0x0101, 0x0100, 0x01FF].map away.2.read = [0x00, 0x01, 0xB1] ∧
      back.1.regs = { r with pc := 0x0001 } ∧ back.2 = away.2 := by
  intro r cpu ram away back
  have opcode : ram.read 0xFFFF = 0x00 := by simp [ram, Ram.read_filled]
  have occurs : Interruption.brk.Occurs cpu ram := ⟨rfl, opcode⟩
  have unused : r.flag Flag.unused = true := by decide
  have brk : r.flag Flag.brk = false := by decide
  obtain ⟨target, -, -, returns⟩ := (interruption_returns cpu ram unused brk).1 .brk occurs
  have handler : away.1.regs.pc = 0x0040 := by
    refine target.trans ?_
    simp [ram, Interruption.vector, irqVector, Ram.read_filled]
    rfl
  have apart : 0x0040 ∉ stackDown cpu.regs.sp 3 := by decide
  have last : away.2.read away.1.regs.pc = 0x40 := by
    rw [handler]
    refine (returns.elsewhere _ apart).trans ?_
    simp [ram]
  have addresses : stackDown cpu.regs.sp 3 = [0x0101, 0x0100, 0x01FF] := by decide
  have pushed : Interruption.brk.pushed cpu.regs = [0x00, 0x01, 0xB1] := by decide
  have stack : (stackDown cpu.regs.sp 3).map away.2.read = Interruption.brk.pushed cpu.regs :=
    returns.stack
  rw [addresses, pushed] at stack
  have resumed : Interruption.brk.resumption cpu.regs.pc = 0x0001 := by decide
  obtain ⟨regs, memory⟩ := returns.back last
  rw [resumed] at regs
  exact ⟨unused, brk, occurs, handler, stack, regs, memory⟩

end Atari800XL.Cpu
