import Atari800XL.Proofs.Cpu.Activity

namespace Atari800XL.Cpu

theorem withResult_eq (status value : UInt8) :
    withResult status value = status &&& ~~~Targets.nz ||| withResult 0 value := by
  have all : ∀ n < 256, ∀ zero negative : Bool,
      withBit (withBit (UInt8.ofNat n) Flag.zero zero) Flag.negative negative =
        UInt8.ofNat n &&& ~~~Targets.nz |||
          withBit (withBit 0 Flag.zero zero) Flag.negative negative := by decide +kernel
  have here := all status.toNat status.toNat_lt
  rw [UInt8.ofNat_toNat] at here
  exact here _ _

theorem withResult_congr {status status' : UInt8}
    (same : status &&& ~~~Targets.nz = status' &&& ~~~Targets.nz) (value : UInt8) :
    withResult status value = withResult status' value := by
  rw [withResult_eq status, withResult_eq status', same]

theorem withResult_and (status value : UInt8) :
    withResult status value &&& ~~~Targets.nz = status &&& ~~~Targets.nz := by
  rw [withResult, withBit_and_of_apart (by decide), withBit_and_of_apart (by decide)]

section

variable (status value value' : UInt8)

theorem withResult_withResult : withResult (withResult status value) value' =
    withResult status value' :=
  withResult_congr (withResult_and status value) value'

theorem withResult_withBit (mask : UInt8) (on : Bool) :
    withResult (withBit (withResult status value) mask on) value' =
      withResult (withBit status mask on) value' := by
  refine withResult_congr ?_ value'
  rw [withBit_and, withResult_and, ← withBit_and]

theorem withResult_withBit_withBit (mask mask' : UInt8) (on on' : Bool) :
    withResult (withBit (withBit (withResult status value) mask on) mask' on') value' =
      withResult (withBit (withBit status mask on) mask' on') value' := by
  refine withResult_congr ?_ value'
  rw [withBit_and, withBit_and, withResult_and, ← withBit_and, ← withBit_and]

end

inductive Piece
  | load (op : Load)
  | store (op : Store)
  | modify (op : Modify)
  | modifyA (op : Modify)
  deriving DecidableEq, Repr, Inhabited

namespace Piece

def perform (e : UInt16) (s : Registers × Ram) : Piece → Registers × Ram
  | .load op => (op.apply s.1 (s.2.read e), s.2)
  | .store op => (s.1, s.2.write e (op.value s.1))
  | .modify op =>
    let (out, r) := op.apply s.1 (s.2.read e)
    (r, s.2.write e out)
  | .modifyA op =>
    let (out, r) := op.apply s.1 s.1.a
    ({ r with a := out }, s.2)

def performAll (e : UInt16) (s : Registers × Ram) (pieces : List Piece) : Registers × Ram :=
  pieces.foldl (perform e) s

end Piece

def Load.pieces? : Load → Option (List Piece)
  | .lax => some [.load .lda, .load .ldx]
  | .alr => some [.load .and, .modifyA .lsr]
  | .las | .anc | .arr | .sbx | .ane | .lxa | .skip => none
  | op => some [.load op]

def Store.pieces? : Store → Option (List Piece)
  | .sax => none
  | op => some [.store op]

def Modify.pieces? : Modify → Option (List Piece)
  | .slo => some [.modify .asl, .load .ora]
  | .rla => some [.modify .rol, .load .and]
  | .sre => some [.modify .lsr, .load .eor]
  | .rra => some [.modify .ror, .load .adc]
  | .dcp => some [.modify .dec, .load .cmp]
  | .isc => some [.modify .inc, .load .sbc]
  | op => some [.modify op]

theorem Load.perform_pieces {op : Load} {pieces : List Piece} (known : op.pieces? = some pieces)
    (e : UInt16) (s : Registers × Ram) :
    Piece.perform e s (.load op) = Piece.performAll e s pieces := by
  cases op with
  | lax =>
    obtain rfl := Option.some.inj known
    simp [Piece.performAll, Piece.perform, Load.apply, Registers.loadA, Registers.loadX,
      Registers.result, withResult_withResult]
  | alr =>
    obtain rfl := Option.some.inj known
    simp [Piece.performAll, Piece.perform, Load.apply, Modify.apply, Registers.loadA,
      Registers.result, Registers.shiftRight, Registers.shifted, withResult_withBit]
  | las | anc | arr | sbx | ane | lxa | skip => cases known
  | _ =>
    obtain rfl := Option.some.inj known
    rfl

theorem Store.perform_pieces {op : Store} {pieces : List Piece} (known : op.pieces? = some pieces)
    (e : UInt16) (s : Registers × Ram) :
    Piece.perform e s (.store op) = Piece.performAll e s pieces := by
  cases op with
  | sax => cases known
  | _ =>
    obtain rfl := Option.some.inj known
    rfl

namespace Registers

variable (r : Registers) (value value' : UInt8)

theorem subtract_result : (r.result value).subtract value' = r.subtract value' := by
  have carry : (r.result value).carryIn = r.carryIn := by
    rw [carryIn, carryIn, flag, flag, result, withResult, hasBit_withBit_of_apart (by decide),
      hasBit_withBit_of_apart (by decide)]
  have decimal : (r.result value).flag Flag.decimal = r.flag Flag.decimal := by
    rw [flag, flag, result, withResult, hasBit_withBit_of_apart (by decide),
      hasBit_withBit_of_apart (by decide)]
  simp only [subtract, carry, decimal]
  simp only [result, withResult_withBit_withBit]
  rfl

theorem compare_result :
    (r.result value).compare (r.result value).a value' = r.compare r.a value' := by
  simp only [compare, result, withResult_withBit]
  rfl

end Registers

theorem Modify.perform_pieces {op : Modify} {pieces : List Piece}
    (known : op.pieces? = some pieces) (e : UInt16) (s : Registers × Ram) :
    Piece.perform e s (.modify op) = Piece.performAll e s pieces := by
  cases op with
  | slo | rla | sre | rra =>
    obtain rfl := Option.some.inj known
    simp [Piece.performAll, Piece.perform, Modify.apply, Load.apply, Registers.shiftLeft,
      Registers.rotateLeft, Registers.shiftRight, Registers.rotateRight, Registers.shifted]
  | dcp =>
    obtain rfl := Option.some.inj known
    simp [Piece.performAll, Piece.perform, Modify.apply, Load.apply, Registers.compare_result]
  | isc =>
    obtain rfl := Option.some.inj known
    simp [Piece.performAll, Piece.perform, Modify.apply, Load.apply, Registers.subtract_result]
  | _ =>
    obtain rfl := Option.some.inj known
    rfl

namespace Instruction

/-- The documented operations that an instruction on a byte of memory consists of. -/
def pieces? : Instruction → Option (List Piece)
  | .load op _ => op.pieces?
  | .store op _ => op.pieces?
  | .modify op _ => op.pieces?
  | _ => none

def target (i : Instruction) (r : Registers) (ram : Ram) : UInt16 :=
  match i.mode with
  | .address mode => mode.effective r ram
  | .implied | .accumulator | .relative => 0

variable (r : Registers) (t : Traced)

theorem resolve_behindOpcode (mode : AddressMode) :
    mode.resolve r.behindOpcode t =
      (⟨mode.base r t.ram, mode.effective r t.ram⟩,
        { r with pc := r.pc + (Mode.address mode).instructionLength },
        { t with reads := t.reads ++ mode.fetches r t.ram }) := by
  have behind : r.pc + 1 + mode.operandLength = r.pc + (Mode.address mode).instructionLength := by
    rw [Mode.instructionLength, UInt16.add_assoc, UInt16.add_comm 1]
  rw [resolve_traced, behind]

theorem execute_pieces {i : Instruction} {pieces : List Piece} (known : i.pieces? = some pieces) :
    ((i.execute r.behindOpcode t).regs, (i.execute r.behindOpcode t).bus.ram) =
      Piece.performAll (i.target r t.ram) (r.behind i, t.ram) pieces := by
  cases i with
  | load op mode =>
    rw [← op.perform_pieces known]
    simp only [execute, executeLoad, resolve_behindOpcode]
    rfl
  | store op mode =>
    rw [← op.perform_pieces known]
    simp only [execute, executeStore, resolve_behindOpcode]
    rfl
  | modify op mode =>
    rw [← op.perform_pieces known]
    simp only [execute, executeModify, resolve_behindOpcode]
    rfl
  | _ => cases known

theorem execute_sax {i : Instruction} {mode : AddressMode} (sax : i = .store .sax mode) :
    ((i.execute r.behindOpcode t).regs, (i.execute r.behindOpcode t).bus.ram) =
      (r.behind i, t.ram.write (i.target r t.ram) (r.a &&& r.x)) := by
  subst sax
  simp only [execute, executeStore, resolve_behindOpcode]
  rfl

end Instruction

def combinedOperations : List Modify := [.slo, .rla, .sre, .rra, .dcp, .isc]

def combinedModes : List AddressMode :=
  [.indirectX, .zeroPage, .absolute, .indirectY, .zeroPageX, .absoluteY, .absoluteX]

theorem exists_decode_iff (i : Instruction) :
    (∃ opcode, decode opcode = i) ↔ ∃ n < 256, OpcodeMatrix.instruction (UInt8.ofNat n) = i := by
  constructor
  · rintro ⟨opcode, rfl⟩
    exact ⟨opcode.toNat, opcode.toNat_lt, by rw [UInt8.ofNat_toNat, decode_eq_instruction]⟩
  · rintro ⟨n, -, rfl⟩
    exact ⟨UInt8.ofNat n, decode_eq_instruction _⟩

theorem exists_decode_modify_iff {op : Modify} (combined : op ∈ combinedOperations)
    (mode : AddressMode) : (∃ opcode, decode opcode = .modify op mode) ↔ mode ∈ combinedModes := by
  rw [exists_decode_iff]
  revert op
  cases mode <;> decide +kernel

theorem executeNext_ram (cpu : Cpu) (ram : Ram) :
    let left := (cpu.next ram).execute cpu.regs.behindOpcode
      { Traced.start ram with reads := [cpu.regs.pc] }
    ((cpu.executeNext ram).1.regs, (cpu.executeNext ram).2) = (left.regs, left.bus.ram) := by
  intro left
  have next : decode (ram.read cpu.regs.pc) = cpu.next ram := decode_eq_instruction _
  have recorded : cpu.executeNext (Traced.start ram) =
      ({ cpu with regs := left.regs }.charge (cyclesOf (ram.read cpu.regs.pc) + left.extra),
        left.bus) := by
    simp only [left, ← next]
    rfl
  have mapped : cpu.executeNext ram = _ := executeNext_map Traced.morphism_ram cpu (.start ram)
  rw [mapped, recorded]
  rfl

/-- A combined operation is two documented ones in a row. The first changes the byte at the
effective address and the second takes what is there afterwards, with the flags of the first and in
the number system that is selected, or both take the same byte. All registers, the status byte and
memory are in the end as the two leave them; a documented instruction is no more than its own
operation. What is stored of two registers is their conjunction, and nothing else changes. The
operations that change memory exist in seven modes. -/
theorem executeNext_pieces (cpu : Cpu) (ram : Ram) :
    let i := cpu.next ram
    let e := i.target cpu.regs ram
    let s := (cpu.regs.behind i, ram)
    let left := ((cpu.executeNext ram).1.regs, (cpu.executeNext ram).2)
    (∀ pieces, i.pieces? = some pieces → left = Piece.performAll e s pieces) ∧
      (∀ mode, i = .store .sax mode →
        left = (s.1, ram.write e (cpu.regs.a &&& cpu.regs.x))) ∧
      ∀ op ∈ combinedOperations, ∀ mode,
        (∃ opcode, decode opcode = .modify op mode) ↔ mode ∈ combinedModes := by
  intro i e s left
  have executed := executeNext_ram cpu ram
  refine ⟨fun pieces known => ?_, fun mode sax => ?_, fun op combined =>
    exists_decode_modify_iff combined⟩
  · exact executed.trans (Instruction.execute_pieces _ _ known)
  · exact executed.trans (Instruction.execute_sax _ _ sax)

theorem executeNext_pieces_sample :
    let cpu : Cpu :=
      { regs := { a := 0x12, x := 0x0A, pc := 0x0010, status := Flag.decimal ||| Flag.carry } }
    let r := cpu.regs
    let rra := ((Ram.filled 0).write 0x0010 0x67).write 0x0011 0x11
    let sax := ((Ram.filled 0).write 0x0010 0x87).write 0x0011 0x20
    let summed := ((cpu.executeNext rra).1.regs, (cpu.executeNext rra).2)
    let stored := ((cpu.executeNext sax).1.regs, (cpu.executeNext sax).2)
    (cpu.next rra).pieces? = some [.modify .ror, .load .adc] ∧
      summed = Piece.performAll 0x0011 ({ r with pc := 0x0012 }, rra)
        [.modify .ror, .load .adc] ∧
      summed.1 = { r with a := 0x01, pc := 0x0012, status := 0x89 } ∧
      summed.2.read 0x0011 = 0x88 ∧
      cpu.next sax = .store .sax .zeroPage ∧
      stored = ({ r with pc := 0x0012 }, sax.write 0x0020 0x02) ∧
      ∃ opcode, decode opcode = .modify .isc .absoluteY := by
  intro cpu r rra sax summed stored
  have rra_next : cpu.next rra = .modify .rra .zeroPage := by
    simp [next, rra, cpu]
    rfl
  have sax_next : cpu.next sax = .store .sax .zeroPage := by
    simp [next, sax, cpu]
    rfl
  obtain ⟨performed, -, modes⟩ := executeNext_pieces cpu rra
  have added := performed [.modify .ror, .load .adc] (by rw [rra_next]; rfl)
  have kept := (executeNext_pieces cpu sax).2.1 .zeroPage sax_next
  have rra_target : (cpu.next rra).target r rra = 0x0011 := by
    rw [rra_next]
    simp [Instruction.target, Instruction.mode, AddressMode.effective, AddressMode.base,
      AddressMode.index, operandByte, rra, r, cpu]
  have sax_target : (cpu.next sax).target r sax = 0x0020 := by
    rw [sax_next]
    simp [Instruction.target, Instruction.mode, AddressMode.effective, AddressMode.base,
      AddressMode.index, operandByte, sax, r, cpu]
  have rra_behind : r.behind (cpu.next rra) = { r with pc := 0x0012 } := by
    rw [rra_next]
    rfl
  have sax_behind : r.behind (cpu.next sax) = { r with pc := 0x0012 } := by
    rw [sax_next]
    rfl
  have both : cpu.regs.a &&& cpu.regs.x = 0x02 := by
    simp only [cpu]
    decide
  rw [rra_target, rra_behind] at added
  rw [sax_target, sax_behind, both] at kept
  have found : rra.read 0x0011 = 0x11 := by simp [rra]
  have turned : ({ r with pc := 0x0012 }.rotateRight 0x11).1 = 0x88 := by
    simp only [r, cpu]
    decide
  refine ⟨by rw [rra_next]; rfl, added, ?_, ?_, sax_next, kept,
    (modes .isc (by decide) _).2 (by decide)⟩
  · rw [show summed = _ from added]
    simp only [Piece.performAll, List.foldl, Piece.perform, Modify.apply, Load.apply, found,
      Ram.read_write, if_true, r, cpu]
    decide
  · rw [show summed = _ from added]
    simp [Piece.performAll, Piece.perform, Modify.apply, found, turned]

end Atari800XL.Cpu
