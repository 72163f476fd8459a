import Atari800XL.Proofs.Cpu.OpcodeMatrix
import Atari800XL.Proofs.Cpu.Operand

namespace Atari800XL.Cpu

def stackDown (sp : UInt8) : Nat → List UInt16
  | 0 => []
  | n + 1 => word sp 0x01 :: stackDown (sp - 1) n

def stackUp (sp : UInt8) : Nat → List UInt16
  | 0 => []
  | n + 1 => word (sp + 1) 0x01 :: stackUp (sp + 1) n

theorem page_of_mem_stackDown {sp : UInt8} {n : Nat} {a : UInt16} (mem : a ∈ stackDown sp n) :
    highByte a = 0x01 := by
  induction n generalizing sp with
  | zero => cases mem
  | succ n ih =>
    cases mem with
    | head => exact highByte_word sp 0x01
    | tail _ mem => exact ih mem

namespace Instruction

variable (i : Instruction) (r : Registers) (ram : Ram)

def reads : List UInt16 :=
  match i with
  | .load _ mode | .modify _ mode => mode.fetches r ram ++ [mode.effective r ram]
  | .store _ mode | .storeHigh _ mode | .jump mode => mode.fetches r ram
  | .branch _ _ => [r.pc + 1]
  | .jsr => [r.pc + 1, r.pc + 2]
  | .pla | .plp => stackUp r.sp 1
  | .rts => stackUp r.sp 2
  | .rti => stackUp r.sp 3
  | .brk => [0xFFFE, 0xFFFF]
  | .modifyA _ | .transfer _ | .pha | .php | .jam => []

def writes : List UInt16 :=
  match i with
  | .store _ mode | .storeHigh _ mode | .modify _ mode => [mode.effective r ram]
  | .pha | .php => stackDown r.sp 1
  | .jsr => stackDown r.sp 2
  | .brk => stackDown r.sp 3
  | .load _ _ | .modifyA _ | .transfer _ | .branch _ _ | .jump _ | .rts | .rti | .pla | .plp
  | .jam => []

def branchTarget : UInt16 := r.pc + 2 + UInt16.ofInt (operandByte r ram).toInt8.toInt

/-- Cycles beyond those of the opcode: one if an index moves a read to another page, one for a
branch that is taken, and one more if it goes to another page. -/
def penalty : UInt64 :=
  match i with
  | .load _ mode =>
    match mode with
    | .absoluteX | .absoluteY | .indirectY =>
      if crossesPage (mode.base r ram) (mode.effective r ram) then 1 else 0
    | _ => 0
  | .branch mask wanted =>
    if r.flag mask == wanted then
      if crossesPage (r.pc + 2) (branchTarget r ram) then 2 else 1
    else 0
  | _ => 0

def jumps : Bool :=
  match i with
  | .branch mask wanted => r.flag mask == wanted
  | .jump _ | .jsr | .rts | .rti | .brk => true
  | _ => false

end Instruction

theorem signExtend_eq (offset : UInt8) : signExtend offset = UInt16.ofInt offset.toInt8.toInt := by
  have all : ∀ n < 256,
      signExtend (UInt8.ofNat n) = UInt16.ofInt (UInt8.ofNat n).toInt8.toInt := by decide +kernel
  have here := all offset.toNat offset.toNat_lt
  rwa [UInt8.ofNat_toNat] at here

structure Outcome.Accounts (o : Outcome Traced) (i : Instruction) (r : Registers) (t : Traced) :
    Prop where
  reads : o.bus.reads = t.reads ++ i.reads r t.ram
  writes : o.bus.writes = t.writes ++ i.writes r t.ram
  extra : o.extra = i.penalty r t.ram

variable (r : Registers) (t : Traced)

theorem extra_executeLoad (op : Load) (mode : AddressMode) :
    (Instruction.executeLoad op mode r.behindOpcode t).extra =
      (Instruction.load op mode).penalty r t.ram := by
  unfold Instruction.executeLoad
  rw [resolve_traced]
  cases mode <;>
    simp [Instruction.penalty, Effective.crossed, crossesPage, AddressMode.effective,
      AddressMode.index]

theorem branch_behindOpcode (taken : Bool) :
    r.behindOpcode.branch t taken =
      { regs :=
          if taken then { r with pc := Instruction.branchTarget r t.ram }
          else { r with pc := r.pc + 2 }
        bus := { t with reads := t.reads ++ [r.pc + 1] }
        extra :=
          if taken then
            if crossesPage (r.pc + 2) (Instruction.branchTarget r t.ram) then 2 else 1
          else 0 } := by
  rw [Registers.branch, fetch_behindOpcode]
  cases taken with
  | false => rfl
  | true =>
    simp only [signExtend_eq]
    rfl

theorem append_two (l : List UInt16) (a b : UInt16) : l ++ [a] ++ [b] = l ++ [a, b] :=
  List.append_assoc l [a] [b]

theorem append_three (l : List UInt16) (a b c : UInt16) :
    l ++ [a] ++ [b] ++ [c] = l ++ [a, b, c] := by
  rw [append_two, List.append_assoc]
  rfl

theorem accounts_execute (i : Instruction) : (i.execute r.behindOpcode t).Accounts i r t := by
  have none (l : List UInt16) : l = l ++ [] := (List.append_nil l).symm
  cases i with
  | load op mode =>
    refine ⟨?_, ?_, extra_executeLoad r t op mode⟩
    · simp [Instruction.execute, Instruction.executeLoad, resolve_traced, Instruction.reads]
    · simp [Instruction.execute, Instruction.executeLoad, resolve_traced, Instruction.writes]
  | store op mode =>
    simp only [Instruction.execute, Instruction.executeStore, resolve_traced]
    exact ⟨rfl, rfl, rfl⟩
  | storeHigh op mode =>
    simp only [Instruction.execute, Instruction.executeStoreHigh, resolve_traced]
    exact ⟨rfl, rfl, rfl⟩
  | modify op mode =>
    simp only [Instruction.execute, Instruction.executeModify, resolve_traced]
    exact ⟨List.append_assoc _ _ _, rfl, rfl⟩
  | branch mask wanted =>
    simp only [Instruction.execute, branch_behindOpcode]
    exact ⟨rfl, none _, rfl⟩
  | jump mode =>
    simp only [Instruction.execute, resolve_traced]
    exact ⟨rfl, none _, rfl⟩
  | jsr =>
    simp only [Instruction.execute, fetchWord_behindOpcode]
    exact ⟨rfl, append_two _ _ _, rfl⟩
  | rts => exact ⟨append_two _ _ _, none _, rfl⟩
  | rti => exact ⟨append_three _ _ _ _, none _, rfl⟩
  | brk => exact ⟨append_two _ _ _, append_three _ _ _ _, rfl⟩
  | pha | php => exact ⟨none _, rfl, rfl⟩
  | pla | plp => exact ⟨rfl, none _, rfl⟩
  | modifyA _ | transfer _ | jam => exact ⟨none _, none _, rfl⟩

theorem pc_execute (i : Instruction) (straight : i.jumps r = false) :
    (i.execute r.behindOpcode t).regs.pc = r.pc + i.mode.instructionLength := by
  have agree := i.agreeBut_execute r t
  cases i with
  | load op mode => exact agree.pc op.pc_targets
  | storeHigh op mode => exact agree.pc op.pc_targets
  | modify op mode => exact agree.pc op.pc_targets
  | modifyA op => exact agree.pc op.pc_targets
  | transfer op => exact agree.pc op.pc_targets
  | store _ _ | pha | pla | php | plp | jam => exact agree.pc rfl
  | branch mask wanted =>
    have past : (r.behindOpcode.flag mask == wanted) = false := straight
    simp only [Instruction.execute, branch_behindOpcode, past]
    rfl
  | jump _ | jsr | rts | rti | brk => cases straight

def next (cpu : Cpu) (ram : Ram) : Instruction :=
  OpcodeMatrix.instruction (ram.read cpu.regs.pc)

def interrupted (cpu : Cpu) : Bool := cpu.irqPending > 0 && !cpu.masked

variable (cpu : Cpu)

def executed : Outcome Traced :=
  (cpu.next t.ram).execute cpu.regs.behindOpcode { t with reads := t.reads ++ [cpu.regs.pc] }

theorem step_traced (calm : cpu.interrupted = false) :
    cpu.step t =
      ({ cpu with regs := (cpu.executed t).regs }.charge
          (cyclesOf (t.ram.read cpu.regs.pc) + (cpu.executed t).extra),
        (cpu.executed t).bus) := by
  have straight : ¬(decide (cpu.irqPending > 0) && !cpu.masked) = true := Bool.eq_false_iff.1 calm
  rw [step, if_neg straight, executeNext, executed, next, ← decode_eq_instruction]
  rfl

theorem step_traced_of_interrupted (taken : cpu.interrupted = true) :
    cpu.step t =
      (({ cpu with irqPending := cpu.irqPending - 1 }.enterInterrupt t irqVector).1.charge
          interruptCycles,
        ({ cpu with irqPending := cpu.irqPending - 1 }.enterInterrupt t irqVector).2) := by
  rw [step]
  exact if_pos taken

theorem step_ram (ram : Ram) :
    cpu.step ram = ((cpu.step (Traced.start ram)).1, (cpu.step (Traced.start ram)).2.ram) :=
  step_map Traced.morphism_ram cpu (.start ram)

end Atari800XL.Cpu
