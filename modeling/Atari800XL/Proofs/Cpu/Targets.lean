import Atari800XL.Cpu.Execute
import Atari800XL.Proofs.Word

namespace Atari800XL.Cpu

structure Targets where
  a : Bool := false
  x : Bool := false
  y : Bool := false
  sp : Bool := false
  pc : Bool := false
  flags : UInt8 := 0
  deriving DecidableEq, Repr, Inhabited

structure Registers.AgreeBut (r r' : Registers) (t : Targets) : Prop where
  a : t.a = false → r'.a = r.a
  x : t.x = false → r'.x = r.x
  y : t.y = false → r'.y = r.y
  sp : t.sp = false → r'.sp = r.sp
  pc : t.pc = false → r'.pc = r.pc
  flags : r'.status &&& ~~~t.flags = r.status &&& ~~~t.flags

theorem Registers.AgreeBut.refl (r : Registers) (t : Targets) : r.AgreeBut r t :=
  ⟨fun _ => rfl, fun _ => rfl, fun _ => rfl, fun _ => rfl, fun _ => rfl, rfl⟩

namespace Targets

def nz : UInt8 := Flag.negative ||| Flag.zero

def nzc : UInt8 := nz ||| Flag.carry

def nzcv : UInt8 := nzc ||| Flag.overflow

end Targets

open Targets

theorem all_flags (status status' : UInt8) : status' &&& ~~~0xFF = status &&& ~~~0xFF := by
  have none : ~~~(0xFF : UInt8) = 0 := rfl
  rw [none, UInt8.and_zero, UInt8.and_zero]

def Load.targets : Load → Targets
  | .lda | .and | .ora | .eor | .ane => { a := true, flags := nz }
  | .ldx => { x := true, flags := nz }
  | .ldy => { y := true, flags := nz }
  | .lax | .lxa => { a := true, x := true, flags := nz }
  | .las => { a := true, x := true, sp := true, flags := nz }
  | .adc | .sbc | .arr => { a := true, flags := nzcv }
  | .cmp | .cpx | .cpy => { flags := nzc }
  | .bit => { flags := nz ||| Flag.overflow }
  | .anc | .alr => { a := true, flags := nzc }
  | .sbx => { x := true, flags := nzc }
  | .skip => {}

def StoreHigh.targets : StoreHigh → Targets
  | .tas => { sp := true }
  | .sha | .shx | .shy => {}

def Modify.targets : Modify → Targets
  | .asl | .lsr | .rol | .ror | .dcp => { flags := nzc }
  | .inc | .dec => { flags := nz }
  | .slo | .rla | .sre => { a := true, flags := nzc }
  | .rra | .isc => { a := true, flags := nzcv }

def Transfer.targets : Transfer → Targets
  | .tax | .tsx | .inx | .dex => { x := true, flags := nz }
  | .txa | .tya => { a := true, flags := nz }
  | .tay | .iny | .dey => { y := true, flags := nz }
  | .txs => { sp := true }
  | .clc | .sec => { flags := Flag.carry }
  | .cli | .sei => { flags := Flag.interruptDisable }
  | .clv => { flags := Flag.overflow }
  | .cld | .sed => { flags := Flag.decimal }
  | .nop => {}

def Instruction.targets : Instruction → Targets
  | .load op _ => op.targets
  | .store _ _ | .jam => {}
  | .storeHigh op _ => op.targets
  | .modify op _ => op.targets
  | .modifyA op => { op.targets with a := true }
  | .transfer op => op.targets
  | .branch _ _ | .jump _ => { pc := true }
  | .jsr | .rts => { sp := true, pc := true }
  | .brk => { sp := true, pc := true, flags := Flag.interruptDisable }
  | .rti => { sp := true, pc := true, flags := 0xFF }
  | .pha | .php => { sp := true }
  | .pla => { a := true, sp := true, flags := nz }
  | .plp => { sp := true, flags := 0xFF }

theorem Load.pc_targets (op : Load) : op.targets.pc = false := by cases op <;> rfl

theorem StoreHigh.pc_targets (op : StoreHigh) : op.targets.pc = false := by cases op <;> rfl

theorem Modify.pc_targets (op : Modify) : op.targets.pc = false := by cases op <;> rfl

theorem Transfer.pc_targets (op : Transfer) : op.targets.pc = false := by cases op <;> rfl

namespace Registers

variable (r : Registers)

theorem agreeBut_add (value : UInt8) : r.AgreeBut (r.add value) { a := true, flags := nzcv } := by
  unfold add
  split <;> constructor <;>
    simp (disch := decide) [addDecimal, addBinary, withResult, withBit_and_of_apart]

theorem agreeBut_subtract (value : UInt8) :
    r.AgreeBut (r.subtract value) { a := true, flags := nzcv } := by
  constructor <;> simp (disch := decide) [subtract, withResult, withBit_and_of_apart]

end Registers

theorem Load.agreeBut_apply (op : Load) (r : Registers) (value : UInt8) :
    r.AgreeBut (op.apply r value) op.targets := by
  cases op with
  | adc => exact r.agreeBut_add value
  | sbc => exact r.agreeBut_subtract value
  | _ =>
    constructor <;>
      simp (disch := decide) [Load.apply, Load.targets, Registers.loadA, Registers.loadX,
        Registers.loadY, Registers.compare, Registers.result, Registers.setFlag,
        Registers.shiftRight, Registers.shifted, withResult, withBit_and_of_apart]

theorem StoreHigh.agreeBut_apply (op : StoreHigh) (r : Registers) :
    r.AgreeBut (op.apply r) op.targets := by
  cases op <;> constructor <;> simp [StoreHigh.apply, StoreHigh.targets]

theorem Modify.agreeBut_apply (op : Modify) (r : Registers) (value : UInt8) :
    r.AgreeBut (op.apply r value).2 op.targets := by
  cases op with
  | rra =>
    -- The sum starts from the flags that the rotation leaves.
    have sum := (r.rotateRight value).2.agreeBut_add (r.rotateRight value).1
    refine ⟨nofun, sum.x, sum.y, sum.sp, sum.pc, sum.flags.trans ?_⟩
    simp (disch := decide) [Modify.targets, Registers.rotateRight, Registers.shifted, withResult,
      withBit_and_of_apart]
  | isc => exact r.agreeBut_subtract (value + 1)
  | _ =>
    constructor <;>
      simp (disch := decide) [Modify.apply, Modify.targets, Registers.shiftLeft,
        Registers.shiftRight, Registers.rotateLeft, Registers.rotateRight, Registers.shifted,
        Registers.loadA, Registers.compare, Registers.result, withResult, withBit_and_of_apart]

theorem Transfer.agreeBut_apply (op : Transfer) (r : Registers) :
    r.AgreeBut (op.apply r) op.targets := by
  cases op <;> constructor <;>
    simp (disch := decide) [Transfer.apply, Transfer.targets, Registers.loadA, Registers.loadX,
      Registers.loadY, Registers.result, Registers.setFlag, withResult, withBit_and_of_apart]

section

variable {β : Type} [Bus β] (r : Registers) (bus : β)

namespace Registers

def behindOpcode : Registers := { r with pc := r.pc + 1 }

def behind (i : Instruction) : Registers := { r with pc := r.pc + i.mode.instructionLength }

theorem agreeBut_enter (pushed : UInt8) (vector : UInt16) :
    r.AgreeBut (r.enter bus pushed vector).1
      { sp := true, pc := true, flags := Flag.interruptDisable } where
  a _ := rfl
  x _ := rfl
  y _ := rfl
  sp := nofun
  pc := nofun
  flags := withBit_and_of_apart (by decide) _ _

end Registers

theorem regs_resolve (mode : AddressMode) :
    (mode.resolve r.behindOpcode bus).2.1 =
      { r with pc := r.pc + (Mode.address mode).instructionLength } := by
  cases mode <;>
    simp [AddressMode.resolve, Registers.fetchWord, Registers.fetch, Registers.behindOpcode,
      Mode.instructionLength, AddressMode.operandLength, UInt16.add_assoc]

theorem agreeBut_branch (taken : Bool) :
    r.AgreeBut (r.branch bus taken).regs { pc := true } := by
  cases taken <;> exact ⟨fun _ => rfl, fun _ => rfl, fun _ => rfl, fun _ => rfl, nofun, rfl⟩

theorem Instruction.agreeBut_execute (i : Instruction) :
    (r.behind i).AgreeBut (i.execute r.behindOpcode bus).regs i.targets := by
  cases i with
  | load op mode =>
    have behind : _ = r.behind (.load op mode) := regs_resolve r bus mode
    rw [← behind]
    exact op.agreeBut_apply _ _
  | store op mode =>
    have behind : _ = r.behind (.store op mode) := regs_resolve r bus mode
    rw [← behind]
    exact .refl _ _
  | storeHigh op mode =>
    have behind : _ = r.behind (.storeHigh op mode) := regs_resolve r bus mode
    rw [← behind]
    exact op.agreeBut_apply _
  | modify op mode =>
    have behind : _ = r.behind (.modify op mode) := regs_resolve r bus mode
    rw [← behind]
    exact op.agreeBut_apply _ _
  | modifyA op =>
    have applied := op.agreeBut_apply r.behindOpcode r.behindOpcode.a
    exact ⟨nofun, applied.x, applied.y, applied.sp, applied.pc, applied.flags⟩
  | transfer op => exact op.agreeBut_apply _
  | branch mask wanted =>
    have branched := agreeBut_branch r.behindOpcode bus (r.behindOpcode.flag mask == wanted)
    exact ⟨branched.a, branched.x, branched.y, branched.sp, nofun, branched.flags⟩
  | jump mode =>
    have behind : _ = r.behind (.jump mode) := regs_resolve r bus mode
    rw [← behind]
    exact ⟨fun _ => rfl, fun _ => rfl, fun _ => rfl, fun _ => rfl, nofun, rfl⟩
  | jsr | rts => exact ⟨fun _ => rfl, fun _ => rfl, fun _ => rfl, nofun, nofun, rfl⟩
  | brk =>
    -- The byte behind the opcode is skipped before the program counter is pushed.
    let past : Registers := { r.behindOpcode with pc := r.behindOpcode.pc + 1 }
    have entered := past.agreeBut_enter bus past.softwareStatus 0xFFFE
    exact ⟨entered.a, entered.x, entered.y, nofun, nofun, entered.flags⟩
  | rti => exact ⟨fun _ => rfl, fun _ => rfl, fun _ => rfl, nofun, nofun, all_flags _ _⟩
  | pha | php => exact ⟨fun _ => rfl, fun _ => rfl, fun _ => rfl, nofun, fun _ => rfl, rfl⟩
  | pla =>
    have loaded := Load.lda.agreeBut_apply (r.behindOpcode.pull bus).2.1 (r.behindOpcode.pull bus).1
    exact ⟨nofun, loaded.x, loaded.y, nofun, loaded.pc, loaded.flags⟩
  | plp => exact ⟨fun _ => rfl, fun _ => rfl, fun _ => rfl, nofun, fun _ => rfl, all_flags _ _⟩
  | jam => exact .refl _ _

end

end Atari800XL.Cpu
