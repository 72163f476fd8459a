import Atari800XL.Proofs.Cpu.Activity

namespace Atari800XL.Cpu

theorem keeps_elsewhere (ram : Ram) :
    Bus.Keeps fun t : Traced => ∀ a, a ∉ t.writes → t.ram.read a = ram.read a where
  read _ _ kept := kept
  write t address value kept a other := by
    have apart : a ∉ t.writes ∧ a ≠ address := by simpa using other
    simpa [apart.2.symm] using kept a apart.1

structure Instruction.WrapsInPageZero (i : Instruction) (r : Registers) (ram : Ram) : Prop where
  operand : ∀ mode ∈ [AddressMode.zeroPage, .zeroPageX, .zeroPageY], i.mode = .address mode →
    highByte (mode.effective r ram) = 0
  pointer : ∀ mode ∈ [AddressMode.indirectX, .indirectY], i.mode = .address mode →
    ∃ p : UInt8, mode.pointer? r ram = some (p.toUInt16, (p + 1).toUInt16) ∧
      p.toUInt16 ∈ i.reads r ram ∧ (p + 1).toUInt16 ∈ i.reads r ram

/-- A step that goes from `r` to registers that differ in the targets only, with these reads and
writes in their order. -/
structure Confined (cpu : Cpu) (ram : Ram) (r : Registers) (targets : Targets)
    (reads writes : List UInt16) : Prop where
  recorded : cpu.step ram =
    ((cpu.step (Traced.start ram)).1, (cpu.step (Traced.start ram)).2.ram)
  elsewhere : ∀ a, a ∉ writes → (cpu.step ram).2.read a = ram.read a
  reads : (cpu.step (Traced.start ram)).2.reads = reads
  writes : (cpu.step (Traced.start ram)).2.writes = writes
  registers : r.AgreeBut (cpu.step ram).1.regs targets
  hooks : (cpu.step ram).1.hooks = cpu.hooks

section

variable (i : Instruction) (r : Registers) (ram : Ram)

theorem highByte_toUInt16 (b : UInt8) : highByte b.toUInt16 = 0 := by
  have small := b.toNat_lt
  rw [← UInt8.toNat_inj, toNat_highByte, UInt8.toNat_toUInt16, UInt8.toNat_zero]
  exact Nat.div_eq_of_lt small

theorem highByte_effective {mode : AddressMode}
    (zero : mode ∈ [AddressMode.zeroPage, .zeroPageX, .zeroPageY]) :
    highByte (mode.effective r ram) = 0 := by
  rcases mode with _ | _ | _ | _ | _ | _ | _ | _ | _ | _ <;>
    simp [AddressMode.effective, AddressMode.base, AddressMode.index, highByte_toUInt16,
      -UInt8.toUInt16_add] at zero ⊢

theorem fetches_subset_reads {mode : AddressMode} (here : i.mode = .address mode) :
    mode.fetches r ram ⊆ i.reads r ram := by
  cases i with
  | load op mode' | modify op mode' =>
    obtain rfl : mode' = mode := by simpa [Instruction.mode] using here
    exact List.subset_append_left _ _
  | store op mode' | storeHigh op mode' | jump mode' =>
    obtain rfl : mode' = mode := by simpa [Instruction.mode] using here
    exact List.Subset.refl _
  | jsr =>
    obtain rfl : .absolute = mode := by simpa [Instruction.mode] using here
    exact List.Subset.refl _
  | _ => cases here

theorem wrapsInPageZero : i.WrapsInPageZero r ram where
  operand _ zero _ := highByte_effective r ram zero
  pointer mode indirect here := by
    have reads := fetches_subset_reads i r ram here
    have found (p : UInt8) (at_p : mode.pointer? r ram = some (p.toUInt16, (p + 1).toUInt16)) :
        mode.pointer? r ram = some (p.toUInt16, (p + 1).toUInt16) ∧
          p.toUInt16 ∈ i.reads r ram ∧ (p + 1).toUInt16 ∈ i.reads r ram := by
      refine ⟨at_p, reads ?_, reads ?_⟩ <;> simp [AddressMode.fetches, at_p]
    obtain rfl | rfl : mode = .indirectX ∨ mode = .indirectY := by simpa using indirect
    · exact ⟨_, found (operandByte r ram + r.x) rfl⟩
    · exact ⟨_, found (operandByte r ram) rfl⟩

end

theorem confined_of_record {cpu : Cpu} {ram : Ram} {r : Registers} {targets : Targets}
    {reads writes : List UInt16} {after : Cpu} {trace : Traced}
    (stepped : cpu.step (Traced.start ram) = (after, trace)) (read : trace.reads = reads)
    (wrote : trace.writes = writes) (registers : r.AgreeBut after.regs targets)
    (hooks : after.hooks = cpu.hooks) : cpu.Confined ram r targets reads writes := by
  have plain : cpu.step ram = (after, trace.ram) := by rw [step_ram, stepped]
  have start : ∀ a, a ∉ (Traced.start ram).writes → (Traced.start ram).ram.read a = ram.read a :=
    fun _ _ => rfl
  have kept := step_keeps (keeps_elsewhere ram) cpu start
  rw [stepped] at kept
  constructor
  · exact step_ram cpu ram
  · intro a other
    rw [plain]
    exact kept a (wrote ▸ other)
  · rw [stepped, read]
  · rw [stepped, wrote]
  · rw [plain]
    exact registers
  · rw [plain]
    exact hooks

/-- A step writes what its instruction is for, or what an interrupt leaves on the stack, and
changes nothing else in memory. The stack lies in its page and operands of page zero in that one.
Registers that are no targets stay as they are. -/
theorem step_footprint (cpu : Cpu) (ram : Ram) :
    let r := cpu.regs
    let i := cpu.next ram
    (∀ n, ∀ a ∈ stackDown r.sp n, highByte a = 0x01) ∧
      if cpu.interrupted then
        cpu.Confined ram r { sp := true, pc := true, flags := Flag.interruptDisable }
          [irqVector, irqVector + 1] (stackDown r.sp 3)
      else
        cpu.Confined ram (r.behind i) i.targets (r.pc :: i.reads r ram) (i.writes r ram) ∧
          i.WrapsInPageZero r ram := by
  intro r i
  refine ⟨fun _ _ => page_of_mem_stackDown, ?_⟩
  split
  case isTrue taken =>
    refine confined_of_record (step_traced_of_interrupted _ cpu taken) rfl rfl ?_ rfl
    exact r.agreeBut_enter (Traced.start ram) r.hardwareStatus irqVector
  case isFalse waits =>
    have calm : cpu.interrupted = false := Bool.eq_false_iff.2 waits
    have accounts := accounts_execute r { ram, reads := [r.pc] } i
    refine ⟨?_, wrapsInPageZero i r ram⟩
    exact confined_of_record (step_traced _ cpu calm) accounts.reads accounts.writes
      (i.agreeBut_execute r _) rfl

end Atari800XL.Cpu
