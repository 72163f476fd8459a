import Atari800XL.Cpu.Run

namespace Atari800XL

namespace Bus

/-- A map between buses that reads and writes do not tell from the identity. -/
structure Morphism {β γ : Type} [Bus β] [Bus γ] (φ : β → γ) : Prop where
  read : ∀ bus address, read (φ bus) address = ((read bus address).1, φ (read bus address).2)
  write : ∀ bus address value, write (φ bus) address value = φ (write bus address value)

structure Keeps {β : Type} [Bus β] (P : β → Prop) : Prop where
  read : ∀ bus address, P bus → P (Bus.read bus address).2
  write : ∀ bus address value, P bus → P (Bus.write bus address value)

end Bus

namespace Cpu

open Bus Registers

variable {β γ : Type} [Bus β] [Bus γ] {φ : β → γ}

def Outcome.map (φ : β → γ) (x : Outcome β) : Outcome γ := ⟨x.regs, φ x.bus, x.extra⟩

section

variable (hφ : Morphism φ) (r : Registers) (bus : β)
include hφ

theorem readPair_map (low high : UInt16) :
    readPair (φ bus) low high = ((readPair bus low high).1, φ (readPair bus low high).2) := by
  simp only [readPair, hφ.read]

theorem readWord_map (address : UInt16) :
    readWord (φ bus) address = ((readWord bus address).1, φ (readWord bus address).2) :=
  readPair_map hφ bus address (address + 1)

theorem push_map (value : UInt8) :
    r.push (φ bus) value = ((r.push bus value).1, φ (r.push bus value).2) := by
  simp only [push, hφ.write]

theorem pull_map : r.pull (φ bus) = ((r.pull bus).1, (r.pull bus).2.1, φ (r.pull bus).2.2) := by
  simp only [pull, hφ.read]

theorem pushWord_map (value : UInt16) :
    r.pushWord (φ bus) value = ((r.pushWord bus value).1, φ (r.pushWord bus value).2) := by
  simp only [pushWord, push_map hφ]

theorem pullWord_map :
    r.pullWord (φ bus) = ((r.pullWord bus).1, (r.pullWord bus).2.1, φ (r.pullWord bus).2.2) := by
  simp only [pullWord, pull_map hφ]

theorem fetch_map :
    r.fetch (φ bus) = ((r.fetch bus).1, (r.fetch bus).2.1, φ (r.fetch bus).2.2) := by
  simp only [fetch, hφ.read]

theorem fetchWord_map :
    r.fetchWord (φ bus) =
      ((r.fetchWord bus).1, (r.fetchWord bus).2.1, φ (r.fetchWord bus).2.2) := by
  simp only [fetchWord, fetch_map hφ]

theorem regs_returnFromCall_map :
    r.returnFromCall (φ bus) = ((r.returnFromCall bus).1, φ (r.returnFromCall bus).2) := by
  simp only [Registers.returnFromCall, pullWord_map hφ]

theorem enter_map (pushed : UInt8) (vector : UInt16) :
    r.enter (φ bus) pushed vector =
      ((r.enter bus pushed vector).1, φ (r.enter bus pushed vector).2) := by
  simp only [enter, pushWord_map hφ, push_map hφ, readWord_map hφ]

theorem resolve_map (mode : AddressMode) :
    mode.resolve r (φ bus) =
      ((mode.resolve r bus).1, (mode.resolve r bus).2.1, φ (mode.resolve r bus).2.2) := by
  cases mode <;>
    simp only [AddressMode.resolve, readZeroPageWord, readPointer, fetch_map hφ, fetchWord_map hφ,
      readPair_map hφ]

theorem branch_map (taken : Bool) : r.branch (φ bus) taken = (r.branch bus taken).map φ := by
  cases taken <;> simp only [branch, fetch_map hφ] <;> rfl

theorem execute_map (i : Instruction) : i.execute r (φ bus) = (i.execute r bus).map φ := by
  cases i with
  | load op mode =>
    simp only [Instruction.execute, Instruction.executeLoad, resolve_map hφ, hφ.read, Outcome.map]
  | store op mode =>
    simp only [Instruction.execute, Instruction.executeStore, resolve_map hφ, hφ.write,
      Outcome.map]
  | storeHigh op mode =>
    simp only [Instruction.execute, Instruction.executeStoreHigh, resolve_map hφ, hφ.write,
      Outcome.map]
  | modify op mode =>
    simp only [Instruction.execute, Instruction.executeModify, resolve_map hφ, hφ.read, hφ.write,
      Outcome.map]
  | modifyA op => rfl
  | transfer op => rfl
  | branch mask wanted => exact branch_map hφ r bus _
  | jump mode => simp only [Instruction.execute, resolve_map hφ, Outcome.map]
  | jsr => simp only [Instruction.execute, fetchWord_map hφ, pushWord_map hφ, Outcome.map]
  | rts => simp only [Instruction.execute, regs_returnFromCall_map hφ, Outcome.map]
  | brk => simp only [Instruction.execute, enter_map hφ, Outcome.map]
  | rti => simp only [Instruction.execute, pull_map hφ, pullWord_map hφ, Outcome.map]
  | pha => simp only [Instruction.execute, push_map hφ, Outcome.map]
  | pla => simp only [Instruction.execute, pull_map hφ, Outcome.map]
  | php => simp only [Instruction.execute, push_map hφ, Outcome.map]
  | plp => simp only [Instruction.execute, pull_map hφ, Outcome.map]
  | jam => rfl

end

section

variable (hφ : Morphism φ) (cpu : Cpu) (bus : β)
include hφ

theorem enterInterrupt_map (vector : UInt16) :
    cpu.enterInterrupt (φ bus) vector =
      ((cpu.enterInterrupt bus vector).1, φ (cpu.enterInterrupt bus vector).2) := by
  simp only [enterInterrupt, enter_map hφ]

theorem executeNext_map :
    cpu.executeNext (φ bus) = ((cpu.executeNext bus).1, φ (cpu.executeNext bus).2) := by
  simp only [executeNext, fetch_map hφ, execute_map hφ, Outcome.map]

theorem step_map : cpu.step (φ bus) = ((cpu.step bus).1, φ (cpu.step bus).2) := by
  unfold step
  split
  · simp only [enterInterrupt_map hφ]
  · exact executeNext_map hφ cpu bus

theorem irq_map : cpu.irq (φ bus) = ((cpu.irq bus).1, φ (cpu.irq bus).2) := by
  unfold irq
  split
  · rfl
  · simp only [enterInterrupt_map hφ]

theorem nmi_map : cpu.nmi (φ bus) = ((cpu.nmi bus).1, φ (cpu.nmi bus).2) := by
  simp only [nmi, enterInterrupt_map hφ]

end

@[reducible]
def busOf {P : β → Prop} (hP : Keeps P) : Bus (Subtype P) where
  read bus address := ((read bus.1 address).1, ⟨(read bus.1 address).2, hP.read _ _ bus.2⟩)
  write bus address value := ⟨write bus.1 address value, hP.write _ _ _ bus.2⟩

theorem step_keeps {P : β → Prop} (hP : Keeps P) (cpu : Cpu) {bus : β} (h : P bus) :
    P (cpu.step bus).2 := by
  let _ := busOf hP
  have val : Morphism (Subtype.val : Subtype P → β) := ⟨fun _ _ => rfl, fun _ _ _ => rfl⟩
  rw [step_map val cpu ⟨bus, h⟩]
  exact (cpu.step (⟨bus, h⟩ : Subtype P)).2.2

end Cpu

end Atari800XL
