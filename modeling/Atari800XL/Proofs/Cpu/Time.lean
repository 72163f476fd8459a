import Atari800XL.Cpu.Run
import Atari800XL.Proofs.Word

namespace Atari800XL.Cpu

variable {β : Type} [Bus β]

theorem cyclesOf_bounds (opcode : UInt8) :
    2 ≤ (cyclesOf opcode).toNat ∧ (cyclesOf opcode).toNat ≤ 8 := by
  have all : ∀ c ∈ baseCycles.toList.map UInt64.toNat, 2 ≤ c ∧ c ≤ 8 := by decide +kernel
  exact all _ (List.mem_map_of_mem (Array.getElem_mem_toList _))

theorem extra_branch_le (r : Registers) (bus : β) (taken : Bool) :
    (r.branch bus taken).extra.toNat ≤ 2 := by
  unfold Registers.branch
  dsimp only
  split
  · dsimp only
    split <;> decide
  · exact Nat.zero_le 2

theorem extra_execute_le (i : Instruction) (r : Registers) (bus : β) :
    (i.execute r bus).extra.toNat ≤ 2 := by
  cases i with
  | load op mode =>
    unfold Instruction.execute Instruction.executeLoad
    dsimp only
    split <;> decide
  | branch mask wanted => exact extra_branch_le r bus _
  | _ => exact Nat.zero_le 2

def longestInstruction : Nat := 10

theorem total_executeNext (cpu : Cpu) (bus : β) :
    ∃ c : UInt64, (cpu.executeNext bus).1.total = cpu.total + c ∧
      2 ≤ c.toNat ∧ c.toNat ≤ longestInstruction := by
  let fetched := cpu.regs.fetch bus
  let done := (decode fetched.1).execute fetched.2.1 fetched.2.2
  have base := cyclesOf_bounds fetched.1
  have extra : done.extra.toNat ≤ 2 := extra_execute_le _ _ _
  have sum : (cyclesOf fetched.1 + done.extra).toNat =
      (cyclesOf fetched.1).toNat + done.extra.toNat := by
    rw [UInt64.toNat_add]
    omega
  refine ⟨cyclesOf fetched.1 + done.extra, rfl, ?_, ?_⟩
  · omega
  · unfold longestInstruction
    omega

theorem total_step (cpu : Cpu) (bus : β) :
    ∃ c : UInt64, (cpu.step bus).1.total = cpu.total + c ∧
      2 ≤ c.toNat ∧ c.toNat ≤ longestInstruction := by
  unfold step
  split
  · exact ⟨interruptCycles, rfl, by decide, by decide⟩
  · exact total_executeNext cpu bus

theorem masked_enterInterrupt (cpu : Cpu) (bus : β) (vector : UInt16) :
    (cpu.enterInterrupt bus vector).1.masked = true :=
  hasBit_withBit _ (by decide) true

theorem irq_of_masked {cpu : Cpu} (h : cpu.masked = true) (bus : β) :
    cpu.irq bus = (cpu.requestIrq, bus) := by
  rw [irq, if_pos h]

theorem irq_of_not_masked {cpu : Cpu} (h : cpu.masked = false) (bus : β) :
    cpu.irq bus =
      ((cpu.enterInterrupt bus irqVector).1.advance interruptCycles,
        (cpu.enterInterrupt bus irqVector).2) := by
  rw [irq, if_neg (Bool.eq_false_iff.1 h)]

def ready (cpu : Cpu) : Nat := cpu.total.toNat + if cpu.masked then 0 else interruptCycles.toNat

variable {cpu : Cpu}

theorem total_le_ready (cpu : Cpu) : cpu.total.toNat ≤ cpu.ready := Nat.le_add_right _ _

theorem ready_le (cpu : Cpu) : cpu.ready ≤ cpu.total.toNat + interruptCycles.toNat := by
  unfold ready
  split
  · exact Nat.le_add_right _ _
  · exact Nat.le_refl _

theorem ready_of_masked (h : cpu.masked = true) : cpu.ready = cpu.total.toNat := by
  rw [ready, if_pos h, Nat.add_zero]

theorem ready_of_not_masked (h : cpu.masked = false) :
    cpu.ready = cpu.total.toNat + interruptCycles.toNat := by
  rw [ready, h, if_neg Bool.false_ne_true]

structure Delayed (cycles : Nat) (cpu cpu' : Cpu) : Prop where
  onward : cpu.total.toNat ≤ cpu'.total.toNat
  ready_le : cpu'.ready ≤ cpu.ready + cycles

theorem Delayed.refl (cycles : Nat) (cpu : Cpu) : cpu.Delayed cycles cpu :=
  ⟨Nat.le_refl _, Nat.le_add_right _ _⟩

section

variable (time : (cpu.total + interruptCycles).toNat = cpu.total.toNat + interruptCycles.toNat)
include time

theorem total_le_interrupted : cpu.total.toNat ≤ (cpu.total + interruptCycles).toNat := by
  rw [time]
  exact Nat.le_add_right _ _

theorem ready_interrupted (bus : β) (vector : UInt16) :
    ((cpu.enterInterrupt bus vector).1.advance interruptCycles).ready =
      cpu.total.toNat + interruptCycles.toNat := by
  have masked : ((cpu.enterInterrupt bus vector).1.advance interruptCycles).masked = true :=
    masked_enterInterrupt cpu bus vector
  rw [ready_of_masked masked]
  exact time

theorem delayed_irq (bus : β) : cpu.Delayed 0 (cpu.irq bus).1 := by
  cases h : cpu.masked with
  | true =>
    rw [irq_of_masked h]
    exact ⟨Nat.le_refl _, Nat.le_refl _⟩
  | false =>
    rw [irq_of_not_masked h]
    refine ⟨total_le_interrupted time, ?_⟩
    dsimp only
    rw [ready_interrupted time, ready_of_not_masked h]
    exact Nat.le_refl _

theorem delayed_nmi (bus : β) : cpu.Delayed interruptCycles.toNat (cpu.nmi bus).1 := by
  refine ⟨total_le_interrupted time, ?_⟩
  rw [nmi]
  dsimp only
  rw [ready_interrupted time]
  exact Nat.add_le_add_right (total_le_ready cpu) _

end

end Atari800XL.Cpu
