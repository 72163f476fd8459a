import Atari800XL.Proofs.Cpu.Activity
import Atari800XL.Proofs.Memory.Cell

namespace Atari800XL.Cpu

/-- An instruction takes the cycles of its opcode and those of its penalty: one where an index moves
a read to another page, none for a store or a change in place, and for a branch one if it is taken
and one more if it goes to another page. Unless it goes elsewhere the next instruction lies behind
it, by the length of its mode in the opcode matrix; the opcodes that halt the chip do nothing but
that. -/
theorem step_timing (cpu : Cpu) (ram : Ram) (calm : cpu.irqPending = 0 ∨ cpu.masked = true) :
    let opcode := ram.read cpu.regs.pc
    let i := OpcodeMatrix.instruction opcode
    let cycles := cyclesOf opcode + i.penalty cpu.regs ram
    let after := (cpu.step ram).1
    after.cycles = cycles ∧ after.total = cpu.total + cycles ∧
      (i.jumps cpu.regs = false → after.regs.pc = cpu.regs.pc + i.mode.instructionLength) ∧
      (i = .jam →
        cpu.step ram =
          ({ cpu with regs := { cpu.regs with pc := cpu.regs.pc + 1 } }.charge cycles, ram)) := by
  intro opcode i cycles after
  have waits : cpu.interrupted = false := by
    rcases calm with none | masked
    · simp [interrupted, none]
    · simp [interrupted, masked]
  have extra : (cpu.executed (.start ram)).extra = i.penalty cpu.regs ram :=
    (accounts_execute cpu.regs _ i).extra
  have step : cpu.step ram = _ := cpu.step_ram ram
  rw [cpu.step_traced (.start ram) waits, extra] at step
  have charged : after = { cpu with regs := (cpu.executed (.start ram)).regs }.charge cycles :=
    congrArg Prod.fst step
  refine ⟨?_, ?_, ?_, ?_⟩
  · rw [charged]
    rfl
  · rw [charged]
    rfl
  · intro straight
    rw [charged]
    exact pc_execute cpu.regs _ i straight
  · intro jam
    have passed : cpu.executed (.start ram) =
        ⟨cpu.regs.behindOpcode, { ram, reads := [cpu.regs.pc] }, 0⟩ := by
      rw [executed]
      show i.execute _ _ = _
      rw [jam]
      rfl
    rw [step, passed]
    rfl

theorem step_timing_indexed :
    let cpu : Cpu := { regs := { x := 1, pc := 0x10 } }
    let ram := (((Ram.filled 0).write 0x10 0xBD).write 0x11 0xFF).write 0x12 0x20
    cpu.irqPending = 0 ∧ OpcodeMatrix.instruction (ram.read 0x10) = .load .lda .absoluteX ∧
      (cpu.step ram).1.cycles = 5 ∧ (cpu.step ram).1.total = 5 ∧
      (cpu.step ram).1.regs.pc = 0x13 := by
  intro cpu ram
  have opcode : ram.read 0x10 = 0xBD := by simp [ram]
  have lda : OpcodeMatrix.instruction 0xBD = .load .lda .absoluteX := by decide +kernel
  have operand : Cpu.operandWord cpu.regs ram = 0x20FF := by
    simp [ram, cpu, operandWord]
    decide
  have paid : (Instruction.load .lda .absoluteX).penalty cpu.regs ram = 1 := by
    simp only [Instruction.penalty, AddressMode.effective, AddressMode.base, operand]
    decide
  obtain ⟨cycles, total, straight, -⟩ := step_timing cpu ram (.inl rfl)
  rw [show cpu.regs.pc = 0x10 from rfl, opcode, lda] at cycles total straight
  rw [paid] at cycles total
  exact ⟨rfl, opcode ▸ lda, cycles, total, straight rfl⟩

end Atari800XL.Cpu
