import Mathlib.Data.Int.Basic
import Atari800XL.Proofs.Cpu.Activity
import Atari800XL.Proofs.Cpu.NumberSystem

namespace Atari800XL.Cpu

variable {β : Type} [Bus β]

def operand (mode : AddressMode) (r : Registers) (bus : β) : UInt8 :=
  let (e, _, bus) := mode.resolve r bus
  (Bus.read bus e.address).1

structure Operates (op : Load) (cpu : Cpu) (bus : β) (x y : UInt8) : Prop where
  calm : cpu.interrupted = false
  accumulator : cpu.regs.a = x
  operand : ∃ mode, decode (cpu.regs.fetch bus).1 = .load op mode ∧
    Cpu.operand mode (cpu.regs.fetch bus).2.1 (cpu.regs.fetch bus).2.2 = y

theorem Operates.regs_step {op : Load} {cpu : Cpu} {bus : β} {x y : UInt8}
    (operates : cpu.Operates op bus x y) :
    ∃ pc, (cpu.step bus).1.regs = op.apply { cpu.regs with pc } y := by
  obtain ⟨mode, instruction, found⟩ := operates.operand
  have calm : ¬(cpu.irqPending > 0 && !cpu.masked) = true := by
    simpa [interrupted] using operates.calm
  refine ⟨cpu.regs.pc + (Mode.address mode).instructionLength, ?_⟩
  rw [← regs_resolve cpu.regs (cpu.regs.fetch bus).2.2 mode, ← found, step, if_neg calm]
  unfold executeNext
  dsimp only
  rw [instruction]
  rfl

/-- An operation is executed on the bytes of two numbers, from the low end, in a number system that
the decimal flag selects. The carry goes from each execution to the next; what else the program does
in between is of no account. -/
inductive Chained (β : Type) [Bus β] (op : Load) (s : NumberSystem) :
    Bool → List (UInt8 × UInt8) → List UInt8 → Bool → Prop
  | done {carry : Bool} : Chained β op s carry [] [] carry
  | step {cpu : Cpu} {bus : β} {x y : UInt8} {pairs : List (UInt8 × UInt8)} {out : List UInt8}
      {carry : Bool} :
      cpu.Operates op bus x y → cpu.regs.system = s →
      Chained β op s ((cpu.step bus).1.regs.flag Flag.carry) pairs out carry →
      Chained β op s (cpu.regs.flag Flag.carry) ((x, y) :: pairs)
        ((cpu.step bus).1.regs.a :: out) carry

def Load.addend (s : NumberSystem) : Load → UInt8 → UInt8
  | .sbc, b => s.complement b
  | _, b => b

section

variable {op : Load} {s : NumberSystem} (arithmetic : op = .adc ∨ op = .sbc)
include arithmetic

theorem Operates.exact {cpu : Cpu} {bus : β} {x y : UInt8} (operates : cpu.Operates op bus x y)
    (system : cpu.regs.system = s) (left : s.IsNumeral x) (right : s.IsNumeral y) :
    let after := (cpu.step bus).1.regs
    s.IsNumeral after.a ∧
      s.value after.a + s.base * after.carryIn =
        s.value x + s.value (op.addend s y) + cpu.regs.carryIn := by
  obtain ⟨pc, stepped⟩ := operates.regs_step
  rw [stepped]
  subst system
  rw [← operates.accumulator] at left ⊢
  obtain rfl | rfl := arithmetic
  · exact Registers.add_exact { cpu.regs with pc } y left right
  · exact Registers.subtract_exact { cpu.regs with pc } y left right

theorem Chained.exact {carry carry' : Bool} {pairs : List (UInt8 × UInt8)} {out : List UInt8}
    (chained : Chained β op s carry pairs out carry')
    (numerals : ∀ p ∈ pairs, s.IsNumeral p.1 ∧ s.IsNumeral p.2) :
    out.length = pairs.length ∧ (∀ b ∈ out, s.IsNumeral b) ∧
      s.number out + s.base ^ pairs.length * carry'.toNat =
        s.number (pairs.map (·.1)) + s.number (pairs.map (op.addend s ·.2)) + carry.toNat := by
  induction chained with
  | done =>
    refine ⟨rfl, nofun, ?_⟩
    simp [NumberSystem.number]
  | @step cpu bus x y pairs out carry' operates system _ ih =>
    obtain ⟨⟨left, right⟩, others⟩ := List.forall_mem_cons.1 numerals
    obtain ⟨numeral, here⟩ := operates.exact arithmetic system left right
    obtain ⟨length, valid, behind⟩ := ih others
    rw [Registers.carryIn_of_flag _ rfl, Registers.carryIn_of_flag _ rfl] at here
    refine ⟨congrArg (· + 1) length, List.forall_mem_cons.2 ⟨numeral, valid⟩, ?_⟩
    have scaled := congrArg (s.base * ·) behind
    simp only [Nat.mul_add] at scaled
    simp only [List.map_cons, List.length_cons, NumberSystem.number, Nat.pow_succ', Nat.mul_assoc]
    omega

end

section

variable {s : NumberSystem} {pairs : List (UInt8 × UInt8)} {out : List UInt8} {carry carry' : Bool}
  (numerals : ∀ p ∈ pairs, s.IsNumeral p.1 ∧ s.IsNumeral p.2)
include numerals

theorem Chained.sum (chained : Chained β .adc s carry pairs out carry') :
    let total := s.number (pairs.map (·.1)) + s.number (pairs.map (·.2)) + carry.toNat
    out = s.numerals pairs.length (total % s.base ^ pairs.length) ∧
      (carry' = true ↔ s.base ^ pairs.length ≤ total) := by
  intro total
  obtain ⟨length, valid, exact⟩ := chained.exact (.inl rfl) numerals
  have small := NumberSystem.number_lt valid
  rw [length] at small
  have total_eq : s.number out + s.base ^ pairs.length * carry'.toNat = total := exact
  constructor
  · rw [← total_eq, Nat.add_mul_mod_self_left, Nat.mod_eq_of_lt small, ← length,
      NumberSystem.numerals_number valid]
  · cases carry' <;> simp at total_eq ⊢ <;> omega

theorem Chained.difference (chained : Chained β .sbc s carry pairs out carry') :
    let x := s.number (pairs.map (·.1))
    let y := s.number (pairs.map (·.2))
    out = s.numerals pairs.length
        (((x : Int) - y - (1 - carry.toNat)) % (s.base ^ pairs.length : Nat)).toNat ∧
      (carry' = true ↔ y + (1 - carry.toNat) ≤ x) := by
  intro x y
  obtain ⟨length, valid, exact⟩ := chained.exact (.inr rfl) numerals
  have small := NumberSystem.number_lt valid
  rw [length] at small
  have right : ∀ b ∈ pairs.map (·.2), s.IsNumeral b :=
    List.forall_mem_map.2 fun p mem => (numerals p mem).2
  have complement := NumberSystem.number_map_complement right
  rw [List.map_map, List.length_map] at complement
  have difference : s.number out + s.base ^ pairs.length * carry'.toNat + (y + 1) =
      x + carry.toNat + s.base ^ pairs.length := by
    rw [exact]
    show x + s.number (pairs.map (s.complement ∘ (·.2))) + carry.toNat + (y + 1) = _
    omega
  have one := carry.toNat_le
  constructor
  · have wrapped : ((x : Int) - y - (1 - carry.toNat)) =
        s.number out + (s.base ^ pairs.length : Nat) * ((carry'.toNat : Int) - 1) := by
      rw [Int.mul_sub]
      omega
    rw [wrapped, Int.add_mul_emod_self_left, ← Int.natCast_mod, Nat.mod_eq_of_lt small,
      Int.toNat_natCast, ← length, NumberSystem.numerals_number valid]
  · cases carry' <;> simp at difference ⊢ <;> omega

end

/-- Sums and differences of numbers of any length are exact, in both number systems, for numerals in
the system that the decimal flag selects: the bytes that the accumulator holds one after the other are
the numeral of the result up to the power of the base that does not fit. The last carry is set just
if that power has been left out of a sum, or has not been borrowed for a difference. -/
theorem chained_exact {s : NumberSystem} {pairs : List (UInt8 × UInt8)} {out : List UInt8}
    {carry carry' : Bool} (numerals : ∀ p ∈ pairs, s.IsNumeral p.1 ∧ s.IsNumeral p.2) :
    let places := pairs.length
    let x := s.number (pairs.map (·.1))
    let y := s.number (pairs.map (·.2))
    (Chained β .adc s carry pairs out carry' →
        out = s.numerals places ((x + y + carry.toNat) % s.base ^ places) ∧
          (carry' = true ↔ s.base ^ places ≤ x + y + carry.toNat)) ∧
      (Chained β .sbc s carry pairs out carry' →
        out = s.numerals places
            (((x : Int) - y - (1 - carry.toNat)) % (s.base ^ places : Nat)).toNat ∧
          (carry' = true ↔ y + (1 - carry.toNat) ≤ x)) :=
  ⟨fun chained => chained.sum numerals, fun chained => chained.difference numerals⟩

def sampleRam (opcode y : UInt8) : Ram := ((Ram.filled 0).write 0 opcode).write 1 y

def sampleCpu (s : NumberSystem) (carry : Bool) (x : UInt8) : Cpu :=
  let status := withBit 0 Flag.carry carry
  { regs := { a := x, status := withBit status Flag.decimal (s == .decimal) } }

theorem operates_sample {op : Load} {opcode : UInt8}
    (decoded : decode opcode = .load op .immediate) (s : NumberSystem) (carry : Bool) (x y : UInt8) :
    (sampleCpu s carry x).Operates op (sampleRam opcode y) x y where
  calm := rfl
  accumulator := rfl
  operand := by
    refine ⟨.immediate, ?_, ?_⟩
    · rw [← decoded]
      simp [Registers.fetch, Bus.read, sampleRam, sampleCpu]
    · simp [Registers.fetch, Bus.read, sampleRam, sampleCpu, operand, AddressMode.resolve,
        Effective.direct]

theorem exists_chained {op : Load} (arithmetic : op = .adc ∨ op = .sbc) (s : NumberSystem)
    (carry : Bool) (pairs : List (UInt8 × UInt8)) :
    ∃ out carry', Chained Ram op s carry pairs out carry' := by
  obtain ⟨opcode, decoded⟩ : ∃ opcode, decode opcode = .load op .immediate := by
    obtain rfl | rfl := arithmetic
    · exact ⟨0x69, rfl⟩
    · exact ⟨0xE9, rfl⟩
  induction pairs generalizing carry with
  | nil => exact ⟨[], carry, .done⟩
  | cons p pairs ih =>
    obtain ⟨x, y⟩ := p
    let cpu := sampleCpu s carry x
    let after := (cpu.step (sampleRam opcode y)).1.regs
    obtain ⟨out, carry', chained⟩ := ih (after.flag Flag.carry)
    have carried : cpu.regs.flag Flag.carry = carry :=
      (hasBit_withBit_of_apart (by decide) _ _).trans (hasBit_withBit _ (by decide) _)
    have system : cpu.regs.system = s := by
      have flag : cpu.regs.flag Flag.decimal = (s == .decimal) := hasBit_withBit _ (by decide) _
      rw [Registers.system, flag]
      cases s <;> rfl
    have step := Chained.step (operates_sample decoded s carry x y) system chained
    rw [carried] at step
    exact ⟨after.a :: out, carry', step⟩

theorem chained_exact_decimal :
    let pairs : List (UInt8 × UInt8) := [(0x00, 0x01), (0x10, 0x90)]
    (∀ p ∈ pairs, NumberSystem.decimal.IsNumeral p.1 ∧ NumberSystem.decimal.IsNumeral p.2) ∧
      (∃ out carry, Chained Ram .adc .decimal false pairs out carry ∧
        out = [0x01, 0x00] ∧ carry = true) ∧
      ∃ out carry, Chained Ram .sbc .decimal true pairs out carry ∧
        out = [0x99, 0x19] ∧ carry = false := by
  intro pairs
  have numerals : ∀ p ∈ pairs,
      NumberSystem.decimal.IsNumeral p.1 ∧ NumberSystem.decimal.IsNumeral p.2 :=
    List.forall_mem_cons.2 ⟨by decide, List.forall_mem_cons.2 ⟨by decide, nofun⟩⟩
  refine ⟨numerals, ?_, ?_⟩
  · obtain ⟨out, carry, chained⟩ := exists_chained (.inl rfl) .decimal false pairs
    obtain ⟨bytes, last⟩ := (chained_exact numerals).1 chained
    exact ⟨out, carry, chained, bytes.trans (by decide +kernel), last.2 (by decide +kernel)⟩
  · obtain ⟨out, carry, chained⟩ := exists_chained (.inr rfl) .decimal true pairs
    obtain ⟨bytes, last⟩ := (chained_exact numerals).2 chained
    refine ⟨out, carry, chained, bytes.trans (by decide +kernel), ?_⟩
    refine Bool.eq_false_iff.2 fun set => ?_
    exact absurd (last.1 set) (by decide +kernel)

end Atari800XL.Cpu
