import Mathlib.Algebra.Group.Nat.Defs
import Atari800XL.Cpu.Arithmetic
import Atari800XL.Proofs.Word

namespace Atari800XL.Cpu

inductive NumberSystem
  | binary
  | decimal
  deriving DecidableEq, Repr, Inhabited

namespace NumberSystem

def ofFlag (decimal : Bool) : NumberSystem := if decimal then .decimal else .binary

def base : NumberSystem → Nat
  | .binary => 256
  | .decimal => 100

/-- Every byte is a binary numeral; both digits of a decimal one are below ten. -/
def IsNumeral : NumberSystem → UInt8 → Prop
  | .binary, _ => True
  | .decimal, b => b.toNat / 16 < 10 ∧ b.toNat % 16 < 10

instance : ∀ s b, Decidable (IsNumeral s b)
  | .binary, _ => inferInstanceAs (Decidable True)
  | .decimal, b => inferInstanceAs (Decidable (b.toNat / 16 < 10 ∧ b.toNat % 16 < 10))

def value : NumberSystem → UInt8 → Nat
  | .binary, b => b.toNat
  | .decimal, b => 10 * (b.toNat / 16) + b.toNat % 16

def numeral : NumberSystem → Nat → UInt8
  | .binary, n => UInt8.ofNat n
  | .decimal, n => UInt8.ofNat (16 * (n / 10) + n % 10)

def complement (s : NumberSystem) (b : UInt8) : UInt8 := s.numeral (s.base - 1 - s.value b)

def number (s : NumberSystem) : List UInt8 → Nat
  | [] => 0
  | b :: bytes => s.value b + s.base * s.number bytes

def numerals (s : NumberSystem) : Nat → Nat → List UInt8
  | 0, _ => []
  | places + 1, n => s.numeral (n % s.base) :: s.numerals places (n / s.base)

variable {s : NumberSystem} {b : UInt8} {bytes : List UInt8} {n : Nat}

theorem base_pos (s : NumberSystem) : 0 < s.base := by cases s <;> decide

theorem value_lt (h : s.IsNumeral b) : s.value b < s.base := by
  cases s with
  | binary => exact b.toNat_lt
  | decimal =>
    obtain ⟨high, low⟩ := h
    show 10 * (b.toNat / 16) + b.toNat % 16 < 100
    omega

theorem numeral_value (h : s.IsNumeral b) : s.numeral (s.value b) = b := by
  cases s with
  | binary => exact UInt8.ofNat_toNat
  | decimal =>
    obtain ⟨high, low⟩ := h
    have digits : 16 * (value .decimal b / 10) + value .decimal b % 10 = b.toNat := by
      rw [value]
      omega
    rw [numeral, digits, UInt8.ofNat_toNat]

theorem value_numeral (lt : n < s.base) : s.value (s.numeral n) = n := by
  cases s with
  | binary => exact UInt8.toNat_ofNat_of_lt' lt
  | decimal =>
    have tens : n / 10 < 10 := Nat.div_lt_of_lt_mul lt
    rw [numeral, value, UInt8.toNat_ofNat']
    omega

theorem complement_lt (s : NumberSystem) (b : UInt8) : s.base - 1 - s.value b < s.base := by
  have := s.base_pos
  omega

theorem value_complement (h : s.IsNumeral b) :
    s.value (s.complement b) + s.value b + 1 = s.base := by
  have := value_lt h
  rw [complement, value_numeral (s.complement_lt b)]
  omega

theorem number_lt (h : ∀ b ∈ bytes, s.IsNumeral b) : s.number bytes < s.base ^ bytes.length := by
  induction bytes with
  | nil => exact Nat.one_pos
  | cons b bytes ih =>
    obtain ⟨first, others⟩ := List.forall_mem_cons.1 h
    have low := value_lt first
    calc
      s.value b + s.base * s.number bytes < s.base * (s.number bytes + 1) := by
        rw [Nat.mul_succ]
        omega
      _ ≤ s.base * s.base ^ bytes.length := Nat.mul_le_mul_left _ (ih others)
      _ = s.base ^ (bytes.length + 1) := (Nat.pow_succ').symm

theorem number_map_complement (h : ∀ b ∈ bytes, s.IsNumeral b) :
    s.number (bytes.map s.complement) + s.number bytes + 1 = s.base ^ bytes.length := by
  induction bytes with
  | nil => rfl
  | cons b bytes ih =>
    obtain ⟨first, others⟩ := List.forall_mem_cons.1 h
    have here := value_complement first
    calc
      s.value (s.complement b) + s.base * s.number (bytes.map s.complement) +
            (s.value b + s.base * s.number bytes) + 1 =
          s.base * (s.number (bytes.map s.complement) + s.number bytes + 1) := by
        rw [Nat.mul_add, Nat.mul_add]
        omega
      _ = s.base ^ (bytes.length + 1) := by rw [ih others, Nat.pow_succ']

theorem numerals_number (h : ∀ b ∈ bytes, s.IsNumeral b) :
    s.numerals bytes.length (s.number bytes) = bytes := by
  induction bytes with
  | nil => rfl
  | cons b bytes ih =>
    obtain ⟨first, others⟩ := List.forall_mem_cons.1 h
    have low := value_lt first
    have here : (s.value b + s.base * s.number bytes) % s.base = s.value b := by
      rw [Nat.add_mul_mod_self_left, Nat.mod_eq_of_lt low]
    have behind : (s.value b + s.base * s.number bytes) / s.base = s.number bytes := by
      rw [Nat.add_mul_div_left _ _ s.base_pos, Nat.div_eq_of_lt low, Nat.zero_add]
    rw [List.length_cons, numerals, number, here, behind, numeral_value first, ih others]

end NumberSystem

namespace Registers

variable (r : Registers) (value : UInt8)

def system : NumberSystem := .ofFlag (r.flag Flag.decimal)

theorem carryIn_le_one : r.carryIn ≤ 1 := by
  unfold carryIn
  split <;> decide

theorem carryIn_of_flag {carry : Bool} (h : r.flag Flag.carry = carry) :
    r.carryIn = carry.toNat := by
  rw [carryIn, h]
  cases carry <;> rfl

theorem carry_withResult (status value : UInt8) :
    hasBit (withResult status value) Flag.carry = hasBit status Flag.carry := by
  rw [withResult, hasBit_withBit_of_apart (by decide), hasBit_withBit_of_apart (by decide)]

theorem carryIn_addBinary :
    (r.addBinary value).carryIn = if r.a.toNat + value.toNat + r.carryIn > 0xFF then 1 else 0 := by
  unfold addBinary
  rw [carryIn, flag, carry_withResult, hasBit_withBit_of_apart (by decide),
    hasBit_withBit _ (by decide)]
  simp only [decide_eq_true_eq]

theorem carryIn_subtract :
    (r.subtract value).carryIn =
      if r.a.toNat ≥ value.toNat + (1 - r.carryIn) then 1 else 0 := by
  unfold subtract
  rw [carryIn, flag, carry_withResult, hasBit_withBit_of_apart (by decide),
    hasBit_withBit _ (by decide)]
  simp only [decide_eq_true_eq]

theorem addBinary_exact :
    (r.addBinary value).a.toNat + 256 * (r.addBinary value).carryIn =
      r.a.toNat + value.toNat + r.carryIn := by
  have := r.a.toNat_lt
  have := value.toNat_lt
  have := r.carryIn_le_one
  have sum : (r.addBinary value).a.toNat = (r.a.toNat + value.toNat + r.carryIn) % 256 :=
    UInt8.toNat_ofNat'
  rw [sum, carryIn_addBinary]
  split <;> omega

theorem corrected_digit {d : Nat} (small : d < 20) :
    (if d > 9 then d + 6 else d) % 16 = d % 10 ∧
      (if (if d > 9 then d + 6 else d) > 15 then 1 else 0) = d / 10 := by
  by_cases carries : d > 9
  · rw [if_pos carries, if_pos (by omega)]
    omega
  · rw [if_neg carries, if_neg (by omega)]
    omega

theorem addDecimal_digits (left : NumberSystem.decimal.IsNumeral r.a)
    (right : NumberSystem.decimal.IsNumeral value) :
    let low := r.a.toNat % 16 + value.toNat % 16 + r.carryIn
    let high := r.a.toNat / 16 + value.toNat / 16 + low / 10
    (r.addDecimal value).a.toNat = 16 * (high % 10) + low % 10 ∧
      (r.addDecimal value).carryIn = high / 10 := by
  intro low high
  obtain ⟨leftHigh, leftLow⟩ := left
  obtain ⟨rightHigh, rightLow⟩ := right
  have carry := r.carryIn_le_one
  have lowSmall : low < 20 := by omega
  have highSmall : high < 20 := by omega
  obtain ⟨lowDigit, lowCarry⟩ := corrected_digit lowSmall
  obtain ⟨highDigit, highCarry⟩ := corrected_digit highSmall
  constructor
  · have out : (r.addDecimal value).a = UInt8.ofNat ((if high > 9 then high + 6 else high) * 16 +
        (if low > 9 then low + 6 else low) % 16) := by
      simp only [high, ← lowCarry]
      rfl
    rw [out, UInt8.toNat_ofNat', lowDigit]
    omega
  · rw [← highCarry]
    simp only [high, ← lowCarry]
    unfold addDecimal
    rw [carryIn, flag, hasBit_withBit _ (by decide)]
    simp only [decide_eq_true_eq]
    rfl

theorem addDecimal_exact (left : NumberSystem.decimal.IsNumeral r.a)
    (right : NumberSystem.decimal.IsNumeral value) :
    NumberSystem.decimal.IsNumeral (r.addDecimal value).a ∧
      NumberSystem.decimal.value (r.addDecimal value).a + 100 * (r.addDecimal value).carryIn =
        NumberSystem.decimal.value r.a + NumberSystem.decimal.value value + r.carryIn := by
  obtain ⟨out, carry⟩ := r.addDecimal_digits value left right
  simp only [NumberSystem.IsNumeral, NumberSystem.value, out, carry]
  omega

theorem digitDifference_eq {a b borrow : Nat} (left : a < 10) (right : b < 10) (one : borrow ≤ 1) :
    digitDifference a b borrow = ((a + 10 - b - borrow) % 10, decide (a < b + borrow)) := by
  unfold digitDifference
  dsimp only
  split
  · have borrows : a < b + borrow := by omega
    rw [decide_eq_true borrows]
    congr 1
    omega
  · have stays : ¬a < b + borrow := by omega
    rw [decide_eq_false stays]
    congr 1
    omega

theorem toNat_subtractDigits {a b : UInt8} {borrow : Nat} (left : NumberSystem.decimal.IsNumeral a)
    (right : NumberSystem.decimal.IsNumeral b) (one : borrow ≤ 1) :
    let borrowed := if a.toNat % 16 < b.toNat % 16 + borrow then 1 else 0
    (subtractDigits a b borrow).toNat =
      16 * ((a.toNat / 16 + 10 - b.toNat / 16 - borrowed) % 10) +
        (a.toNat % 16 + 10 - b.toNat % 16 - borrow) % 10 := by
  intro borrowed
  obtain ⟨leftHigh, leftLow⟩ := left
  obtain ⟨rightHigh, rightLow⟩ := right
  have oneMore : borrowed ≤ 1 := by
    unfold borrowed
    split <;> decide
  unfold subtractDigits
  rw [digitDifference_eq leftLow rightLow one]
  simp only [decide_eq_true_eq]
  rw [digitDifference_eq leftHigh rightHigh oneMore, UInt8.toNat_ofNat']
  omega

theorem subtractBinary_exact (binary : r.flag Flag.decimal = false) :
    (r.subtract value).a.toNat + 256 * (r.subtract value).carryIn + (value.toNat + 1) =
      r.a.toNat + r.carryIn + 256 := by
  have out : (r.subtract value).a = r.a - value - UInt8.ofNat (1 - r.carryIn) := by
    unfold subtract
    dsimp only
    rw [binary, if_neg Bool.false_ne_true]
  have := r.a.toNat_lt
  have := value.toNat_lt
  have := r.carryIn_le_one
  have difference : (r.subtract value).a.toNat =
      (r.a.toNat + 512 - (value.toNat + (1 - r.carryIn))) % 256 := by
    rw [out, UInt8.toNat_sub, UInt8.toNat_sub, UInt8.toNat_ofNat']
    omega
  rw [difference, carryIn_subtract]
  split <;> omega

theorem subtractDecimal_exact (decimal : r.flag Flag.decimal = true)
    (left : NumberSystem.decimal.IsNumeral r.a) (right : NumberSystem.decimal.IsNumeral value) :
    NumberSystem.decimal.IsNumeral (r.subtract value).a ∧
      NumberSystem.decimal.value (r.subtract value).a + 100 * (r.subtract value).carryIn +
          (NumberSystem.decimal.value value + 1) =
        NumberSystem.decimal.value r.a + r.carryIn + 100 := by
  have out : (r.subtract value).a = subtractDigits r.a value (1 - r.carryIn) := by
    unfold subtract
    dsimp only
    rw [decimal, if_pos rfl]
  have digits := toNat_subtractDigits left right (Nat.sub_le 1 r.carryIn)
  rw [← out] at digits
  obtain ⟨leftHigh, leftLow⟩ := left
  obtain ⟨rightHigh, rightLow⟩ := right
  have := r.carryIn_le_one
  simp only [NumberSystem.IsNumeral, NumberSystem.value, digits, carryIn_subtract]
  by_cases borrows : r.a.toNat % 16 < value.toNat % 16 + (1 - r.carryIn)
  · rw [if_pos borrows]
    split <;> omega
  · rw [if_neg borrows]
    split <;> omega

theorem add_exact (left : r.system.IsNumeral r.a) (right : r.system.IsNumeral value) :
    r.system.IsNumeral (r.add value).a ∧
      r.system.value (r.add value).a + r.system.base * (r.add value).carryIn =
        r.system.value r.a + r.system.value value + r.carryIn := by
  unfold system add at *
  cases decimal : r.flag Flag.decimal with
  | false => exact ⟨trivial, r.addBinary_exact value⟩
  | true =>
    rw [decimal] at left right
    exact r.addDecimal_exact value left right

theorem subtract_exact (left : r.system.IsNumeral r.a) (right : r.system.IsNumeral value) :
    r.system.IsNumeral (r.subtract value).a ∧
      r.system.value (r.subtract value).a + r.system.base * (r.subtract value).carryIn =
        r.system.value r.a + r.system.value (r.system.complement value) + r.carryIn := by
  have complement := NumberSystem.value_complement right
  have difference : r.system.IsNumeral (r.subtract value).a ∧
      r.system.value (r.subtract value).a + r.system.base * (r.subtract value).carryIn +
          (r.system.value value + 1) =
        r.system.value r.a + r.carryIn + r.system.base := by
    unfold system at left right ⊢
    cases decimal : r.flag Flag.decimal with
    | false => exact ⟨trivial, r.subtractBinary_exact value decimal⟩
    | true =>
      rw [decimal] at left right
      exact r.subtractDecimal_exact value decimal left right
  refine ⟨difference.1, ?_⟩
  omega

end Registers

end Atari800XL.Cpu
