import Atari800XL.Pokey.Basic

namespace Atari800XL.Pokey

variable (p : Pokey)

def slowCycles : Nat := if hasBit p.soundControl 0x01 then 114 else 28

def divider (i : Nat) : Nat := (p.frequency.at4 i).toNat

def cycles : Timer → Nat
  | .one =>
    if hasBit p.soundControl 0x40 then p.divider 0 + 4 else (p.divider 0 + 1) * p.slowCycles
  | .two =>
    if hasBit p.soundControl 0x10 then
      if hasBit p.soundControl 0x40 then p.divider 1 * 256 + p.divider 0 + 7
      else (p.divider 1 * 256 + p.divider 0 + 1) * p.slowCycles
    else (p.divider 1 + 1) * p.slowCycles
  | .four =>
    if hasBit p.soundControl 0x08 then
      if hasBit p.soundControl 0x20 then p.divider 3 * 256 + p.divider 2 + 7
      else (p.divider 3 * 256 + p.divider 2 + 1) * p.slowCycles
    else (p.divider 3 + 1) * p.slowCycles

theorem divider_lt (i : Nat) : p.divider i < 256 := (p.frequency.at4 i).toNat_lt

theorem slowCycles_cases : p.slowCycles = 28 ∨ p.slowCycles = 114 := by
  unfold slowCycles
  split
  · exact .inr rfl
  · exact .inl rfl

theorem toNat_slowClock :
    (if hasBit p.soundControl 0x01 then lineClock else wideClock).toNat = p.slowCycles := by
  unfold slowCycles
  split <;> rfl

theorem toNat_join (high low : UInt8) :
    ((high.toUInt64 <<< 8) ||| low.toUInt64).toNat = high.toNat * 256 + low.toNat := by
  have byte : high.toNat < 256 := high.toNat_lt
  have up : (high.toUInt64 <<< 8).toNat = 2 ^ 8 * high.toNat := by
    rw [UInt64.toNat_shiftLeft, UInt8.toNat_toUInt64, Nat.shiftLeft_eq]
    show high.toNat * 2 ^ 8 % 2 ^ 64 = 2 ^ 8 * high.toNat
    omega
  rw [UInt64.toNat_or, up, UInt8.toNat_toUInt64, ← Nat.two_pow_add_eq_or_of_lt low.toNat_lt]
  omega

theorem toNat_divided {n base : UInt64} (extra : UInt64) (count : n.toNat < 0x10000)
    (slow : base.toNat = 28 ∨ base.toNat = 114) (few : extra.toNat ≤ 7) (fast : Bool) :
    (if fast then n + extra else (n + 1) * base).toNat =
      if fast then n.toNat + extra.toNat else (n.toNat + 1) * base.toNat := by
  cases fast with
  | true =>
    rw [if_pos rfl, if_pos rfl, UInt64.toNat_add]
    omega
  | false =>
    have next : (n + 1).toNat = n.toNat + 1 := by
      rw [UInt64.toNat_add]
      exact Nat.mod_eq_of_lt (Nat.lt_of_lt_of_le (Nat.succ_lt_succ count) (by decide))
    rw [if_neg Bool.false_ne_true, if_neg Bool.false_ne_true, UInt64.toNat_mul, next]
    rcases slow with slow | slow
    · rw [slow, Nat.mod_eq_of_lt (by omega)]
    · rw [slow, Nat.mod_eq_of_lt (by omega)]

theorem toNat_period (t : Timer) : (t.period p.periods).toNat = p.cycles t := by
  have slow := p.slowCycles_cases
  rw [← toNat_slowClock] at slow
  have byte (i : Nat) : (p.frequency.at4 i).toUInt64.toNat < 0x10000 :=
    Nat.lt_trans (p.divider_lt i) (by decide)
  have word (low high : Nat) :
      (((p.frequency.at4 high).toUInt64 <<< 8) ||| (p.frequency.at4 low).toUInt64).toNat <
        0x10000 := by
    have up := p.divider_lt high
    have down := p.divider_lt low
    rw [toNat_join]
    unfold divider at up down
    omega
  have single (fast : Bool) (i : Nat) := toNat_divided 4 (byte i) slow (by decide) fast
  have pair (fast : Bool) (low high : Nat) :=
    toNat_divided 7 (word low high) slow (by decide) fast
  simp only [toNat_join, toNat_slowClock] at single pair
  cases t with
  | one => exact single _ 0
  | two =>
    show (if hasBit p.soundControl 0x10 then _ else _ : UInt64).toNat = _
    unfold cycles
    dsimp only
    split
    · exact pair _ 0 1
    · exact single false 1
  | four =>
    show (if hasBit p.soundControl 0x08 then _ else _ : UInt64).toNat = _
    unfold cycles
    dsimp only
    split
    · exact pair _ 2 3
    · exact single false 3

def longestPeriod : Nat := 0x10000 * lineClock.toNat

def Bounded (period : UInt64) : Prop := 4 ≤ period.toNat ∧ period.toNat ≤ longestPeriod

theorem bounded_period (t : Timer) : Bounded (t.period p.periods) := by
  have value := p.divider_lt
  have value0 := value 0
  have value1 := value 1
  have value2 := value 2
  have value3 := value 3
  have longest : longestPeriod = 7471104 := rfl
  unfold Bounded
  rw [toNat_period, longest]
  rcases p.slowCycles_cases with slow | slow
  all_goals
    cases t
    all_goals
      simp only [cycles, slow]
      repeat' split
      all_goals omega

end Atari800XL.Pokey
