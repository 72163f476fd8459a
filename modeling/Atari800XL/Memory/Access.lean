namespace Atari800XL

inductive Access
  | ram
  | rom
  | gtia
  | pokey
  | pia
  | antic
  deriving DecidableEq, Repr, Inhabited

abbrev AccessMap := Vector Access 65536

namespace AccessMap

def lookup (map : AccessMap) (address : UInt16) : Access :=
  have := address.toNat_lt
  map[address.toNat]

def put (map : AccessMap) (address : UInt16) (access : Access) : AccessMap :=
  map.set address.toNat access address.toNat_lt

def fill (map : AccessMap) (start length : Nat) (access : Access) : AccessMap :=
  match length with
  | 0 => map
  | length + 1 =>
    if h : start < 65536 then fill (map.set start access h) (start + 1) length access else map

theorem getElem_fill (map : AccessMap) (start length : Nat) (access : Access) (j : Nat)
    (hj : j < 65536) :
    (fill map start length access)[j] =
      if start ≤ j ∧ j < start + length then access else map[j] := by
  induction length generalizing map start with
  | zero =>
    rw [fill, if_neg]
    omega
  | succ length ih =>
    unfold fill
    split
    · rename_i h
      rw [ih, Vector.getElem_set]
      by_cases he : start = j
      · subst he
        rw [if_neg (by omega), if_pos rfl, if_pos (by omega)]
      · rw [if_neg he]
        by_cases hin : start + 1 ≤ j ∧ j < start + 1 + length
        · rw [if_pos hin, if_pos (by omega)]
        · rw [if_neg hin, if_neg (by omega)]
    · rw [if_neg]
      omega

end AccessMap

end Atari800XL
