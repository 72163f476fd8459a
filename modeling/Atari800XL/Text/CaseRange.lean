namespace Atari800XL.Text

structure CaseRange where
  first : Nat
  last : Nat
  step : Nat
  offset : Int
  deriving DecidableEq, Repr, Inhabited

namespace CaseRange

def holds (r : CaseRange) (code : Nat) : Bool :=
  r.first ≤ code && code ≤ r.last && (code - r.first) % r.step == 0

def partner (ranges : List CaseRange) (c : Char) : Char :=
  match ranges.find? (·.holds c.toNat) with
  | some r => Char.ofNat (c.toNat + r.offset).toNat
  | none => c

end CaseRange

end Atari800XL.Text
