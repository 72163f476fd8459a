namespace Atari800XL

abbrev Quad := Vector UInt8 4

namespace Quad

def zero : Quad := Vector.replicate _ 0

def at4 (q : Quad) (i : Nat) : UInt8 :=
  have : i % 4 < 4 := Nat.mod_lt i (by decide)
  q[i % 4]

def put (q : Quad) (i : Nat) (value : UInt8) : Quad :=
  q.set (i % 4) value (Nat.mod_lt i (by decide))

end Quad

end Atari800XL
