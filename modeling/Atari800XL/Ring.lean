namespace Atari800XL

structure Ring (α : Type) where
  slots : Array α
  start : Nat := 0
  count : Nat := 0
  deriving Inhabited

namespace Ring

variable {α : Type}

def create (capacity : Nat) (fill : α) : Ring α := { slots := Array.replicate capacity fill }

def capacity (r : Ring α) : Nat := r.slots.size

def slot (r : Ring α) (i : Nat) : Nat := (r.start + i) % r.capacity

def push (r : Ring α) (a : α) : Ring α :=
  match r with
  | ⟨slots, start, count⟩ =>
    if count = slots.size then ⟨slots, start, count⟩
    else ⟨slots.setIfInBounds ((start + count) % slots.size) a, start, count + 1⟩

def toList (r : Ring α) : List α := (List.range r.count).filterMap fun i => r.slots[r.slot i]?

def take (r : Ring α) (n : Nat) : List α × Ring α :=
  let n := min n r.count
  (r.toList.take n, { r with start := r.slot n, count := r.count - n })

def clear (r : Ring α) : Ring α := { r with start := 0, count := 0 }

end Ring

end Atari800XL
