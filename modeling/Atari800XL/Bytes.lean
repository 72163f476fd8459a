namespace Atari800XL

structure Bytes (n : Nat) where
  data : ByteArray
  size_eq : data.size = n

namespace Bytes

variable {n : Nat}

theorem lt_size (b : Bytes n) {i : Nat} (h : i < n) : i < b.data.size := b.size_eq.symm ▸ h

def get (b : Bytes n) (i : Nat) (h : i < n) : UInt8 :=
  have := b.lt_size h
  b.data[i]

def getD (b : Bytes n) (i : Nat) : UInt8 := if h : i < n then b.get i h else 0

def set (b : Bytes n) (i : Nat) (value : UInt8) (h : i < n) : Bytes n :=
  ⟨b.data.set i value (b.lt_size h), (Array.size_set ..).trans b.size_eq⟩

def replicate (n : Nat) (value : UInt8) : Bytes n :=
  ⟨⟨Array.replicate n value⟩, by simp [ByteArray.size]⟩

instance : Inhabited (Bytes n) := ⟨replicate n 0⟩

def ofArray? (n : Nat) (data : ByteArray) : Option (Bytes n) :=
  if h : data.size = n then some ⟨data, h⟩ else none

def update (b : Bytes n) (start length : Nat) (f : Nat → UInt8) : Bytes n :=
  match length with
  | 0 => b
  | length + 1 =>
    if h : start < n then (b.set start (f start) h).update (start + 1) length f else b

@[simp] theorem get_set (b : Bytes n) (i j : Nat) (value : UInt8) (hi : i < n) (hj : j < n) :
    (b.set i value hi).get j hj = if i = j then value else b.get j hj :=
  Array.getElem_set (b.lt_size hi) ((b.set i value hi).lt_size hj)

theorem get_update (b : Bytes n) (start length : Nat) (f : Nat → UInt8) (j : Nat) (hj : j < n) :
    (b.update start length f).get j hj =
      if start ≤ j ∧ j < start + length then f j else b.get j hj := by
  induction length generalizing b start with
  | zero =>
    rw [update, if_neg]
    omega
  | succ length ih =>
    unfold update
    split
    · rename_i h
      rw [ih, get_set]
      by_cases he : start = j
      · subst he
        rw [if_neg (by omega), if_pos rfl, if_pos (by omega)]
      · rw [if_neg he]
        by_cases hin : start + 1 ≤ j ∧ j < start + 1 + length
        · rw [if_pos hin, if_pos (by omega)]
        · rw [if_neg hin, if_neg (by omega)]
    · rw [if_neg]
      omega

end Bytes

end Atari800XL
