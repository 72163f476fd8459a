namespace Atari800XL

theorem foldlM_loop_eq {α : Type} (f : α → UInt8 → α) (bytes : ByteArray)
    (h : bytes.size ≤ bytes.size) (i j : Nat) (a : α) :
    ByteArray.foldlM.loop (m := Id) (fun a x => pure (f a x)) bytes bytes.size h i j a =
      Array.foldlM.loop (m := Id) (fun a x => pure (f a x)) bytes.data bytes.size h i j a := by
  induction i generalizing j a with
  | zero => rw [ByteArray.foldlM.loop, Array.foldlM.loop]
  | succ i ih =>
    rw [ByteArray.foldlM.loop, Array.foldlM.loop]
    split
    · simp only [pure_bind, ih]
      rfl
    · rfl

theorem foldl_eq_foldl_toList {α : Type} (f : α → UInt8 → α) (bytes : ByteArray) (a : α) :
    bytes.foldl f a = bytes.data.toList.foldl f a := by
  rw [Array.foldl_toList]
  unfold ByteArray.foldl ByteArray.foldlM Array.foldl Array.foldlM
  simp [foldlM_loop_eq]

theorem extract_append_of_le_left {x y : ByteArray} {a b : Nat} (h : b ≤ x.size) :
    (x ++ y).extract a b = x.extract a b := by
  have nothing : y.extract (a - x.size) (b - x.size) = ByteArray.empty :=
    ByteArray.extract_eq_empty_iff.2 (by omega)
  rw [ByteArray.extract_append, nothing, ByteArray.append_empty]

theorem extract_append_of_le_right {x y : ByteArray} {a b : Nat} (h : x.size ≤ a) :
    (x ++ y).extract a b = y.extract (a - x.size) (b - x.size) := by
  have nothing : x.extract a b = ByteArray.empty :=
    ByteArray.extract_eq_empty_iff.2 (by omega)
  rw [ByteArray.extract_append, nothing, ByteArray.empty_append]

end Atari800XL
