namespace Atari800XL.Text

def inStretches (stretches : List (Nat × Nat)) (c : Char) : Bool :=
  stretches.any fun (first, last) => first ≤ c.toNat && c.toNat ≤ last

theorem inStretches_of_mem {stretches : List (Nat × Nat)} {c : Char} {first last : Nat}
    (h : (first, last) ∈ stretches) (low : first ≤ c.toNat) (high : c.toNat ≤ last) :
    inStretches stretches c :=
  List.any_eq_true.2 ⟨(first, last), h, by simp [low, high]⟩

end Atari800XL.Text
