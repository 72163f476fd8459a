import Mathlib.Data.List.Forall2
import Atari800XL.Proofs.Files.Matching

namespace Atari800XL.Files

inductive Takes : UInt8 → List UInt8 → Prop
  | star (piece : List UInt8) : Takes star piece
  | question (b : UInt8) : Takes question [b]
  | itself {b : UInt8} : b ≠ Files.star → b ≠ Files.question → Takes b [b]

/-- A text in pieces, one after the other, for the bytes of a pattern. -/
def Cut (pattern text : List UInt8) : Prop :=
  ∃ pieces, List.Forall₂ Takes pattern pieces ∧ pieces.flatten = text

section

variable {p : UInt8} {pattern text : List UInt8}

theorem cut_nil : Cut [] text ↔ text = [] := by
  simp [Cut, eq_comm]

theorem cut_cons : Cut (p :: pattern) text ↔
    ∃ piece rest, Takes p piece ∧ Cut pattern rest ∧ piece ++ rest = text := by
  constructor
  · rintro ⟨pieces, takes, rfl⟩
    obtain ⟨piece, later, first, others, rfl⟩ := List.forall₂_cons_left_iff.1 takes
    exact ⟨piece, later.flatten, first, ⟨later, others, rfl⟩, rfl⟩
  · rintro ⟨piece, rest, first, ⟨later, others, rfl⟩, rfl⟩
    exact ⟨piece :: later, .cons first others, rfl⟩

theorem cut_star : Cut (star :: pattern) text ↔ ∃ rest, rest <:+ text ∧ Cut pattern rest := by
  rw [cut_cons]
  constructor
  · rintro ⟨piece, rest, -, cut, whole⟩
    exact ⟨rest, ⟨piece, whole⟩, cut⟩
  · rintro ⟨rest, ⟨piece, whole⟩, cut⟩
    exact ⟨piece, rest, .star piece, cut, whole⟩

theorem cut_single (single : p ≠ star) : Cut (p :: pattern) text ↔
    ∃ c rest, text = c :: rest ∧ (p = question ∨ p = c) ∧ Cut pattern rest := by
  rw [cut_cons]
  constructor
  · rintro ⟨piece, rest, takes, cut, rfl⟩
    cases takes with
    | star => exact absurd rfl single
    | question b => exact ⟨b, rest, rfl, .inl rfl, cut⟩
    | itself => exact ⟨p, rest, rfl, .inr rfl, cut⟩
  · rintro ⟨c, rest, rfl, fits, cut⟩
    refine ⟨[c], rest, ?_, cut, rfl⟩
    by_cases any : p = question
    · subst any
      exact .question c
    · obtain rfl := fits.resolve_left any
      exact .itself single any

theorem glob_iff_cut : glob pattern text = true ↔ Cut pattern text := by
  induction pattern generalizing text with
  | nil => rw [glob, cut_nil, List.isEmpty_iff]
  | cons p pattern ih =>
    unfold glob
    by_cases any : p = star
    · subst any
      rw [if_pos (beq_self_eq_true star), List.any_eq_true, cut_star]
      simp only [mem_suffixes, ih]
    · rw [if_neg (by simpa using any), cut_single any]
      cases text with
      | nil => simp
      | cons c rest => simp [ih]

end

inductive Splits : List Char → List Char → Option (List Char) → Prop
  | undotted {base : List Char} : '.' ∉ base → Splits base base none
  | dotted {base : List Char} (extension : List Char) :
    '.' ∉ base → Splits (base ++ '.' :: extension) base (some extension)

theorem splitName_iff_splits {cs base : List Char} {extension : Option (List Char)} :
    splitName cs = (base, extension) ↔ Splits cs base extension := by
  constructor
  · intro parts
    rcases splitName_cases cs with ⟨free, alone⟩ | ⟨first, second, free, rfl, both⟩
    · cases alone.symm.trans parts
      exact .undotted free
    · cases both.symm.trans parts
      exact .dotted second free
  · intro splits
    cases splits with
    | undotted free => exact splitName_of_not_mem free
    | dotted extension free => exact splitName_append free extension

/-- Patterns match by the language of their bytes. A star takes any piece of a text, a question mark
any one byte, every other byte itself. Base and extension are matched apart, cut off from each other
at the first dot. A pattern without a dot takes every extension, and a name without a dot has an
empty one. -/
theorem matches_by_pieces :
    (∀ pattern text, glob pattern text = true ↔ Cut pattern text) ∧
      (∀ cs base extension, splitName cs = (base, extension) ↔ Splits cs base extension) ∧
      ∀ pattern name : String, wildcardMatch pattern name = true ↔
        Cut (utf8 (splitName pattern.toList).1) (utf8 (splitName name.toList).1) ∧
          ∀ extension, (splitName pattern.toList).2 = some extension →
            Cut (utf8 extension) (utf8 ((splitName name.toList).2.getD [])) := by
  refine ⟨fun _ _ => glob_iff_cut, fun _ _ _ => splitName_iff_splits, fun pattern name => ?_⟩
  have any : utf8 ['*'] = [star] := by decide
  rw [wildcardMatch, Bool.and_eq_true, glob_iff_cut]
  refine and_congr_right fun _ => ?_
  cases (splitName pattern.toList).2 with
  | none => simp [any, glob_star]
  | some extension => simp [glob_iff_cut]

example : Cut (utf8 "*AB*".toList) (utf8 "AAB".toList) :=
  glob_iff_cut.1 (by decide +kernel)

end Atari800XL.Files
