import Atari800XL.Schedule

namespace Atari800XL

theorem Event.mem_all (e : Event) : e ∈ all := by cases e <;> decide

namespace Schedule

variable {s s' : Schedule} {now : UInt64} {e f : Event} {d : UInt64}

def Exact (s : Schedule) : Prop := s.next = s.earliest

theorem exact_set (s : Schedule) (e : Event) (cycle : UInt64) : (s.set e cycle).Exact := by
  cases e <;> rfl

theorem exact_stallTo (h : s.Exact) (cycle : UInt64) : (s.stallTo cycle).Exact := by
  unfold stallTo
  split
  · exact h
  · exact h

@[simp] theorem deadline_stallTo (s : Schedule) (cycle : UInt64) (e : Event) :
    (s.stallTo cycle).deadline e = s.deadline e := by
  unfold stallTo
  split
  · cases e <;> rfl
  · rfl

theorem stallUntil_stallTo (s : Schedule) (cycle : UInt64) :
    (s.stallTo cycle).stallUntil = if s.stallUntil < cycle then cycle else s.stallUntil := by
  unfold stallTo
  split <;> rfl

theorem earliest_le_iff {cycle : UInt64} : s.earliest ≤ cycle ↔ ∃ e, s.deadline e ≤ cycle := by
  constructor
  · intro h
    simp only [earliest, Std.min_le] at h
    rcases h with ((h | h) | h | h) | (h | h) | h | h
    · exact ⟨.lineFetch, h⟩
    · exact ⟨.displayListInterrupt, h⟩
    · exact ⟨.serialOutNeeded, h⟩
    · exact ⟨.serialOutDone, h⟩
    · exact ⟨.serialInReady, h⟩
    · exact ⟨.timer1, h⟩
    · exact ⟨.timer2, h⟩
    · exact ⟨.timer4, h⟩
  · rintro ⟨e, h⟩
    simp only [earliest, Std.min_le]
    cases e <;> simp only [deadline] at h <;> simp [h]

theorem Exact.next_le (h : s.Exact) (e : Event) : s.next ≤ s.deadline e := by
  rw [h]
  exact earliest_le_iff.2 ⟨e, UInt64.le_refl _⟩

/-- `e` goes before `f`: its deadline is earlier or, of equal ones, it is declared first. -/
def Precedes (s : Schedule) (e f : Event) : Prop :=
  s.deadline e < s.deadline f ∨ s.deadline e = s.deadline f ∧ e.ctorIdx ≤ f.ctorIdx

theorem Precedes.le (h : s.Precedes e f) : s.deadline e ≤ s.deadline f := by
  rcases h with earlier | ⟨same, -⟩
  · exact UInt64.le_of_lt earlier
  · exact UInt64.le_of_eq same

theorem Precedes.antisymm (h : s.Precedes e f) (h' : s.Precedes f e) : e = f := by
  have le := h.le
  have le' := h'.le
  rcases h with earlier | ⟨-, first⟩
  · exact absurd le' (UInt64.not_le.2 earlier)
  · rcases h' with earlier' | ⟨-, first'⟩
    · exact absurd le (UInt64.not_le.2 earlier')
    · rw [← Event.ofNat_ctorIdx e, Nat.le_antisymm first first', Event.ofNat_ctorIdx]

theorem minOn?_first {α : Type} {R : α → α → Prop} {key : α → UInt64} {xs : List α} {a : α}
    (ordered : xs.Pairwise R) (found : xs.minOn? key = some a) :
    ∀ b ∈ xs, key a < key b ∨ key a = key b ∧ (a = b ∨ R a b) := by
  induction xs generalizing a with
  | nil => exact nofun
  | cons x xs ih =>
    obtain ⟨behind, ordered⟩ := List.pairwise_cons.1 ordered
    have self : key x < key x ∨ key x = key x ∧ (x = x ∨ R x x) := .inr ⟨rfl, .inl rfl⟩
    have found := Option.some.inj (List.minOn?_cons.symm.trans found)
    cases rest : xs.minOn? key with
    | none =>
      rw [rest, Option.elim_none] at found
      have empty : xs = [] := Classical.byContradiction fun some => by
        rw [List.minOn?_eq_some_minOn some] at rest
        cases rest
      rw [← found, empty]
      exact List.forall_mem_singleton.2 self
    | some y =>
      have least := ih ordered rest
      rw [rest, Option.elim_some, minOn] at found
      split at found
      next before =>
        subst found
        refine List.forall_mem_cons.2 ⟨self, fun b mem => ?_⟩
        have le : key y ≤ key b := by
          rcases least b mem with earlier | ⟨same, -⟩
          · exact UInt64.le_of_lt earlier
          · exact UInt64.le_of_eq same
        rcases UInt64.lt_or_eq_of_le (UInt64.le_trans before le) with earlier | same
        · exact .inl earlier
        · exact .inr ⟨same, .inr (behind b mem)⟩
      next before =>
        subst found
        exact List.forall_mem_cons.2 ⟨.inl (UInt64.not_le.1 before), least⟩

def candidates (s : Schedule) (now : UInt64) : List (Event × UInt64) :=
  (Event.all.map fun e => (e, s.deadline e)).filter (·.2 ≤ now)

theorem mem_candidates : (e, d) ∈ s.candidates now ↔ s.deadline e = d ∧ d ≤ now := by
  simp only [candidates, List.mem_filter, List.mem_map, Prod.mk.injEq, decide_eq_true_eq]
  constructor
  · rintro ⟨⟨e', -, rfl, rfl⟩, come⟩
    exact ⟨rfl, come⟩
  · rintro ⟨rfl, come⟩
    exact ⟨⟨e, e.mem_all, rfl, rfl⟩, come⟩

theorem ordered_candidates (s : Schedule) (now : UInt64) :
    (s.candidates now).Pairwise fun a b => a.1.ctorIdx < b.1.ctorIdx := by
  have ordered : Event.all.Pairwise fun e f => e.ctorIdx < f.ctorIdx := by decide
  exact .filter _ (List.pairwise_map.2 ordered)

theorem precedes_of_minOn? (found : (s.candidates now).minOn? (·.2) = some (e, d)) (f : Event) :
    s.Precedes e f := by
  obtain ⟨rfl, come⟩ := mem_candidates.1 (List.minOn?_mem found)
  by_cases due : s.deadline f ≤ now
  · have first := minOn?_first (s.ordered_candidates now) found _ (mem_candidates.2 ⟨rfl, due⟩)
    rcases first with earlier | ⟨same, one | behind⟩
    · exact .inl earlier
    · exact .inr ⟨same, Nat.le_of_eq (congrArg (fun a => a.1.ctorIdx) one)⟩
    · exact .inr ⟨same, Nat.le_of_lt behind⟩
  · exact .inl (UInt64.lt_of_le_of_lt come (UInt64.not_le.1 due))

theorem due_of_lt (h : now < s.next) : s.due now = none := if_pos h

theorem due_of_le (h : s.next ≤ now) : s.due now = (s.candidates now).minOn? (·.2) :=
  if_neg (UInt64.not_lt.2 h)

theorem Exact.due_eq_none_iff (exact : s.Exact) : s.due now = none ↔ now < s.next := by
  refine ⟨fun none => UInt64.not_le.1 fun come => ?_, due_of_lt⟩
  obtain ⟨e, due⟩ := earliest_le_iff.1 (exact ▸ come)
  have some := List.isSome_minOn?_of_mem (f := (·.2)) (mem_candidates.2 ⟨rfl, due⟩)
  rw [← due_of_le come, none] at some
  cases some

theorem Exact.due_eq_some_iff (exact : s.Exact) :
    s.due now = some (e, d) ↔ s.deadline e = d ∧ d ≤ now ∧ ∀ f, s.Precedes e f := by
  have foremost {e' : Event} {d' : UInt64} (h : s.due now = some (e', d')) :
      s.deadline e' = d' ∧ d' ≤ now ∧ ∀ f, s.Precedes e' f := by
    have come : s.next ≤ now := UInt64.not_lt.1 fun late => by
      rw [due_of_lt late] at h
      cases h
    rw [due_of_le come] at h
    obtain ⟨own, due⟩ := mem_candidates.1 (List.minOn?_mem h)
    exact ⟨own, due, precedes_of_minOn? h⟩
  constructor
  · exact foremost
  · rintro ⟨rfl, come, first⟩
    have due : s.due now ≠ none := by
      rw [Ne, exact.due_eq_none_iff, UInt64.not_lt]
      exact UInt64.le_trans (exact.next_le e) come
    obtain ⟨⟨e', d'⟩, found⟩ := Option.ne_none_iff_exists'.1 due
    obtain ⟨rfl, -, first'⟩ := foremost found
    obtain rfl := (first' e).antisymm (first e')
    exact found

theorem Exact.due (exact : s.Exact) (h : s.due now = some (e, d)) :
    s.deadline e = d ∧ d ≤ now ∧ ∀ f, d ≤ s.deadline f := by
  obtain ⟨own, come, first⟩ := exact.due_eq_some_iff.1 h
  exact ⟨own, come, fun f => own ▸ (first f).le⟩

inductive Sets (p : Event → Prop) (s : Schedule) : Schedule → Prop
  | refl : Sets p s s
  | set {s' : Schedule} {e : Event} (cycle : UInt64) : Sets p s s' → p e → Sets p s (s'.set e cycle)

variable {p q : Event → Prop}

theorem Sets.one (he : p e) (cycle : UInt64) : s.Sets p (s.set e cycle) := .set cycle .refl he

theorem Sets.own (s : Schedule) (e : Event) (cycle : UInt64) : s.Sets (· = e) (s.set e cycle) :=
  .set cycle .refl rfl

theorem Sets.trans {s'' : Schedule} (h : s.Sets p s') (h' : s'.Sets p s'') : s.Sets p s'' := by
  induction h' with
  | refl => exact h
  | set cycle _ he ih => exact .set cycle ih he

theorem Sets.mono (h : s.Sets p s') (hpq : ∀ e, p e → q e) : s.Sets q s' := by
  induction h with
  | refl => exact .refl
  | set cycle _ he ih => exact .set cycle ih (hpq _ he)

theorem Sets.stallUntil (h : s.Sets p s') : s'.stallUntil = s.stallUntil := by
  induction h with
  | refl => rfl
  | set cycle _ _ ih => rw [stallUntil_set, ih]

theorem Sets.deadline (h : s.Sets p s') (he : ¬p e) : s'.deadline e = s.deadline e := by
  induction h with
  | refl => rfl
  | @set _ f cycle _ hf ih =>
    have other : f ≠ e := fun same => he (same ▸ hf)
    rw [deadline_set, if_neg other, ih]

theorem Sets.exact (h : s.Sets p s') (hs : s.Exact) : s'.Exact := by
  induction h with
  | refl => exact hs
  | set cycle _ _ _ => exact exact_set _ _ cycle

end Schedule

end Atari800XL
