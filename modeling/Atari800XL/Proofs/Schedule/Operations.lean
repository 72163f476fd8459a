import Mathlib.Order.Bounds.Basic
import Atari800XL.Proofs.Schedule

namespace Atari800XL.Schedule

inductive Operation
  | set (event : Event) (cycle : UInt64)
  | clear (event : Event)
  | stallTo (cycle : UInt64)
  deriving DecidableEq, Repr

def perform (s : Schedule) : Operation → Schedule
  | .set event cycle => s.set event cycle
  | .clear event => s.clear event
  | .stallTo cycle => s.stallTo cycle

def performAll (s : Schedule) (operations : List Operation) : Schedule :=
  operations.foldl perform s

def Operation.deadline? (event : Event) : Operation → Option UInt64
  | .set e cycle => if e = event then some cycle else none
  | .clear e => if e = event then some never else none
  | .stallTo _ => none

def lastDeadline? (operations : List Operation) (event : Event) : Option UInt64 :=
  (operations.filterMap (Operation.deadline? event)).getLast?

def Cleared (operations : List Operation) (event : Event) : Prop :=
  ∃ earlier later, operations = earlier ++ .clear event :: later ∧ ∀ cycle, .set event cycle ∉ later

variable {s : Schedule} {e : Event}

theorem deadline_perform (s : Schedule) (o : Operation) (e : Event) :
    (s.perform o).deadline e = (o.deadline? e).getD (s.deadline e) := by
  cases o with
  | set f cycle =>
    rw [perform, deadline_set, Operation.deadline?]
    split <;> rfl
  | clear f =>
    rw [perform, clear, deadline_set, Operation.deadline?]
    split <;> rfl
  | stallTo cycle => exact s.deadline_stallTo cycle e

theorem Exact.perform (h : s.Exact) (o : Operation) : (s.perform o).Exact := by
  cases o with
  | set e cycle => exact exact_set s e cycle
  | clear e => exact exact_set s e never
  | stallTo cycle => exact exact_stallTo h cycle

theorem isGreatest_stallUntil_perform (s : Schedule) (o : Operation) :
    IsGreatest {c | c = s.stallUntil ∨ .stallTo c = o} (s.perform o).stallUntil := by
  have still (same : (s.perform o).stallUntil = s.stallUntil) (other : ∀ c, .stallTo c ≠ o) :
      IsGreatest {c | c = s.stallUntil ∨ .stallTo c = o} (s.perform o).stallUntil :=
    ⟨.inl same, fun c halt => UInt64.le_of_eq ((halt.resolve_right (other c)).trans same.symm)⟩
  cases o with
  | set e cycle => exact still (s.stallUntil_set e cycle) nofun
  | clear e => exact still (s.stallUntil_set e never) nofun
  | stallTo cycle =>
    rw [perform, stallUntil_stallTo]
    split
    · rename_i later
      refine ⟨.inr rfl, fun c halt => ?_⟩
      rcases halt with rfl | asked
      · exact UInt64.le_of_lt later
      · exact UInt64.le_of_eq (Operation.stallTo.inj asked)
    · rename_i longer
      refine ⟨.inl rfl, fun c halt => ?_⟩
      rcases halt with rfl | asked
      · exact UInt64.le_refl _
      · exact Operation.stallTo.inj asked ▸ UInt64.not_lt.1 longer

theorem deadline_performAll (s : Schedule) (operations : List Operation) (e : Event) :
    (s.performAll operations).deadline e = (lastDeadline? operations e).getD (s.deadline e) := by
  induction operations generalizing s with
  | nil => rfl
  | cons o operations ih =>
    have rest : (s.performAll (o :: operations)).deadline e =
        (lastDeadline? operations e).getD ((o.deadline? e).getD (s.deadline e)) := by
      rw [← deadline_perform]
      exact ih (s.perform o)
    rw [rest, lastDeadline?, lastDeadline?]
    cases given : o.deadline? e with
    | none => rw [List.filterMap_cons_none given, Option.getD_none]
    | some cycle =>
      rw [List.filterMap_cons_some given, List.getLast?_cons, Option.getD_some, Option.getD_some]

theorem Exact.performAll (h : s.Exact) (operations : List Operation) :
    (s.performAll operations).Exact := by
  induction operations generalizing s with
  | nil => exact h
  | cons o operations ih => exact ih (h.perform o)

theorem isGreatest_stallUntil (s : Schedule) (operations : List Operation) :
    IsGreatest {c | c = s.stallUntil ∨ .stallTo c ∈ operations}
      (s.performAll operations).stallUntil := by
  induction operations generalizing s with
  | nil => exact ⟨.inl rfl, fun c halt => UInt64.le_of_eq (halt.resolve_right nofun)⟩
  | cons o operations ih =>
    obtain ⟨found, most⟩ := ih (s.perform o)
    obtain ⟨found', most'⟩ := s.isGreatest_stallUntil_perform o
    have longer := most (.inl rfl)
    constructor
    · rcases found with same | mem
      · exact found'.imp same.trans fun asked => List.mem_cons.2 (.inl (same ▸ asked))
      · exact .inr (List.mem_cons_of_mem o mem)
    · rintro c (rfl | mem)
      · exact UInt64.le_trans (most' (.inl rfl)) longer
      · rcases List.mem_cons.1 mem with asked | mem
        · exact UInt64.le_trans (most' (.inr asked)) longer
        · exact most (.inr mem)

theorem Cleared.lastDeadline? {operations : List Operation} (h : Cleared operations e) :
    lastDeadline? operations e = some never := by
  obtain ⟨earlier, later, rfl, unset⟩ := h
  have cleared : (Operation.clear e).deadline? e = some never := if_pos rfl
  have unset : (later.filterMap (Operation.deadline? e)).getLast?.getD never = never := by
    cases last : (later.filterMap (Operation.deadline? e)).getLast? with
    | none => rfl
    | some cycle =>
      obtain ⟨o, mem, given⟩ := List.mem_filterMap.1 (List.mem_of_getLast? last)
      cases o with
      | set f cycle' =>
        obtain ⟨rfl, -⟩ := Option.ite_none_right_eq_some.1 given
        exact absurd mem (unset cycle')
      | clear f => exact (Option.some.inj (Option.ite_none_right_eq_some.1 given).2).symm
      | stallTo _ => cases given
  rw [Schedule.lastDeadline?, List.filterMap_append, List.filterMap_cons_some cleared,
    List.getLast?_append, List.getLast?_cons, unset, Option.some_or]

theorem Exact.isLeast_next (h : s.Exact) : IsLeast (Set.range s.deadline) s.next := by
  constructor
  · obtain ⟨e, le⟩ := earliest_le_iff.1 (UInt64.le_refl s.earliest)
    have same : s.deadline e = s.earliest :=
      UInt64.le_antisymm le (earliest_le_iff.2 ⟨e, UInt64.le_refl _⟩)
    exact ⟨e, same.trans h.symm⟩
  · rintro d ⟨e, rfl⟩
    exact h.next_le e

/-- A schedule forgets nothing and makes nothing up. After any operations each event has the deadline
that was set for it last, the minimum that is kept at hand is the least of these, and the halt is the
longest that was asked for. Something is due exactly if a deadline has come, and then it is the event
with the earliest deadline, of several the one that is declared first. What has been cleared is never
due. -/
theorem schedules_performAll (operations : List Operation) :
    let s := performAll {} operations
    (∀ e, s.deadline e = (lastDeadline? operations e).getD never) ∧
      IsLeast (Set.range s.deadline) s.next ∧
      IsGreatest {c | c = 0 ∨ .stallTo c ∈ operations} s.stallUntil ∧
      (∀ now, (s.due now).isSome ↔ ∃ e, s.deadline e ≤ now) ∧
      (∀ now e d, s.due now = some (e, d) ↔
        s.deadline e = d ∧ d ≤ now ∧ ∀ f, s.Precedes e f) ∧
      ∀ now < never, ∀ e, Cleared operations e → ∀ d, s.due now ≠ some (e, d) := by
  intro s
  have exact : s.Exact := Exact.performAll (s := {}) rfl operations
  have given : ∀ e, s.deadline e = (lastDeadline? operations e).getD never := by
    intro e
    refine (deadline_performAll {} operations e).trans ?_
    cases e <;> rfl
  refine ⟨given, exact.isLeast_next, isGreatest_stallUntil {} operations, ?_,
    fun _ _ _ => exact.due_eq_some_iff, ?_⟩
  · intro now
    rw [← Option.ne_none_iff_isSome, Ne, exact.due_eq_none_iff, UInt64.not_lt, exact,
      earliest_le_iff]
  · intro now soon e cleared d due
    obtain ⟨own, come, -⟩ := exact.due_eq_some_iff.1 due
    have far : s.deadline e = never := by rw [given, cleared.lastDeadline?, Option.getD_some]
    rw [← own, far] at come
    exact UInt64.not_le.2 soon come

example :
    let s := performAll {} [.set .timer4 80, .set .serialInReady 80, .set .lineFetch 70,
      .clear .lineFetch]
    s.due 79 = none ∧ s.due 100 = some (.serialInReady, 80) := by decide

end Atari800XL.Schedule
