import Atari800XL.Proofs.Machine.Invariant

namespace Atari800XL

inductive Board.Offers (b : Board) : Observation → Prop
  | started {cycle : UInt64} : b.Sound → cycle < b.schedule.next → Offers b (.started cycle)
  | wrote (address : UInt16) (value : UInt8) : Offers b (.wrote b address value)
  | handled {cpu : Cpu} {event : Event} {deadline : UInt64} : b.Sound →
      b.schedule.deadline event = deadline → (∀ other, deadline ≤ b.schedule.deadline other) →
      Offers b (.handled cpu b event deadline)

namespace Observation

variable {α : Type} (f : Observation → Option α)

def collect (trace : List Observation) : List α := (trace.filterMap f).reverse

variable {f} {a : Observation} {trace : List Observation}

theorem collect_cons (f : Observation → Option α) (a : Observation) (trace : List Observation) :
    collect f (a :: trace) = collect f trace ++ (f a).toList := by
  cases h : f a with
  | none =>
    rw [collect, List.filterMap_cons_none h, collect, Option.toList_none, List.append_nil]
  | some x =>
    rw [collect, List.filterMap_cons_some h, List.reverse_cons, collect, Option.toList_some]

theorem collect_cons_of_none (h : f a = none) : collect f (a :: trace) = collect f trace := by
  rw [collect_cons, h, Option.toList_none, List.append_nil]

theorem collect_cons_of_some {x : α} (h : f a = some x) :
    collect f (a :: trace) = collect f trace ++ [x] := by
  rw [collect_cons, h, Option.toList_some]

theorem mem_collect {x : α} : x ∈ collect f trace ↔ ∃ a ∈ trace, f a = some x := by
  rw [collect, List.mem_reverse, List.mem_filterMap]

end Observation

namespace Observed

def Held (P : Observed → Prop) (lines : Nat) (a : Observation) (earlier : List Observation) : Prop :=
  ∃ board : Board, board.Offers a ∧ board.antic.linesPerFrame = lines ∧ P { board, trace := earlier }

structure Recorded (P : Observed → Prop) (o : Observed) : Prop where
  now : P o
  before : ∀ later a earlier, o.trace = later ++ a :: earlier →
    Held P o.board.antic.linesPerFrame a earlier

variable {P : Observed → Prop}

namespace Recorded

variable {o : Observed} (h : Recorded P o)
include h

theorem keep {board : Board} (lines : board.antic.linesPerFrame = o.board.antic.linesPerFrame)
    (now : P { o with board }) : Recorded P { o with board } := by
  refine ⟨now, ?_⟩
  dsimp only
  rw [lines]
  exact h.before

theorem cons {board : Board} {a : Observation}
    (lines : board.antic.linesPerFrame = o.board.antic.linesPerFrame) (offers : o.board.Offers a)
    (now : P { board, trace := a :: o.trace }) :
    Recorded P { board, trace := a :: o.trace } where
  now := now
  before later a' earlier same := by
    dsimp only at same ⊢
    rw [lines]
    cases later with
    | nil =>
      obtain ⟨rfl, rfl⟩ := List.cons.inj same
      exact ⟨o.board, offers, rfl, h.now⟩
    | cons x later =>
      obtain ⟨rfl, rest⟩ := List.cons.inj same
      exact h.before later a' earlier rest

end Recorded

theorem Invariant.recorded (hP : Invariant P) : Invariant (Recorded P) where
  reset m := ⟨hP.reset m, fun later a earlier same => by simp at same⟩
  quiet h quiet := h.keep (congrArg Antic.linesPerFrame quiet.antic) (hP.quiet h.now quiet)
  start h sound fits next stall :=
    h.cons rfl (.started sound next) (hP.start h.now sound fits next stall)
  write o address value h :=
    h.cons (congrArg Antic.Place.linesPerFrame (o.board.place_write address value))
      (.wrote address value) (hP.write o address value h.now)
  settle {o cpu event deadline} h sound fits own first :=
    h.cons (o.board.linesPerFrame_settle event deadline) (.handled sound own first)
      (hP.settle h.now sound fits own first)

end Observed

theorem Session.Reachable.held {P : Observed → Prop} (hP : Observed.Invariant P) {s : Session}
    (h : s.Reachable) {later earlier : List Observation} {a : Observation}
    (same : s.observed.trace = later ++ a :: earlier) :
    Observed.Held P s.observed.board.antic.linesPerFrame a earlier :=
  (hP.recorded.reachable h).2.before later a earlier same

end Atari800XL
