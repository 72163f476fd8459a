import Mathlib.Data.List.Basic
import Mathlib.Data.Nat.ModEq
import Atari800XL.Ring

/-! A ring is a queue. What is put in comes out in its order as long as there is room, wherever the
elements lie in the array, and no operation ever reaches beyond the end of the array. -/

namespace Atari800XL.Ring

variable {α : Type}

inductive Operation (α : Type)
  | push (a : α)
  | take (n : Nat)
  | clear

def perform (r : Ring α) : Operation α → List α × Ring α
  | .push a => ([], r.push a)
  | .take n => r.take n
  | .clear => ([], r.clear)

def run {σ : Type} (perform : σ → Operation α → List α × σ) :
    σ → List (Operation α) → List (List α) × σ
  | s, [] => ([], s)
  | s, o :: operations =>
    let (taken, s) := perform s o
    let (later, s) := run perform s operations
    (taken :: later, s)

/-- The elements of a queue with room for so many. -/
structure Queue (α : Type) (capacity : Nat) where
  elements : List α
  fits : elements.length ≤ capacity

namespace Queue

variable {capacity : Nat}

def empty : Queue α capacity := ⟨[], Nat.zero_le _⟩

def push (q : Queue α capacity) (a : α) : Queue α capacity :=
  if room : q.elements.length < capacity then
    ⟨q.elements ++ [a], by rwa [List.length_append]⟩
  else q

def drop (q : Queue α capacity) (n : Nat) : Queue α capacity where
  elements := q.elements.drop n
  fits := by
    rw [List.length_drop]
    exact Nat.le_trans (Nat.sub_le _ _) q.fits

def perform (q : Queue α capacity) : Operation α → List α × Queue α capacity
  | .push a => ([], q.push a)
  | .take n => (q.elements.take n, q.drop n)
  | .clear => ([], empty)

end Queue

def rem? (n d : Nat) : Option Nat := if d = 0 then none else some (n % d)

def push? (r : Ring α) (a : α) : Option (Ring α) :=
  if r.count = r.capacity then some r
  else do
    let i ← rem? (r.start + r.count) r.capacity
    if inside : i < r.slots.size then
      some { r with slots := r.slots.set i a inside, count := r.count + 1 }
    else none

def read? (r : Ring α) : Nat → Option (List α × Ring α)
  | 0 => some ([], r)
  | n + 1 => do
    let a ← r.slots[r.start]?
    let start ← rem? (r.start + 1) r.capacity
    let (later, r) ← read? { r with start } n
    some (a :: later, r)

def take? (r : Ring α) (n : Nat) : Option (List α × Ring α) := do
  let n := min n r.count
  let (taken, r) ← r.read? n
  some (taken, { r with count := r.count - n })

def perform? (r : Ring α) : Operation α → Option (List α × Ring α)
  | .push a => (r.push? a).map ([], ·)
  | .take n => r.take? n
  | .clear => some ([], r.clear)

structure Sound (r : Ring α) : Prop where
  count : r.count ≤ r.capacity
  start : r.start < r.capacity ∨ r.start = 0

def window (r : Ring α) (n : Nat) : List α := (List.range n).filterMap fun i => r.slots[r.slot i]?

section

variable {r : Ring α}

theorem slot_lt (filled : 0 < r.capacity) (i : Nat) : r.slot i < r.capacity := Nat.mod_lt _ filled

theorem slot_ne {i j : Nat} (before : i < j) (inside : j < r.capacity) : r.slot i ≠ r.slot j := by
  intro same
  have places : i ≡ j [MOD r.capacity] := Nat.ModEq.add_left_cancel' r.start same
  exact Nat.ne_of_lt before (places.eq_of_lt_of_lt (Nat.lt_trans before inside) inside)

theorem window_succ (filled : 0 < r.capacity) (n : Nat) :
    ∃ a, r.slots[r.slot n]? = some a ∧ r.window (n + 1) = r.window n ++ [a] := by
  have inside : r.slot n < r.slots.size := slot_lt filled n
  refine ⟨_, Array.getElem?_eq_getElem inside, ?_⟩
  rw [window, List.range_succ, List.filterMap_append, List.filterMap_cons,
    Array.getElem?_eq_getElem inside]
  rfl

theorem length_window {n : Nat} (enough : n ≤ r.capacity) : (r.window n).length = n := by
  induction n with
  | zero => rfl
  | succ n ih =>
    obtain ⟨a, -, last⟩ := r.window_succ (Nat.zero_lt_of_lt enough) n
    rw [last, List.length_append, ih (Nat.le_of_succ_le enough), List.length_singleton]

theorem window_congr {r' : Ring α} {n : Nat}
    (same : ∀ i < n, r.slots[r.slot i]? = r'.slots[r'.slot i]?) : r.window n = r'.window n :=
  List.filterMap_congr fun i mem => same i (List.mem_range.1 mem)

theorem window_add (r : Ring α) (m n : Nat) :
    r.window (m + n) = r.window m ++ ({ r with start := r.slot m } : Ring α).window n := by
  rw [window, List.range_add, List.filterMap_append, List.filterMap_map]
  refine congrArg (r.window m ++ ·) (List.filterMap_congr fun i _ => ?_)
  show r.slots[r.slot (m + i)]? = r.slots[(r.slot m + i) % r.capacity]?
  rw [slot, slot, Nat.mod_add_mod, Nat.add_assoc]

namespace Sound

theorem create (capacity : Nat) (fill : α) : (create capacity fill).Sound :=
  ⟨Nat.zero_le _, .inr rfl⟩

theorem clear (r : Ring α) : r.clear.Sound := ⟨Nat.zero_le _, .inr rfl⟩

theorem length_toList (h : r.Sound) : r.toList.length = r.count := length_window h.count

theorem start_lt (h : r.Sound) (filled : 0 < r.capacity) : r.start < r.capacity :=
  h.start.elim id fun first => by rwa [first]

theorem slot_zero (h : r.Sound) : r.slot 0 = r.start := by
  rcases h.start with inside | first
  · exact Nat.mod_eq_of_lt inside
  · rw [slot, first, Nat.zero_mod]

end Sound

theorem push_of_full (full : r.count = r.capacity) (a : α) : r.push a = r := if_pos full

theorem push_of_room (room : r.count ≠ r.capacity) (a : α) :
    r.push a =
      { r with slots := r.slots.setIfInBounds (r.slot r.count) a, count := r.count + 1 } :=
  if_neg room

theorem capacity_push (r : Ring α) (a : α) : (r.push a).capacity = r.capacity := by
  by_cases full : r.count = r.capacity
  · rw [push_of_full full]
  · rw [push_of_room full]
    exact Array.size_setIfInBounds

theorem slots_push (room : r.count < r.capacity) (a : α) {i : Nat} (inside : i ≤ r.count) :
    (r.push a).slots[(r.push a).slot i]? = if i = r.count then some a else r.slots[r.slot i]? := by
  have start : (r.push a).start = r.start := by
    rw [push_of_room (Nat.ne_of_lt room)]
  have same : (r.push a).slot i = r.slot i := by
    rw [slot, slot, capacity_push, start]
  rw [same, push_of_room (Nat.ne_of_lt room), Array.getElem?_setIfInBounds]
  by_cases last : i = r.count
  · subst last
    have there : r.slot r.count < r.slots.size := slot_lt (Nat.zero_lt_of_lt room) _
    rw [if_pos rfl, if_pos there, if_pos rfl]
  · rw [if_neg (slot_ne (Nat.lt_of_le_of_ne inside last) room).symm, if_neg last]

namespace Sound

theorem push (h : r.Sound) (a : α) : (r.push a).Sound := by
  by_cases full : r.count = r.capacity
  · rwa [push_of_full full]
  · have room : r.count < r.capacity := Nat.lt_of_le_of_ne h.count full
    have capacity := r.capacity_push a
    rw [push_of_room full] at capacity ⊢
    exact ⟨by rwa [capacity], by rw [capacity]; exact h.start⟩

theorem take (h : r.Sound) (n : Nat) : (r.take n).2.Sound where
  count := Nat.le_trans (Nat.sub_le _ _) h.count
  start := by
    rcases Nat.eq_zero_or_pos r.capacity with none | filled
    · have nothing : min n r.count = 0 := by
        have := h.count
        omega
      have first : r.start = 0 := h.start.resolve_left (by omega)
      right
      show r.slot (min n r.count) = 0
      rw [nothing, h.slot_zero, first]
    · exact .inl (slot_lt filled _)

theorem toList_push (h : r.Sound) (a : α) :
    (r.push a).toList = if r.count < r.capacity then r.toList ++ [a] else r.toList := by
  by_cases full : r.count = r.capacity
  · rw [push_of_full full, if_neg (Nat.not_lt_of_le (Nat.le_of_eq full.symm))]
  · have room : r.count < r.capacity := Nat.lt_of_le_of_ne h.count full
    have filled : 0 < (r.push a).capacity := by
      rw [capacity_push]
      exact Nat.zero_lt_of_lt room
    have count : (r.push a).count = r.count + 1 := by
      rw [push_of_room full]
    obtain ⟨b, last, whole⟩ := (r.push a).window_succ filled r.count
    rw [slots_push room a (Nat.le_refl _), if_pos rfl] at last
    have others : (r.push a).window r.count = r.window r.count := by
      refine window_congr fun i before => ?_
      rw [slots_push room a (Nat.le_of_lt before), if_neg (Nat.ne_of_lt before)]
    rw [others, ← Option.some.inj last] at whole
    rw [if_pos room, toList, count]
    exact whole

theorem window_take (h : r.Sound) (n : Nat) :
    r.window (min n r.count) = r.toList.take n ∧ (r.take n).2.toList = r.toList.drop n := by
  have parts : min n r.count + (r.count - min n r.count) = r.count := by omega
  have whole := r.window_add (min n r.count) (r.count - min n r.count)
  rw [parts] at whole
  have first : (r.window (min n r.count)).length = min n r.count :=
    length_window (Nat.le_trans (Nat.min_le_right _ _) h.count)
  have same : min n r.toList.length = min (min n r.count) r.toList.length := by
    rw [h.length_toList]
    omega
  have list : r.toList = r.window r.count := rfl
  rw [List.take_eq_take_iff.2 same, List.drop_eq_drop_iff.2 same, list, whole,
    List.take_left' first, List.drop_left' first]
  exact ⟨rfl, rfl⟩

theorem taken_take (h : r.Sound) (n : Nat) : (r.take n).1 = r.window (min n r.count) := by
  rw [(h.window_take n).1]
  refine List.take_eq_take_iff.2 ?_
  rw [h.length_toList]
  omega

end Sound

theorem rem?_of_pos {d : Nat} (pos : 0 < d) (n : Nat) : rem? n d = some (n % d) :=
  if_neg (Nat.ne_of_gt pos)

namespace Sound

theorem push? (h : r.Sound) (a : α) : r.push? a = some (r.push a) := by
  by_cases full : r.count = r.capacity
  · rw [push_of_full full]
    exact if_pos full
  · have room : r.count < r.capacity := Nat.lt_of_le_of_ne h.count full
    have filled : 0 < r.capacity := Nat.zero_lt_of_lt room
    have inside : r.slot r.count < r.slots.size := slot_lt filled _
    have place : rem? (r.start + r.count) r.capacity = some (r.slot r.count) :=
      rem?_of_pos filled _
    rw [Ring.push?, if_neg full, place, push_of_room full, Array.setIfInBounds, dif_pos inside]
    exact dif_pos inside

theorem read? (h : r.Sound) {n : Nat} (enough : n ≤ r.count) :
    r.read? n = some (r.window n, { r with start := r.slot n }) := by
  induction n generalizing r with
  | zero =>
    rw [h.slot_zero]
    rfl
  | succ n ih =>
    have filled : 0 < r.capacity := Nat.lt_of_lt_of_le (Nat.zero_lt_of_lt enough) h.count
    have next : rem? (r.start + 1) r.capacity = some (r.slot 1) := rem?_of_pos filled _
    have rest := ih (r := { r with start := r.slot 1 })
      ⟨h.count, .inl (slot_lt filled 1)⟩ (Nat.le_of_succ_le enough)
    obtain ⟨a, here, first⟩ := r.window_succ filled 0
    rw [h.slot_zero] at here
    have moved : ({ r with start := r.slot 1 } : Ring α).slot n = r.slot (1 + n) := by
      show (r.slot 1 + n) % r.capacity = _
      rw [slot, slot, Nat.mod_add_mod, Nat.add_assoc]
    rw [moved] at rest
    rw [Nat.add_comm n 1, window_add, first, Nat.add_comm 1 n, Ring.read?, here, next]
    show (Ring.read? { r with start := r.slot 1 } n).bind _ = _
    rw [rest, Nat.add_comm n 1]
    rfl

theorem take? (h : r.Sound) (n : Nat) : r.take? n = some (r.take n) := by
  rw [Ring.take?, h.read? (Nat.min_le_right _ _), ← h.taken_take]
  rfl

theorem perform? (h : r.Sound) (o : Operation α) : r.perform? o = some (r.perform o) :=
  match o with
  | .push a => by
    rw [Ring.perform?, h.push?]
    rfl
  | .take n => h.take? n
  | .clear => rfl

end Sound

structure Holds {capacity : Nat} (r : Ring α) (q : Queue α capacity) : Prop where
  sound : r.Sound
  capacity : r.capacity = capacity
  elements : r.toList = q.elements

namespace Holds

theorem create (capacity : Nat) (fill : α) :
    Holds (create capacity fill) (Queue.empty : Queue α capacity) where
  sound := .create capacity fill
  capacity := Array.size_replicate
  elements := rfl

variable {capacity : Nat} {q : Queue α capacity}

theorem count (h : Holds r q) : r.count = q.elements.length := by
  rw [← h.elements, h.sound.length_toList]

theorem push (h : Holds r q) (a : α) : Holds (r.push a) (q.push a) := by
  have elements := h.sound.toList_push a
  rw [h.count, h.capacity, h.elements] at elements
  unfold Queue.push
  split
  · rename_i room
    rw [if_pos room] at elements
    exact ⟨h.sound.push a, (r.capacity_push a).trans h.capacity, elements⟩
  · rename_i full
    rw [if_neg full] at elements
    exact ⟨h.sound.push a, (r.capacity_push a).trans h.capacity, elements⟩

theorem perform (h : Holds r q) (o : Operation α) :
    (r.perform o).1 = (q.perform o).1 ∧ Holds (r.perform o).2 (q.perform o).2 :=
  match o with
  | .push a => ⟨rfl, h.push a⟩
  | .take n => by
    obtain ⟨taken, left⟩ := h.sound.window_take n
    rw [h.elements] at taken left
    exact ⟨(h.sound.taken_take n).trans taken, h.sound.take n, h.capacity, left⟩
  | .clear => ⟨rfl, .clear r, h.capacity, rfl⟩

theorem run (h : Holds r q) (operations : List (Operation α)) :
    (run Ring.perform r operations).1 = (run Queue.perform q operations).1 ∧
      Holds (run Ring.perform r operations).2 (run Queue.perform q operations).2 := by
  induction operations generalizing r q with
  | nil => exact ⟨rfl, h⟩
  | cons o operations ih =>
    obtain ⟨taken, next⟩ := h.perform o
    obtain ⟨later, last⟩ := ih next
    exact ⟨congrArg₂ List.cons taken later, last⟩

end Holds

end

/-- A ring is a queue, whatever its capacity is. With any operations it gives out what the queue
gives out, and holds the elements that the queue holds, in their order and no more of them than
there is room for. No slot that an operation reaches lies outside of the array, and no remainder is
taken by zero. -/
theorem queues_run (capacity : Nat) (fill : α) (operations : List (Operation α)) :
    let ring := run perform (create capacity fill) operations
    let queue := run Queue.perform (Queue.empty : Queue α capacity) operations
    ring.1 = queue.1 ∧ ring.2.toList = queue.2.elements ∧
      ring.2.count = queue.2.elements.length ∧ ring.2.count ≤ capacity ∧
      ring.2.capacity = capacity ∧ (capacity = 0 ∨ ring.2.start < capacity) ∧
      ∀ o, ring.2.perform? o = some (ring.2.perform o) := by
  intro ring queue
  obtain ⟨taken, held⟩ := (Holds.create capacity fill).run operations
  refine ⟨taken, held.elements, held.count, ?_, held.capacity, ?_, held.sound.perform?⟩
  · rw [held.count]
    exact queue.2.fits
  · have inside := held.sound.start_lt
    rw [held.capacity] at inside
    exact (Nat.eq_zero_or_pos capacity).imp id inside

example :
    let pushes : List (Operation Nat) := (List.range 6).map .push
    (run perform (create 4 0) (pushes ++ [.take 3, .push 6, .push 7, .take 8])).1 =
      [[], [], [], [], [], [], [0, 1, 2], [], [], [3, 6, 7]] := by decide

end Atari800XL.Ring
