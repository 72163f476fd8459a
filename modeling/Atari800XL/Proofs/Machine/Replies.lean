import Atari800XL.Proofs.Machine.Invariant

namespace Atari800XL

open Disk

/-- When the bytes of an answer arrive that is timed from the cycle `t`: each is timed from the one
before. -/
def timetable (t : Nat) : List Reply → List (Nat × UInt8)
  | [] => []
  | r :: rest => (t + r.delay.toNat, r.byte) :: timetable (t + r.delay.toNat) rest

theorem le_of_mem_timetable {t : Nat} {replies : List Reply} {e : Nat × UInt8}
    (h : e ∈ timetable t replies) : t ≤ e.1 := by
  induction replies generalizing t with
  | nil => cases h
  | cons r rest ih =>
    rcases List.mem_cons.1 h with rfl | h
    · exact Nat.le_add_right _ _
    · exact Nat.le_trans (Nat.le_add_right _ _) (ih h)

def Board.pending (b : Board) : List (Nat × UInt8) :=
  match b.sio.replies with
  | [] => []
  | r :: rest => (b.replyDeadline.toNat, r.byte) :: timetable b.replyDeadline.toNat rest

namespace Observation

def deliveries (trace : List Observation) : List (Nat × UInt8) :=
  (trace.filterMap Observation.delivery?).reverse

def owed : List Observation → List (Nat × UInt8)
  | [] => []
  | a :: earlier =>
    match a.answer? with
    | some (t, replies) => timetable t.toNat replies
    | none => if a.delivery?.isSome then (owed earlier).tail else owed earlier

def Punctual : List Observation → Prop
  | [] => True
  | a :: earlier =>
    Punctual earlier ∧ (∀ e, a.delivery? = some e → (owed earlier).head? = some e) ∧
      ∀ t, a = .started t → ∀ e ∈ owed earlier, t.toNat < e.1

def Silent (a : Observation) : Prop := a.answer? = none ∧ a.delivery? = none

variable {a : Observation} {newer later earlier : List Observation}

theorem Silent.owed (h : a.Silent) : owed (a :: earlier) = owed earlier := by
  rw [Observation.owed, h.1, h.2]
  rfl

theorem Punctual.of_append (h : Punctual (newer ++ earlier)) : Punctual earlier := by
  induction newer with
  | nil => exact h
  | cons a newer ih => exact ih h.1

theorem owed_of_delivery {e : Nat × UInt8} (kept : a.answer? = none)
    (delivered : a.delivery? = some e) : owed (a :: earlier) = (owed earlier).tail := by
  rw [owed, kept, delivered]
  rfl

theorem deliveries_cons (trace : List Observation) :
    deliveries (a :: trace) = deliveries trace ++ a.delivery?.toList := by
  cases h : a.delivery? with
  | none =>
    rw [deliveries, List.filterMap_cons_none h, deliveries, Option.toList_none, List.append_nil]
  | some e =>
    rw [deliveries, List.filterMap_cons_some h, List.reverse_cons, deliveries, Option.toList_some]

theorem Punctual.deliveries_append_owed (h : Punctual (later ++ earlier))
    (kept : ∀ a ∈ later, a.answer? = none) :
    deliveries later ++ owed (later ++ earlier) = owed earlier := by
  induction later with
  | nil => rfl
  | cons a later ih =>
    have rest := ih h.1 fun x mem => kept x (List.mem_cons_of_mem a mem)
    have none := kept a List.mem_cons_self
    rw [List.cons_append, deliveries_cons]
    cases delivered : a.delivery? with
    | none =>
      rw [Silent.owed ⟨none, delivered⟩, Option.toList_none, List.append_nil]
      exact rest
    | some e =>
      -- What arrives is what was owed first, so that it moves from one list to the other.
      obtain ⟨due, paid⟩ := List.head?_eq_some_iff.1 (h.2.1 e delivered)
      change owed (later ++ earlier) = e :: due at paid
      rw [owed_of_delivery none delivered, ← rest, paid, Option.toList_some, List.append_assoc]
      rfl

end Observation

namespace Observed

/-- The drives and their deadline do what has been owed since the latest answer. -/
structure RepliesTimed (o : Observed) : Prop where
  armed : o.board.replyDeadline = never ↔ o.board.sio.replies = []
  timed : ∀ r ∈ o.board.sio.replies, r.Timed
  clock : Fits o.board.clock
  owed : Observation.owed o.trace = o.board.pending
  punctual : Observation.Punctual o.trace

namespace RepliesTimed

theorem pending_congr {b b' : Board} (replies : b'.sio.replies = b.sio.replies)
    (deadline : b'.replyDeadline = b.replyDeadline) : b'.pending = b.pending := by
  rw [Board.pending, replies, deadline, Board.pending]

theorem silent {o : Observed} (h : o.RepliesTimed) {board : Board} {a : Observation}
    (silent : a.Silent) (replies : board.sio.replies = o.board.sio.replies)
    (deadline : board.replyDeadline = o.board.replyDeadline) (clock : Fits board.clock)
    (due : ∀ t, a = .started t → ∀ e ∈ o.board.pending, t.toNat < e.1) :
    RepliesTimed { board, trace := a :: o.trace } where
  armed := by
    rw [replies, deadline]
    exact h.armed
  timed := by
    rw [replies]
    exact h.timed
  clock := clock
  owed := by
    rw [silent.owed, h.owed, pending_congr replies deadline]
  punctual := by
    refine ⟨h.punctual, ?_, ?_⟩
    · intro e found
      rw [silent.2] at found
      cases found
    · rw [h.owed]
      exact due

theorem reset (m : Machine) : RepliesTimed { board := m.hardReset.board } where
  armed := by
    have deadline : m.hardReset.board.replyDeadline = never :=
      congrArg Schedule.serialInReady m.schedule_hardReset
    exact ⟨fun _ => m.replies_hardReset, fun _ => deadline⟩
  timed := by
    rw [m.replies_hardReset]
    exact nofun
  clock := by
    rw [m.clock_hardReset]
    decide
  owed := by
    rw [Board.pending, m.replies_hardReset]
    rfl
  punctual := trivial

theorem quiet {o : Observed} (h : o.RepliesTimed) {board : Board} (quiet : o.board.Quiet board) :
    RepliesTimed { o with board } where
  armed := by
    rw [Board.replyDeadline, quiet.schedule, quiet.sio]
    exact h.armed
  timed := by
    rw [quiet.sio]
    exact h.timed
  clock := by
    rw [quiet.clock]
    exact h.clock
  owed := by
    rw [h.owed]
    refine (pending_congr ?_ ?_).symm
    · rw [quiet.sio]
    · rw [Board.replyDeadline, quiet.schedule]
  punctual := h.punctual

theorem due_of_next {o : Observed} (sound : o.board.Sound) {cycle : UInt64}
    (next : cycle < o.board.schedule.next) {e : Nat × UInt8} (owed : e ∈ o.board.pending) :
    cycle.toNat < e.1 := by
  have first : cycle.toNat < o.board.replyDeadline.toNat :=
    UInt64.lt_iff_toNat_lt.1 (UInt64.lt_of_lt_of_le next (sound.exact.next_le .serialInReady))
  unfold Board.pending at owed
  split at owed
  · cases owed
  · rcases List.mem_cons.1 owed with rfl | owed
    · exact first
    · exact Nat.lt_of_lt_of_le first (le_of_mem_timetable owed)

theorem start {o : Observed} (h : o.RepliesTimed) (sound : o.board.Sound) {cycle : UInt64}
    (fits : Fits cycle) (next : cycle < o.board.schedule.next) : (o.start cycle).RepliesTimed := by
  refine h.silent ⟨rfl, rfl⟩ rfl rfl fits ?_
  intro t same e owed
  cases same
  exact due_of_next sound next owed

theorem add_delay {cycle : UInt64} (fits : Fits cycle) {r : Reply} (timed : r.Timed) :
    (cycle + r.delay).toNat = cycle.toNat + r.delay.toNat ∧ cycle + r.delay ≠ never :=
  fits.add (Nat.le_trans (UInt64.le_iff_toNat_le.1 timed.2) (by decide))

theorem write_of_renewed {o : Observed} (h : o.RepliesTimed) {address : UInt16} {value : UInt8}
    (sends : o.board.sends address = true)
    (renewed : (o.board.sio.putByte o.board.rack value).renewed = true) :
    RepliesTimed (Bus.write o address value) := by
  obtain ⟨pokey, schedule, -, written⟩ := Board.write_of_sends sends value
  have answers :=
    ((Disk.Sio.answers_putByte o.board.sio o.board.rack value).renewed renewed).wellTimed
  have answer : (Observation.wrote o.board address value).answer? =
      some (o.board.clock, (o.board.sio.putByte o.board.rack value).sio.replies) := by
    simp only [Observation.answer?, sends, renewed, Bool.and_self, if_true]
  obtain ⟨r, rest, replies⟩ := List.exists_cons_of_ne_nil answers.1
  have timed : r.Timed := answers.2 r (replies ▸ List.mem_cons_self)
  have sio : (o.board.write address value).sio = (o.board.sio.putByte o.board.rack value).sio := by
    rw [written]
    exact Board.sio_sendToDrives _ value
  have deadline : (o.board.write address value).replyDeadline = o.board.clock + r.delay := by
    rw [written]
    exact Board.replyDeadline_sendToDrives_of_renewed (b := { o.board with pokey, schedule })
      renewed replies
  obtain ⟨sum, ne⟩ := add_delay h.clock timed
  refine
    { armed := ?_
      timed := ?_
      clock := ?_
      owed := ?_
      punctual := ⟨h.punctual, ?_, ?_⟩ }
  · show (o.board.write address value).replyDeadline = never ↔
      (o.board.write address value).sio.replies = []
    rw [deadline, sio, replies]
    exact ⟨fun same => absurd same ne, fun empty => absurd empty (List.cons_ne_nil r rest)⟩
  · show ∀ r ∈ (o.board.write address value).sio.replies, r.Timed
    rw [sio]
    exact answers.2
  · show Fits (o.board.write address value).clock
    rw [Board.clock_write]
    exact h.clock
  · show Observation.owed (.wrote o.board address value :: o.trace) =
      (o.board.write address value).pending
    rw [Observation.owed, answer, Board.pending, deadline, sio, replies, sum]
    rfl
  · intro e found
    cases found
  · intro t same
    cases same

theorem write_of_kept {o : Observed} (h : o.RepliesTimed) {address : UInt16} {value : UInt8}
    (sends : o.board.sends address = true)
    (kept : (o.board.sio.putByte o.board.rack value).renewed = false) :
    RepliesTimed (Bus.write o address value) := by
  obtain ⟨pokey, schedule, sets, written⟩ := Board.write_of_sends sends value
  have same : schedule.serialInReady = o.board.replyDeadline :=
    sets.deadline (e := .serialInReady) Bool.false_ne_true
  refine h.silent ⟨?_, rfl⟩ ?_ ?_ ?_ ?_
  · simp only [Observation.answer?, sends, kept, Bool.and_false]
    rfl
  · rw [written, Board.sio_sendToDrives]
    exact (Disk.Sio.answers_putByte o.board.sio o.board.rack value).kept kept
  · rw [written]
    have left := Board.replyDeadline_sendToDrives_of_kept (b := { o.board with pokey, schedule })
      kept fun expected => h.armed.1 (same.symm.trans expected)
    exact left.trans same
  · rw [Board.clock_write]
    exact h.clock
  · intro t same
    cases same

theorem write {o : Observed} (h : o.RepliesTimed) (address : UInt16) (value : UInt8) :
    RepliesTimed (Bus.write o address value) := by
  cases sends : o.board.sends address with
  | true =>
    cases renewed : (o.board.sio.putByte o.board.rack value).renewed with
    | true => exact h.write_of_renewed sends renewed
    | false => exact h.write_of_kept sends renewed
  | false =>
    obtain ⟨replies, deadline⟩ := Board.replies_write_of_not_sends sends value
    refine h.silent ⟨?_, rfl⟩ replies deadline ?_ ?_
    · simp only [Observation.answer?, sends, Bool.false_and]
      rfl
    · rw [Board.clock_write]
      exact h.clock
    · intro t same
      cases same

theorem pending_head {b : Board} {deadline : UInt64} (due : b.replyDeadline = deadline) {r : Reply}
    {rest : List Reply} (h : b.sio.replies = r :: rest) :
    b.pending = (deadline.toNat, r.byte) :: timetable deadline.toNat rest := by
  rw [Board.pending, h, due]

theorem settle_serialInReady {o : Observed} (h : o.RepliesTimed) (sound : o.board.Sound) {cpu : Cpu}
    {deadline : UInt64} (fits : Fits deadline) (due : o.board.replyDeadline = deadline) :
    RepliesTimed
      { board := o.board.settle .serialInReady deadline,
        trace := .handled cpu o.board .serialInReady deadline :: o.trace } := by
  have ne : deadline ≠ never := by
    intro same
    rw [same] at fits
    revert fits
    decide
  -- The event is expected, so that the drives do have a byte for it.
  have waiting : o.board.sio.replies ≠ [] := fun empty =>
    ne (due.symm.trans (h.armed.2 empty))
  obtain ⟨r, rest, replies⟩ := List.exists_cons_of_ne_nil waiting
  have timed : ∀ r ∈ rest, r.Timed := fun x mem =>
    h.timed x (replies ▸ List.mem_cons_of_mem r mem)
  obtain ⟨left, input, next⟩ := Board.settle_serialInReady replies deadline
  have arrived : (Observation.handled cpu o.board .serialInReady deadline).delivery? =
      some (deadline.toNat, r.byte) := by
    have handled := Board.pushed_handle sound.low cpu .serialInReady deadline
    rw [Observation.delivery?, handled.serialInput, input]
  have pending := pending_head due replies
  refine
    { armed := ?_
      timed := ?_
      clock := ?_
      owed := ?_
      punctual := ⟨h.punctual, ?_, ?_⟩ }
  · show (o.board.settle .serialInReady deadline).replyDeadline = never ↔
      (o.board.settle .serialInReady deadline).sio.replies = []
    rw [left, next]
    cases rest with
    | nil => exact ⟨fun _ => rfl, fun _ => rfl⟩
    | cons x rest =>
      have ne := (add_delay fits (timed x List.mem_cons_self)).2
      exact ⟨fun same => absurd same ne, fun empty => absurd empty (List.cons_ne_nil x rest)⟩
  · rw [left]
    exact timed
  · rw [Board.clock_settle]
    exact fits
  · rw [Observation.owed_of_delivery rfl arrived, h.owed, pending, List.tail_cons]
    cases rest with
    | nil =>
      rw [Board.pending, left]
      rfl
    | cons x rest =>
      have sum := (add_delay fits (timed x List.mem_cons_self)).1
      rw [pending_head next left, timetable, ← sum]
      rfl
  · intro e found
    rw [arrived] at found
    rw [h.owed, pending, ← found]
    rfl
  · intro t same
    cases same

theorem settle {o : Observed} (h : o.RepliesTimed) (sound : o.board.Sound) {cpu : Cpu}
    {event : Event} {deadline : UInt64} (fits : Fits deadline)
    (own : o.board.schedule.deadline event = deadline) :
    RepliesTimed
      { board := o.board.settle event deadline,
        trace := .handled cpu o.board event deadline :: o.trace } := by
  by_cases serial : event = .serialInReady
  · subst serial
    exact h.settle_serialInReady sound fits own
  · have none : (Observation.handled cpu o.board event deadline).delivery? = none := by
      cases event <;> first | exact absurd rfl serial | rfl
    refine h.silent ⟨rfl, none⟩ ?_ ?_ ?_ ?_
    · rw [Board.sio_settle serial]
    · exact Board.deadline_settle (Ne.symm serial) nofun o.board deadline
    · rw [Board.clock_settle]
      exact fits
    · intro t same
      cases same

theorem invariant : Observed.Invariant RepliesTimed where
  reset := reset
  quiet h still := h.quiet still
  start h sound fits next _ := h.start sound fits next
  write _ address value h := h.write address value
  settle h sound fits own _ := h.settle sound fits own

end RepliesTimed

end Observed

end Atari800XL
