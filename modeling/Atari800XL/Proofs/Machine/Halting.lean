import Atari800XL.Proofs.Machine.Programs

namespace Atari800XL

open Display

structure LineTimed (line stall : Nat) (trace : List Observation) : Prop where
  boundary : 0 < line ∧ cyclesPerLine.toNat ∣ line
  stall_le : stall ≤ line
  starts : ∀ t, .started t ∈ trace → t.toNat < line
  lines : ∀ a ∈ trace, ∀ start taken, a.line? = some (start, taken) → start.toNat + taken ≤ stall
  waits : ∀ a ∈ trace, ∀ wait, a.wait? = some wait → wait.toNat ≤ stall
  apart : ∀ t, .started t ∈ trace → ∀ a ∈ trace, ∀ start taken, a.line? = some (start, taken) →
    t.toNat < start.toNat ∨ start.toNat + taken ≤ t.toNat
  after : trace.Pairwise fun later earlier =>
    ∀ t wait, later = .started t → earlier.wait? = some wait → wait ≤ t
  halts : ∀ before address value, .wrote before address value ∈ trace →
    before.asksToWait address = true →
    (before.write address value).schedule.stallUntil = before.schedule.lineFetch ∧
      (before.write address value).schedule.lineFetch = before.schedule.lineFetch ∧
        cyclesPerLine.toNat ∣ before.schedule.lineFetch.toNat

namespace LineTimed

variable {line stall : Nat} {trace : List Observation}

theorem nil (boundary : 0 < line ∧ cyclesPerLine.toNat ∣ line) : LineTimed line 0 [] where
  boundary := boundary
  stall_le := Nat.zero_le line
  starts _ mem := absurd mem List.not_mem_nil
  lines _ mem := absurd mem List.not_mem_nil
  waits _ mem := absurd mem List.not_mem_nil
  apart _ mem := absurd mem List.not_mem_nil
  after := .nil
  halts _ _ _ mem := absurd mem List.not_mem_nil

theorem cons (h : LineTimed line stall trace) {line' stall' : Nat} {a : Observation}
    (boundary : 0 < line' ∧ cyclesPerLine.toNat ∣ line') (onward : line ≤ line')
    (longer : stall ≤ stall') (stall_le : stall' ≤ line')
    (starts : ∀ t, a = .started t → stall ≤ t.toNat ∧ t.toNat < line')
    (lines : ∀ start taken, a.line? = some (start, taken) →
      start.toNat = line ∧ start.toNat + taken ≤ stall')
    (waits : ∀ wait, a.wait? = some wait → wait.toNat ≤ stall')
    (halts : ∀ before address value, a = .wrote before address value →
      before.asksToWait address = true →
      (before.write address value).schedule.stallUntil = before.schedule.lineFetch ∧
        (before.write address value).schedule.lineFetch = before.schedule.lineFetch ∧
          cyclesPerLine.toNat ∣ before.schedule.lineFetch.toNat) :
    LineTimed line' stall' (a :: trace) where
  boundary := boundary
  stall_le := stall_le
  starts t mem := by
    rcases List.mem_cons.1 mem with same | mem
    · exact (starts t same.symm).2
    · exact Nat.lt_of_lt_of_le (h.starts t mem) onward
  lines x mem start taken found := by
    rcases List.mem_cons.1 mem with rfl | mem
    · exact (lines start taken found).2
    · exact Nat.le_trans (h.lines x mem start taken found) longer
  waits x mem wait found := by
    rcases List.mem_cons.1 mem with rfl | mem
    · exact waits wait found
    · exact Nat.le_trans (h.waits x mem wait found) longer
  apart t began x mem start taken found := by
    rcases List.mem_cons.1 began with same | before
    · rcases List.mem_cons.1 mem with rfl | mem
      · subst same
        cases found
      · exact .inr (Nat.le_trans (h.lines x mem start taken found) (starts t same.symm).1)
    · rcases List.mem_cons.1 mem with rfl | mem
      · rw [(lines start taken found).1]
        exact .inl (h.starts t before)
      · exact h.apart t before x mem start taken found
  after := by
    refine .cons ?_ h.after
    intro x mem t wait same found
    exact UInt64.le_iff_toNat_le.2 (Nat.le_trans (h.waits x mem wait found) (starts t same).1)
  halts before address value mem := by
    rcases List.mem_cons.1 mem with same | mem
    · exact halts before address value same.symm
    · exact h.halts before address value mem

end LineTimed

def Observed.LineTimed (o : Observed) : Prop :=
  Atari800XL.LineTimed o.board.schedule.lineFetch.toNat o.board.schedule.stallUntil.toNat o.trace

namespace Observed.LineTimed

theorem lineFetch_ne_never {o : Observed} (h : o.LineTimed) :
    o.board.schedule.lineFetch ≠ never := by
  intro same
  have divides := h.boundary.2
  rw [same] at divides
  revert divides
  decide

theorem waitForLine {o : Observed} (h : o.LineTimed) :
    (Antic.waitForLine o.board.schedule).stallUntil = o.board.schedule.lineFetch ∧
      (Antic.waitForLine o.board.schedule).lineFetch = o.board.schedule.lineFetch := by
  have expected : (o.board.schedule.lineFetch == never) = false :=
    beq_eq_false_iff_ne.2 h.lineFetch_ne_never
  have le : o.board.schedule.stallUntil ≤ o.board.schedule.lineFetch :=
    UInt64.le_iff_toNat_le.2 h.stall_le
  rw [Antic.waitForLine, expected]
  refine ⟨?_, Schedule.deadline_stallTo _ _ .lineFetch⟩
  rw [if_neg Bool.false_ne_true, Schedule.stallUntil_stallTo]
  split
  · rfl
  · exact UInt64.le_antisymm le (UInt64.not_lt.1 ‹_›)

theorem reset (m : Machine) : LineTimed { board := m.hardReset.board } := by
  unfold LineTimed
  rw [m.schedule_hardReset]
  exact .nil (by decide)

theorem start {o : Observed} (h : o.LineTimed) (sound : o.board.Sound) {cycle : UInt64}
    (next : cycle < o.board.schedule.next) (stall : o.board.schedule.stallUntil ≤ cycle) :
    (o.start cycle).LineTimed := by
  have line := UInt64.lt_of_lt_of_le next (sound.exact.next_le .lineFetch)
  refine LineTimed.cons h h.boundary (Nat.le_refl _) (Nat.le_refl _) h.stall_le ?_ ?_ ?_ ?_
  · intro t same
    cases same
    exact ⟨UInt64.le_iff_toNat_le.1 stall, UInt64.lt_iff_toNat_lt.1 line⟩
  · intro _ _ found
    cases found
  · intro _ found
    cases found
  · intro _ _ _ same
    cases same

theorem write {o : Observed} (h : o.LineTimed) (address : UInt16) (value : UInt8) :
    LineTimed (Bus.write o address value) := by
  show Atari800XL.LineTimed (o.board.write address value).schedule.lineFetch.toNat
    (o.board.write address value).schedule.stallUntil.toNat
    (.wrote o.board address value :: o.trace)
  cases asks : o.board.asksToWait address with
  | false =>
    have sets := Board.sets_write asks value
    have line : (o.board.write address value).schedule.lineFetch = o.board.schedule.lineFetch :=
      sets.deadline fun own => own.1 rfl
    have wait : (Observation.wrote o.board address value).wait? = none := by
      rw [Observation.wait?, asks]
      rfl
    rw [line, sets.stallUntil]
    refine LineTimed.cons h h.boundary (Nat.le_refl _) (Nat.le_refl _) h.stall_le ?_ ?_ ?_ ?_
    · intro t same
      cases same
    · intro _ _ found
      cases found
    · intro _ found
      rw [wait] at found
      cases found
    · intro before a v same asked
      cases same
      rw [asks] at asked
      cases asked
  | true =>
    have written := congrArg Board.schedule (Board.write_of_asksToWait asks value)
    have halted := h.waitForLine
    dsimp only at written
    rw [← written] at halted
    have wait : (Observation.wrote o.board address value).wait? =
        some o.board.schedule.lineFetch := by
      rw [Observation.wait?, asks]
      rfl
    rw [halted.1, halted.2]
    refine LineTimed.cons h h.boundary (Nat.le_refl _) h.stall_le (Nat.le_refl _) ?_ ?_ ?_ ?_
    · intro t same
      cases same
    · intro _ _ found
      cases found
    · intro _ found
      rw [wait] at found
      cases found
      exact Nat.le_refl _
    · intro before a v same _
      cases same
      exact ⟨halted.1, halted.2, h.boundary.2⟩

theorem settle {o : Observed} (h : o.LineTimed) {cpu : Cpu} {event : Event} {deadline : UInt64}
    (fits : Fits deadline) (own : o.board.schedule.deadline event = deadline) :
    LineTimed
      { board := o.board.settle event deadline,
        trace := .handled cpu o.board event deadline :: o.trace } := by
  unfold LineTimed
  by_cases line : event = .lineFetch
  · subst line
    -- Only here do a line begin and a halt grow without being asked for.
    obtain ⟨s, sets, settled⟩ := Board.schedule_settle_lineFetch o.board deadline
    have boundary : deadline.toNat = o.board.schedule.lineFetch.toNat :=
      congrArg UInt64.toNat own.symm
    have few := o.board.lineCycles_le deadline
    have taken : (UInt64.ofNat (o.board.lineCycles deadline)).toNat = o.board.lineCycles deadline :=
      UInt64.toNat_ofNat_of_lt' (Nat.lt_of_le_of_lt few (by decide))
    have halt : (deadline + UInt64.ofNat (o.board.lineCycles deadline)).toNat =
        deadline.toNat + o.board.lineCycles deadline := by
      rw [(fits.add _).1, taken]
      rw [taken]
      exact Nat.le_trans few (by decide)
    have next : (deadline + cyclesPerLine).toNat = deadline.toNat + cyclesPerLine.toNat :=
      (fits.add (by decide)).1
    have ahead : Antic.maxCycles ≤ cyclesPerLine.toNat := by decide
    have stall : (o.board.settle .lineFetch deadline).schedule.stallUntil.toNat =
        max o.board.schedule.stallUntil.toNat (deadline.toNat + o.board.lineCycles deadline) := by
      rw [settled, Schedule.stallUntil_set, Schedule.stallUntil_stallTo, sets.stallUntil]
      split
      · rename_i longer
        rw [UInt64.lt_iff_toNat_lt, halt] at longer
        rw [halt]
        omega
      · rename_i longer
        rw [UInt64.lt_iff_toNat_lt, halt] at longer
        omega
    have line : (o.board.settle .lineFetch deadline).schedule.lineFetch.toNat =
        o.board.schedule.lineFetch.toNat + cyclesPerLine.toNat := by
      rw [settled, ← boundary, ← next]
      rfl
    rw [line, stall]
    have before := h.stall_le
    refine LineTimed.cons h ⟨?_, ?_⟩ ?_ ?_ ?_ ?_ ?_ ?_ ?_
    · exact Nat.lt_of_lt_of_le h.boundary.1 (Nat.le_add_right _ _)
    · exact Nat.dvd_add h.boundary.2 (Nat.dvd_refl _)
    · exact Nat.le_add_right _ _
    · exact Nat.le_max_left _ _
    · omega
    · intro t same
      cases same
    · rintro start cycles ⟨⟩
      exact ⟨boundary, Nat.le_max_right _ _⟩
    · intro wait found
      cases found
    · intro _ _ _ same
      cases same
  · have sets := Board.sets_settle line o.board deadline
    have same : (o.board.settle event deadline).schedule.lineFetch = o.board.schedule.lineFetch :=
      sets.deadline fun e => line e.symm
    have none : (Observation.handled cpu o.board event deadline).line? = none := by
      cases event <;> first | exact absurd rfl line | rfl
    rw [same, sets.stallUntil]
    refine LineTimed.cons h h.boundary (Nat.le_refl _) (Nat.le_refl _) h.stall_le ?_ ?_ ?_ ?_
    · intro t same
      cases same
    · intro start taken found
      rw [none] at found
      cases found
    · intro wait found
      cases found
    · intro _ _ _ same
      cases same

theorem invariant : Observed.Invariant LineTimed where
  reset := reset
  quiet h quiet := by
    unfold LineTimed
    rw [quiet.schedule]
    exact h
  start h sound _ next stall := h.start sound next stall
  write _ address value h := h.write address value
  settle h _ fits own _ := h.settle fits own

end Observed.LineTimed

namespace Session

/-- The processor is halted by whole lines, now and in all that has happened. -/
structure HaltsByLines (s : Session) : Prop where
  line : s.observed.board.schedule.lineFetch ≠ never ∧ 0 < s.observed.board.schedule.lineFetch ∧
    cyclesPerLine.toNat ∣ s.observed.board.schedule.lineFetch.toNat
  stall : s.observed.board.schedule.stallUntil ≤ s.observed.board.schedule.lineFetch
  wait : ∀ address value, s.observed.board.asksToWait address = true →
    (s.observed.board.write address value).schedule.stallUntil =
        s.observed.board.schedule.lineFetch ∧
      (s.observed.board.write address value).schedule.lineFetch =
        s.observed.board.schedule.lineFetch
  waited : ∀ before address value, .wrote before address value ∈ s.observed.trace →
    before.asksToWait address = true →
    (before.write address value).schedule.stallUntil = before.schedule.lineFetch ∧
      (before.write address value).schedule.lineFetch = before.schedule.lineFetch ∧
        cyclesPerLine.toNat ∣ before.schedule.lineFetch.toNat
  /-- Nothing starts while a line takes its cycles. -/
  lines : ∀ t, .started t ∈ s.observed.trace → ∀ a ∈ s.observed.trace, ∀ start taken,
    a.line? = some (start, taken) → ¬(start.toNat ≤ t.toNat ∧ t.toNat < start.toNat + taken)
  /-- What starts after a wait starts at its end or later. -/
  waits : s.observed.trace.Pairwise fun later earlier =>
    ∀ t wait, later = .started t → earlier.wait? = some wait → wait ≤ t

theorem Reachable.haltsByLines {s : Session} (h : s.Reachable) : s.HaltsByLines := by
  have timed : s.observed.LineTimed := (Observed.LineTimed.invariant.reachable h).2
  exact
    { line := ⟨timed.lineFetch_ne_never, UInt64.lt_iff_toNat_lt.2 timed.boundary.1,
        timed.boundary.2⟩
      stall := UInt64.le_iff_toNat_le.2 timed.stall_le
      wait := fun address value asks => by
        rw [Board.write_of_asksToWait asks value]
        exact timed.waitForLine
      waited := timed.halts
      lines := fun t began a mem start taken found inside => by
        have apart := timed.apart t began a mem start taken found
        omega
      waits := timed.after }

/-- A program waits for the next line, and has been run for some lines after that. -/
theorem haltsByLines_waiting :
    ∃ s : Session, s.Reachable ∧ s.HaltsByLines ∧
      (∃ a ∈ s.observed.trace, a.wait? = some 114) ∧
        ∃ a ∈ s.observed.trace, ∃ taken, a.line? = some (114, taken) := by
  let code := Program.storing [(0xD40A, 0)]
  obtain ⟨s₀, start, total, new⟩ := exists_new code
  obtain ⟨stored, after⟩ := Observed.stored_antic (a := 0xD40A) start.loaded 7 0 (by decide)
  have quiet : (s₀.observed.stored 7 0xD40A 0).board.antic.interruptEnable = 0 := by
    rw [stored]
    exact congrArg Antic.interruptEnable new.antic
  have goes : s₀.observed.GoThrough code 7 [(0xD40A, 0)] := by
    refine ⟨?_, after, trivial⟩
    rw [new.schedule]
    decide
  obtain ⟨s, ran⟩ :=
    start.ranOn List.prefix_rfl total (by decide) goes quiet 400 (by decide) (by decide)
  obtain ⟨later, trace, -⟩ := Observed.exists_later ran.idle
  let before := ((s₀.observed.start 7).start 9).board
  have line : before.schedule.lineFetch = 114 := congrArg Schedule.lineFetch new.schedule
  have asks : before.asksToWait 0xD40A = true := by
    have loaded : before.memory.Loaded code := start.loaded
    rw [Board.asksToWait, loaded.antic (by decide)]
    decide
  have next : (s₀.observed.storedAll 7 [(0xD40A, 0)]).board.schedule.lineFetch = 114 :=
    (Observed.lineFetch_storedAll _ _ _).trans line
  refine ⟨s, ran.reachable, ran.reachable.haltsByLines, ?_, ?_⟩
  · refine ⟨.wrote before 0xD40A 0, ?_, ?_⟩
    · rw [trace]
      exact List.mem_append_right _ List.mem_cons_self
    · rw [Observation.wait?, asks, if_pos rfl, line]
  · obtain ⟨cpu, b, mem⟩ := ran.exists_line (next ▸ by decide)
    rw [next] at mem
    exact ⟨_, mem, _, rfl⟩

end Session

end Atari800XL
