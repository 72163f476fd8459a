import Atari800XL.Proofs.Machine.Ahead
import Atari800XL.Proofs.Machine.Fittings
import Atari800XL.Proofs.Machine.History
import Atari800XL.Proofs.Machine.Programs

namespace Atari800XL

open Display

namespace Schedule

def expected (s : Schedule) : List Nat :=
  if s.displayListInterrupt = never then [] else [s.displayListInterrupt.toNat]

variable {s : Schedule}

theorem mem_expected {d : Nat} :
    d ∈ s.expected ↔ s.displayListInterrupt ≠ never ∧ d = s.displayListInterrupt.toNat := by
  by_cases silent : s.displayListInterrupt = never
  · simp [expected, silent]
  · simp [expected, silent]

theorem expected_eq_nil : s.expected = [] ↔ s.displayListInterrupt = never := by
  simp [expected]

theorem le_of_mem_expected {deadline : UInt64} (first : deadline ≤ s.displayListInterrupt) {d : Nat}
    (mem : d ∈ s.expected) : deadline.toNat ≤ d := by
  rw [(mem_expected.1 mem).2]
  exact UInt64.le_iff_toNat_le.1 first

end Schedule

namespace Antic

def Place.upcoming (p : Place) : Nat :=
  if p.scanline ≤ firstDisplayLine then p.linesPerFrame + p.scanline else p.scanline

def Place.Announces (p : Place) (line deadline : Nat) : Prop :=
  ∃ k, deadline + 114 = line + k * 114 + 8 ∧ p.upcoming + k = p.nextFetch ∧
    p.nextFetch < verticalBlankLine + 16

structure Place.Framed (p : Place) : Prop where
  lines : 262 ≤ p.linesPerFrame
  inside : p.scanline < p.linesPerFrame

variable {p : Place} {line deadline : Nat}

theorem Place.Framed.next (h : p.Framed) : p.next.Framed := by
  refine ⟨h.lines, ?_⟩
  have lines := h.lines
  unfold Place.next
  dsimp only
  split <;> omega

namespace Place.Announces

variable (h : p.Announces line deadline)
include h

theorem not_fetch (framed : p.Framed) (before : line ≤ deadline) :
    ¬(firstDisplayLine ≤ p.scanline ∧ (p.scanline = firstDisplayLine ∨
      p.scanline = p.nextFetch)) := by
  have lines := framed.lines
  obtain ⟨k, due, next, last⟩ := h
  have first : firstDisplayLine = 8 := rfl
  have blank : verticalBlankLine = 248 := rfl
  unfold upcoming at next
  split at next <;> omega

theorem next (framed : p.Framed) (before : line ≤ deadline) :
    p.next.Announces (line + 114) deadline := by
  have lines := framed.lines
  have inside := framed.inside
  obtain ⟨k, due, next, last⟩ := h
  have first : firstDisplayLine = 8 := rfl
  have blank : verticalBlankLine = 248 := rfl
  refine ⟨k - 1, by omega, ?_, last⟩
  unfold upcoming Place.next at *
  dsimp only
  split at next <;> split <;> split <;> omega

theorem last (framed : p.Framed) (now : deadline ≤ line) :
    line + 8 = deadline + 114 ∧ p.scanline = p.nextFetch % p.linesPerFrame := by
  have inside := framed.inside
  obtain ⟨k, due, next, last⟩ := h
  have here : k = 0 := by omega
  subst here
  refine ⟨by omega, ?_⟩
  rw [Nat.add_zero] at next
  rw [← next]
  unfold upcoming
  split
  · rw [Nat.add_mod_left, Nat.mod_eq_of_lt inside]
  · rw [Nat.mod_eq_of_lt inside]

end Place.Announces

def Fetch.due (f : Fetch) (start : Nat) : Nat := start + 114 * (f.count - 1) + 8

def Fetch.due? (f : Fetch) (start : Nat) : Option Nat :=
  if Instruction.interrupts f.command then some (f.due start) else none

theorem Fetch.eq_due {f : Fetch} {start d : Nat} (h : f.due? start = some d) :
    d = f.due start := by
  obtain ⟨-, same⟩ := Option.ite_none_right_eq_some.1 h
  exact (Option.some.inj same).symm

theorem Fetch.lt_due (f : Fetch) (start : Nat) : start < f.due start := by
  unfold due
  omega

theorem Fetch.expected_expect {f : Fetch} {start : UInt64} (fits : Fits start) (few : f.count ≤ 16)
    {s : Schedule} (silent : s.expected = []) :
    (f.expect start s).expected = (f.due? start.toNat).toList := by
  unfold due? expect
  split
  · obtain ⟨deadline, ne⟩ := toNat_interruptDeadline fits few
    refine (if_neg ne).trans (congrArg List.singleton ?_)
    rw [due, Nat.mul_comm, Nat.add_assoc]
    exact deadline
  · exact silent

theorem announces_of_fetch (framed : p.Framed)
    (shown : firstDisplayLine ≤ p.scanline ∧ p.scanline < verticalBlankLine) {f : Fetch}
    (count : 1 ≤ f.count ∧ f.count ≤ 16) (start : Nat) :
    ({ p with nextFetch := p.scanline + f.count } : Place).next.Announces (start + 114)
      (f.due start) := by
  have lines := framed.lines
  have first : firstDisplayLine = 8 := rfl
  have blank : verticalBlankLine = 248 := rfl
  refine ⟨f.count - 1, ?_, ?_, ?_⟩
  · unfold Fetch.due
    omega
  · unfold Place.upcoming Place.next
    dsimp only
    split <;> split <;> omega
  · unfold Place.next
    dsimp only
    omega

end Antic

namespace Observation

def fetch? : Observation → Option (UInt64 × Antic.Fetch)
  | .handled _ before .lineFetch deadline =>
    (before.antic.fetch? before.memory).map fun f => (deadline, f)
  | _ => none

def asked? (a : Observation) : Option Nat := a.fetch?.bind fun (start, f) => f.due? start.toNat

def served? : Observation → Option Nat
  | .handled _ _ .displayListInterrupt deadline => some deadline.toNat
  | _ => none

def asked : List Observation → List Nat := collect asked?

def served : List Observation → List Nat := collect served?

def OffList (a : Observation) : Prop := a.asked? = none ∧ a.served? = none

theorem OffList.asked {a : Observation} (h : a.OffList) (trace : List Observation) :
    asked (a :: trace) = asked trace := collect_cons_of_none h.1

theorem OffList.served {a : Observation} (h : a.OffList) (trace : List Observation) :
    served (a :: trace) = served trace := collect_cons_of_none h.2

/-- An interrupt is handled in the last line before the next instruction: eight cycles after that
line has begun. -/
def InLastLine (before : Board) (deadline : UInt64) : Prop :=
  before.schedule.lineFetch.toNat + 8 = deadline.toNat + 114 ∧
    before.antic.scanline = before.antic.nextFetch % before.antic.linesPerFrame

end Observation

open Observation (asked served InLastLine)

namespace Board

structure SameList (b b' : Board) : Prop where
  place : b'.antic.place = b.antic.place
  line : b'.schedule.lineFetch = b.schedule.lineFetch
  interrupt : b'.schedule.displayListInterrupt = b.schedule.displayListInterrupt

theorem Quiet.sameList {b b' : Board} (h : b.Quiet b') : b.SameList b' := by
  refine ⟨?_, ?_, ?_⟩
  · rw [h.antic]
  · rw [h.schedule]
  · rw [h.schedule]

theorem sameList_write (b : Board) (address : UInt16) (value : UInt8) :
    b.SameList (b.write address value) := by
  have place := b.place_write address value
  cases asks : b.asksToWait address with
  | false =>
    have sets := sets_write asks value
    exact ⟨place, sets.deadline (e := .lineFetch) fun own => own.1 rfl,
      sets.deadline (e := .displayListInterrupt) fun own => own.2 rfl⟩
  | true =>
    rw [write_of_asksToWait asks] at place ⊢
    unfold Antic.waitForLine at place ⊢
    split
    · exact ⟨place, rfl, rfl⟩
    · exact ⟨place, Schedule.deadline_stallTo _ _ .lineFetch,
        Schedule.deadline_stallTo _ _ .displayListInterrupt⟩

theorem sameList_settle {event : Event} (line : event ≠ .lineFetch)
    (list : event ≠ .displayListInterrupt) (b : Board) (deadline : UInt64) :
    b.SameList (b.settle event deadline) where
  place := place_settle line b deadline
  line := (sets_settle line b deadline).deadline (e := .lineFetch) (Ne.symm line)
  interrupt := (sets_settle line b deadline).deadline (e := .displayListInterrupt) (Ne.symm list)

theorem SameList.expected {b b' : Board} (h : b.SameList b') :
    b'.schedule.expected = b.schedule.expected := by
  rw [Schedule.expected, h.interrupt, Schedule.expected]

theorem settle_line_list (b : Board) {deadline : UInt64} (fits : Fits deadline) :
    let line := b.antic.processLine b.memory b.gtia deadline b.schedule
    (b.settle .lineFetch deadline).antic.place = line.antic.place ∧
      (b.settle .lineFetch deadline).schedule.expected = line.schedule.expected ∧
      (b.settle .lineFetch deadline).schedule.lineFetch.toNat = deadline.toNat + 114 := by
  have next : (deadline + cyclesPerLine).toNat = deadline.toNat + 114 := (fits.add (by decide)).1
  have interrupt : (b.settle .lineFetch deadline).schedule.displayListInterrupt =
      (b.antic.processLine b.memory b.gtia deadline b.schedule).schedule.displayListInterrupt :=
    Schedule.deadline_stallTo _ _ .displayListInterrupt
  refine ⟨rfl, ?_, next⟩
  rw [Schedule.expected, interrupt, Schedule.expected]

end Board

namespace Observed

/-- The display list has been served: what has been handled and what is expected is what has been
asked for. -/
structure ListServed (o : Observed) : Prop where
  framed : o.board.antic.place.Framed
  announced : ∀ d ∈ o.board.schedule.expected,
    o.board.antic.place.Announces o.board.schedule.lineFetch.toNat d
  exact : served o.trace ++ o.board.schedule.expected = asked o.trace
  past : ∀ d ∈ served o.trace, d < o.board.schedule.lineFetch.toNat
  increasing : (asked o.trace).Pairwise (· < ·)
  inLastLine : ∀ cpu before deadline,
    .handled cpu before .displayListInterrupt deadline ∈ o.trace → InLastLine before deadline

namespace ListServed

theorem start {b : Board} (framed : b.antic.place.Framed) (silent : b.schedule.expected = []) :
    ListServed { board := b } where
  framed := framed
  announced := by
    rw [silent]
    exact List.forall_mem_nil _
  exact := silent
  past := List.forall_mem_nil _
  increasing := List.Pairwise.nil
  inLastLine _ _ _ mem := absurd mem List.not_mem_nil

variable {o : Observed} (h : o.ListServed)
include h

theorem of_sameList {board : Board} (same : o.board.SameList board) :
    ListServed { o with board } where
  framed := by
    rw [same.place]
    exact h.framed
  announced := by
    rw [same.expected, same.place, same.line]
    exact h.announced
  exact := by
    rw [same.expected]
    exact h.exact
  past := by
    rw [same.line]
    exact h.past
  increasing := h.increasing
  inLastLine := h.inLastLine

theorem offList {a : Observation} (off : a.OffList) :
    ListServed { o with trace := a :: o.trace } where
  framed := h.framed
  announced := h.announced
  exact := by
    rw [off.served, off.asked]
    exact h.exact
  past := by
    rw [off.served]
    exact h.past
  increasing := by
    rw [off.asked]
    exact h.increasing
  inLastLine cpu before deadline mem := by
    rcases List.mem_cons.1 mem with rfl | mem
    · cases off.2
    · exact h.inLastLine cpu before deadline mem

theorem settle_interrupt {cpu : Cpu} {deadline : UInt64} (fits : Fits deadline)
    (own : o.board.schedule.displayListInterrupt = deadline)
    (first : deadline ≤ o.board.schedule.lineFetch) :
    ListServed
      { board := o.board.settle .displayListInterrupt deadline,
        trace := .handled cpu o.board .displayListInterrupt deadline :: o.trace } := by
  have expected : o.board.schedule.expected = [deadline.toNat] := by
    rw [Schedule.expected, own, if_neg (UInt64.ne_of_lt fits.lt_never)]
  have announced := h.announced
  rw [expected, List.forall_mem_singleton] at announced
  have last := announced.last h.framed (UInt64.le_iff_toNat_le.1 first)
  have asked : asked (.handled cpu o.board .displayListInterrupt deadline :: o.trace) =
      asked o.trace := Observation.collect_cons_of_none rfl
  have served : served (.handled cpu o.board .displayListInterrupt deadline :: o.trace) =
      served o.trace ++ [deadline.toNat] := Observation.collect_cons_of_some rfl
  exact
    { framed := h.framed
      announced := List.forall_mem_nil _
      exact := by
        rw [served, asked, ← h.exact, expected]
        exact List.append_nil _
      past := by
        rw [served, List.forall_mem_append]
        refine ⟨h.past, List.forall_mem_singleton.2 ?_⟩
        show deadline.toNat < o.board.schedule.lineFetch.toNat
        omega
      increasing := by
        rw [asked]
        exact h.increasing
      inLastLine := fun cpu before deadline mem => by
        rcases List.mem_cons.1 mem with same | mem
        · cases same
          exact last
        · exact h.inLastLine cpu before deadline mem }

section

variable {cpu : Cpu} {deadline : UInt64} (fits : Fits deadline)
  (own : o.board.schedule.lineFetch = deadline)
  (first : deadline ≤ o.board.schedule.displayListInterrupt)
include fits own first

theorem settle_line_of_none (none : o.board.antic.fetch? o.board.memory = none) :
    ListServed
      { board := o.board.settle .lineFetch deadline,
        trace := .handled cpu o.board .lineFetch deadline :: o.trace } := by
  obtain ⟨place, expected, line⟩ := o.board.settle_line_list fits
  obtain ⟨goes, kept, -⟩ := Antic.Course.mk.inj
    (Antic.processLine_of_none o.board.gtia deadline o.board.schedule none)
  rw [goes, Antic.place_opening] at place
  rw [kept] at expected
  have off : (Observation.handled cpu o.board .lineFetch deadline).OffList := by
    refine ⟨?_, rfl⟩
    rw [Observation.asked?, Observation.fetch?, none]
    rfl
  exact
    { framed := by
        rw [place]
        exact Antic.Place.Framed.next ⟨h.framed.lines, h.framed.inside⟩
      announced := by
        rw [expected, line, place]
        intro d mem
        have announced := h.announced d mem
        have before := Schedule.le_of_mem_expected first mem
        rw [own] at announced
        have later : o.board.antic.scanline ≠ firstDisplayLine := fun same =>
          announced.not_fetch h.framed before ⟨Nat.le_of_eq same.symm, .inl same⟩
        rw [if_neg later]
        exact announced.next h.framed before
      exact := by
        rw [off.served, off.asked, expected]
        exact h.exact
      past := by
        rw [off.served, line, ← own]
        exact fun d mem => Nat.lt_of_lt_of_le (h.past d mem) (Nat.le_add_right _ _)
      increasing := by
        rw [off.asked]
        exact h.increasing
      inLastLine := (h.offList off).inLastLine }

omit fits in
theorem expected_of_fetch {f : Antic.Fetch}
    (some : o.board.antic.fetch? o.board.memory = some f) : o.board.schedule.expected = [] := by
  rw [List.eq_nil_iff_forall_not_mem]
  intro d mem
  have announced := h.announced d mem
  rw [own] at announced
  obtain ⟨shown, due, -⟩ := Antic.spec_of_fetch some
  exact announced.not_fetch h.framed (Schedule.le_of_mem_expected first mem) ⟨shown.1, due⟩

omit fits in
theorem served_of_fetch {f : Antic.Fetch}
    (some : o.board.antic.fetch? o.board.memory = some f) : served o.trace = asked o.trace := by
  rw [← h.exact, h.expected_of_fetch own first some, List.append_nil]

omit fits in
theorem increasing_of_fetch {f : Antic.Fetch}
    (some : o.board.antic.fetch? o.board.memory = some f) :
    (asked o.trace ++ (f.due? deadline.toNat).toList).Pairwise (· < ·) := by
  rw [List.pairwise_append]
  refine ⟨h.increasing, ?_, ?_⟩
  · cases f.due? deadline.toNat <;> simp
  · rw [← h.served_of_fetch own first some]
    intro d mem e new
    have past := h.past d mem
    rw [own] at past
    rw [Antic.Fetch.eq_due (Option.mem_toList.1 new)]
    exact Nat.lt_trans past (f.lt_due _)

theorem settle_line_of_some {f : Antic.Fetch}
    (some : o.board.antic.fetch? o.board.memory = some f) :
    ListServed
      { board := o.board.settle .lineFetch deadline,
        trace := .handled cpu o.board .lineFetch deadline :: o.trace } := by
  obtain ⟨place, expected, line⟩ := o.board.settle_line_list fits
  obtain ⟨goes, asks, -⟩ := Antic.Course.mk.inj
    (Antic.processLine_of_some o.board.gtia deadline o.board.schedule some)
  obtain ⟨shown, -, count⟩ := Antic.spec_of_fetch some
  rw [goes] at place
  rw [asks, Antic.Fetch.expected_expect fits count.2 (h.expected_of_fetch own first some)]
    at expected
  have fetched : (Observation.handled cpu o.board .lineFetch deadline).asked? =
      f.due? deadline.toNat := by
    rw [Observation.asked?, Observation.fetch?, some]
    rfl
  have served : served (.handled cpu o.board .lineFetch deadline :: o.trace) = served o.trace :=
    Observation.collect_cons_of_none rfl
  have asked : asked (.handled cpu o.board .lineFetch deadline :: o.trace) =
      asked o.trace ++ (f.due? deadline.toNat).toList := by
    rw [← fetched]
    exact Observation.collect_cons _ _ _
  exact
    { framed := by
        rw [place]
        exact Antic.Place.Framed.next ⟨h.framed.lines, h.framed.inside⟩
      announced := by
        rw [expected, place, line]
        intro d mem
        rw [Antic.Fetch.eq_due (Option.mem_toList.1 mem)]
        exact Antic.announces_of_fetch h.framed shown count deadline.toNat
      exact := by
        rw [served, asked, expected, h.served_of_fetch own first some]
      past := by
        rw [served, line, ← own]
        exact fun d mem => Nat.lt_of_lt_of_le (h.past d mem) (Nat.le_add_right _ _)
      increasing := by
        rw [asked]
        exact h.increasing_of_fetch own first some
      inLastLine := fun cpu before deadline mem => by
        rcases List.mem_cons.1 mem with same | mem
        · cases same
        · exact h.inLastLine cpu before deadline mem }

end

omit h in
theorem invariant :
    Observed.Invariant fun o => 262 ≤ o.board.antic.linesPerFrame → o.ListServed where
  reset m lines := by
    have silent := congrArg Schedule.displayListInterrupt m.schedule_hardReset
    refine start ⟨lines, ?_⟩ (Schedule.expected_eq_nil.2 silent)
    show m.hardReset.board.antic.scanline < m.hardReset.board.antic.linesPerFrame
    rw [show m.hardReset.board.antic.scanline = 0 from congrArg Antic.scanline m.antic_hardReset]
    exact Nat.lt_of_lt_of_le (by decide) lines
  quiet {o board} h quiet lines := by
    rw [quiet.antic] at lines
    exact (h lines).of_sameList quiet.sameList
  start {o cycle} h sound fits next stall lines :=
    ((h lines).offList ⟨rfl, rfl⟩).of_sameList ⟨rfl, rfl, rfl⟩
  write o address value h lines := by
    have same := o.board.sameList_write address value
    have kept := congrArg Antic.Place.linesPerFrame same.place
    have served := h (Nat.le_trans lines (Nat.le_of_eq kept))
    exact (served.offList ⟨rfl, rfl⟩).of_sameList same
  settle {o cpu event deadline} h sound fits own first lines := by
    rw [o.board.linesPerFrame_settle] at lines
    have h := h lines
    by_cases line : event = .lineFetch
    · subst line
      cases fetch : o.board.antic.fetch? o.board.memory with
      | none => exact h.settle_line_of_none fits own (first .displayListInterrupt) fetch
      | some f => exact h.settle_line_of_some fits own (first .displayListInterrupt) fetch
    by_cases list : event = .displayListInterrupt
    · subst list
      exact h.settle_interrupt fits own (first .lineFetch)
    · have off : (Observation.handled cpu o.board event deadline).OffList := by
        cases event <;> first | contradiction | exact ⟨rfl, rfl⟩
      exact (h.offList off).of_sameList (Board.sameList_settle line list o.board deadline)

end ListServed

end Observed

theorem Antic.processLine_of_early {a : Antic} (early : a.scanline < firstDisplayLine)
    (long : firstDisplayLine < a.linesPerFrame) (m : Memory) (g : Gtia) (start : UInt64)
    (s : Schedule) :
    (a.processLine m g start s).antic =
      { a with currentLine := a.scanline, scanline := a.scanline + 1 } := by
  have first : (a.scanline == firstDisplayLine) = false := beq_eq_false_iff_ne.2 (Nat.ne_of_lt early)
  have last : (a.scanline == verticalBlankLine) = false :=
    beq_eq_false_iff_ne.2 (Nat.ne_of_lt (Nat.lt_trans early (by decide)))
  have hidden : isShown a.scanline = false := by
    simp [isShown, Nat.not_le.2 early]
  have onward : ¬a.scanline + 1 ≥ a.linesPerFrame := by omega
  simp only [processLine, first, last, hidden, Bool.false_eq_true, if_false, nextLine, onward]

theorem Board.antic_settle {event : Event} (line : event ≠ .lineFetch) (b : Board)
    (deadline : UInt64) :
    (b.settle event deadline).antic = b.antic ∨
      (b.settle event deadline).antic = b.antic.fireListInterrupt.2 := by
  cases event with
  | lineFetch => exact absurd rfl line
  | displayListInterrupt => exact .inr rfl
  | serialInReady =>
    left
    unfold settle
    dsimp only
    split
    · rfl
    · rw [antic_expectNext]
  | _ => exact .inl rfl

structure Antic.Awaits (a : Antic) (i line : Nat) : Prop where
  list : a.displayList = Program.address i
  on : hasBit a.dmaControl 0x20 = true
  early : a.scanline ≤ firstDisplayLine
  long : firstDisplayLine < a.linesPerFrame
  line : line = 114 * (a.scanline + 1)

namespace Observed

structure Awaits (o : Observed) (code : List UInt8) (i : Nat) : Prop where
  loaded : o.board.memory.Loaded code
  antic : o.board.antic.Awaits i o.board.schedule.lineFetch.toNat

namespace Awaits

variable {o o' : Observed} {code : List UInt8} {i : Nat}

theorem asked (h : o.Awaits code i) (inside : i < Program.room) (command : code.getD i 0 = 0xF0)
    (first : o.board.antic.scanline = firstDisplayLine) (cpu : Cpu) {deadline : UInt64}
    (own : o.board.schedule.lineFetch = deadline) :
    (Observation.handled cpu o.board .lineFetch deadline).asked? = some 1832 := by
  have fetches : o.board.antic.fetches = true :=
    Antic.fetches_iff.2 ⟨by rw [first]; decide, h.antic.on, .inl first⟩
  have byte : o.board.memory.peek o.board.antic.displayList = 0xF0 := by
    rw [h.antic.list, (h.loaded.address inside).2, command]
  have fetch : o.board.antic.fetch? o.board.memory = some ⟨0xF0, 8⟩ := by
    rw [Antic.fetch?, if_pos fetches, byte]
    rfl
  have start : deadline.toNat = 1026 := by
    rw [← own, h.antic.line, first]
    rfl
  rw [Observation.asked?, Observation.fetch?, fetch, Option.map_some, Option.bind_some]
  dsimp only
  rw [start]
  decide

theorem idle (h : o.Awaits code i) (inside : i < Program.room) (command : code.getD i 0 = 0xF0)
    (idle : Idle o o') :
    o'.Awaits code i ∨ ∃ a ∈ o'.trace, a.asked? = some 1832 := by
  cases idle with
  | start cycle => exact .inl ⟨h.loaded, h.antic⟩
  | @settle cpu event deadline journal fits own =>
    obtain ⟨list, on, early, long, line⟩ := h.antic
    have loaded : (o.board.settle event deadline).memory.Loaded code := by
      rw [Board.memory_settle]
      exact h.loaded
    by_cases fetch : event = .lineFetch
    · subst fetch
      change o.board.schedule.lineFetch = deadline at own
      rcases Nat.lt_or_eq_of_le early with early | first
      · have goes : (o.board.settle .lineFetch deadline).antic = _ :=
          Antic.processLine_of_early early long o.board.memory o.board.gtia deadline
            o.board.schedule
        have next := (o.board.settle_line_list fits).2.2
        have antic : (o.board.settle .lineFetch deadline).antic.Awaits i
            (o.board.settle .lineFetch deadline).schedule.lineFetch.toNat := by
          rw [next, ← own, line, own, goes]
          exact ⟨list, on, early, long, rfl⟩
        exact .inl ⟨loaded, antic⟩
      · exact .inr ⟨_, List.mem_cons_self, h.asked inside command first cpu own⟩
    · have same : (o.board.settle event deadline).schedule.lineFetch =
          o.board.schedule.lineFetch :=
        (Board.sets_settle fetch o.board deadline).deadline fun e => fetch e.symm
      have antic : (o.board.settle event deadline).antic.Awaits i
          (o.board.settle event deadline).schedule.lineFetch.toNat := by
        rw [same]
        rcases Board.antic_settle fetch o.board deadline with kept | fired
        · rw [kept]
          exact h.antic
        · rw [fired]
          exact ⟨list, on, early, long, line⟩
      exact .inl ⟨loaded, antic⟩

theorem idles (h : o.Awaits code i) (inside : i < Program.room) (command : code.getD i 0 = 0xF0)
    (idles : Relation.ReflTransGen Idle o o') :
    o'.Awaits code i ∨ ∃ a ∈ o'.trace, a.asked? = some 1832 := by
  induction idles with
  | refl => exact .inl h
  | tail idles next ih =>
    rcases ih with awaits | ⟨a, mem, asked⟩
    · exact awaits.idle inside command next
    · obtain ⟨later, trace, -⟩ := exists_later (.single next)
      exact .inr ⟨a, trace ▸ List.mem_append_right later mem, asked⟩

end Awaits

end Observed

namespace Observed

structure Listing (o : Observed) (code : List UInt8) (antic : Antic) : Prop where
  loaded : o.board.memory.Loaded code
  antic : o.board.antic = antic
  schedule : o.board.schedule = ({} : Schedule).set .lineFetch cyclesPerLine

theorem Listing.store {o : Observed} {code : List UInt8} {antic : Antic} (h : o.Listing code antic)
    (cycle : UInt64) {a : UInt16} (value : UInt8) (held : 0xD400 ≤ a.toNat ∧ a.toNat < 0xD500)
    (still : ∀ s, antic.write (lowByte a) value s = ((antic.write (lowByte a) value {}).1, s)) :
    (o.stored cycle a value).Listing code (antic.write (lowByte a) value {}).1 := by
  obtain ⟨stored, loaded⟩ := stored_antic h.loaded cycle value held
  dsimp only at stored
  rw [h.antic, still] at stored
  refine ⟨loaded, ?_, ?_⟩
  · rw [stored]
  · rw [stored]
    exact h.schedule

end Observed

namespace Session

/-- The interrupts of the display list, in all that has happened since the machine was reset. -/
structure ServesList (s : Session) : Prop where
  /-- Each instruction that asks for an interrupt gets one, at its time and in order, but that the
  last one may still be expected. -/
  exact : served s.observed.trace ++ s.observed.board.schedule.expected =
    asked s.observed.trace
  /-- No two of them are due at the same time. -/
  increasing : (asked s.observed.trace).Pairwise (· < ·)
  /-- None is expected any more where another instruction is fetched. -/
  clear : ∀ later a earlier, s.observed.trace = later ++ a :: earlier → a.fetch?.isSome →
    served earlier = asked earlier
  /-- All that are due have come where the processor starts an instruction. -/
  prompt : ∀ later cycle earlier, s.observed.trace = later ++ .started cycle :: earlier →
    ∀ d ∈ asked earlier, d ≤ cycle.toNat → d ∈ served earlier
  /-- All that are due have come where the machine has handled what is due. -/
  rest : s.due = none → ∀ d ∈ asked s.observed.trace, d ≤ s.cpu.total.toNat →
    d ∈ served s.observed.trace
  /-- They come in the last line before the next instruction. -/
  inLastLine : ∀ cpu before deadline,
    .handled cpu before .displayListInterrupt deadline ∈ s.observed.trace →
    InLastLine before deadline

theorem Reachable.lines_le {s : Session} (h : s.Reachable) :
    262 ≤ s.observed.board.antic.linesPerFrame := by
  have lines : s.observed.board.antic.linesPerFrame =
      s.observed.board.setup.video.linesPerFrame :=
    congrArg Board.Fittings.linesPerFrame h.fitted
  rw [lines]
  cases s.observed.board.setup.video <;> decide

theorem served_of_fetched {o : Observed} (h : o.ListServed) {a : Observation}
    (offers : o.board.Offers a) (fetched : a.fetch?.isSome) : served o.trace = asked o.trace := by
  cases offers with
  | started => cases fetched
  | wrote => cases fetched
  | @handled cpu event deadline sound own first =>
    cases event with
    | lineFetch =>
      rw [Observation.fetch?, Option.isSome_map] at fetched
      obtain ⟨f, some⟩ := Option.isSome_iff_exists.1 fetched
      exact h.served_of_fetch own (first .displayListInterrupt) some
    | _ => cases fetched

theorem mem_served_of_lt {o : Observed} (h : o.ListServed) {now d : Nat}
    (next : now < o.board.schedule.displayListInterrupt.toNat) (mem : d ∈ asked o.trace)
    (past : d ≤ now) : d ∈ served o.trace := by
  rw [← h.exact, List.mem_append] at mem
  refine mem.resolve_right fun expected => ?_
  rw [(Schedule.mem_expected.1 expected).2] at past
  exact Nat.not_le.2 next past

theorem Reachable.servesList {s : Session} (h : s.Reachable) : s.ServesList := by
  have holds := Observed.ListServed.invariant.reachable h
  have now : s.observed.ListServed := holds.2 h.lines_le
  refine ⟨now.exact, now.increasing, ?_, ?_, ?_, now.inLastLine⟩
  · intro later a earlier same fetched
    obtain ⟨board, offers, lines, before⟩ := h.held Observed.ListServed.invariant same
    exact served_of_fetched (before (lines ▸ h.lines_le)) offers fetched
  · intro later cycle earlier same d mem past
    obtain ⟨board, offers, lines, before⟩ := h.held Observed.ListServed.invariant same
    cases offers with
    | started sound next =>
      have ahead := UInt64.lt_of_lt_of_le next (sound.exact.next_le .displayListInterrupt)
      exact mem_served_of_lt (before (lines ▸ h.lines_le)) (UInt64.lt_iff_toNat_lt.1 ahead) mem past
  · intro none d mem past
    have next := h.due_eq_none_iff.1 none
    have ahead := UInt64.lt_of_lt_of_le next (holds.1.exact.next_le .displayListInterrupt)
    exact mem_served_of_lt now (UInt64.lt_iff_toNat_lt.1 ahead) mem past

/-- A program sets up a list with eight blank lines and a jump back. The interrupt of the blank
lines is due in cycle 1832, in the last of them. -/
theorem servesList_blankLines :
    ∃ s : Session, s.Reachable ∧ s.ServesList ∧ 1832 ∈ asked s.observed.trace ∧
      1832 ∈ served s.observed.trace := by
  let stores : List (UInt16 × UInt8) := [(0xD402, 0x12), (0xD403, 0xE0), (0xD400, 0x20)]
  let code := Program.storing stores ++ [0xF0, 0x41, 0x12, 0xE0]
  obtain ⟨s₀, start, total, new⟩ := exists_new code
  have listing : s₀.observed.Listing code { linesPerFrame := 262 } :=
    ⟨start.loaded, new.antic, new.schedule⟩
  have first := listing.store 7 (a := 0xD402) 0x12 (by decide) fun _ => rfl
  have second := first.store (7 + 6) (a := 0xD403) 0xE0 (by decide) fun _ => rfl
  have third : (s₀.observed.storedAll 7 stores).Listing code _ :=
    second.store (7 + 6 + 6) (a := 0xD400) 0x20 (by decide) fun _ => rfl
  have goes : s₀.observed.GoThrough code 7 stores := by
    refine ⟨?_, first.loaded, ?_, second.loaded, ?_, third.loaded, trivial⟩
    · rw [listing.schedule]
      decide
    · rw [first.schedule]
      decide
    · rw [second.schedule]
      decide
  have quiet : (s₀.observed.storedAll 7 stores).board.antic.interruptEnable = 0 :=
    (congrArg Antic.interruptEnable third.antic).trans (by decide)
  have awaits : (s₀.observed.storedAll 7 stores).Awaits code 18 := by
    refine ⟨third.loaded, ?_⟩
    rw [third.antic, third.schedule]
    exact ⟨by decide, by decide, by decide, by decide, rfl⟩
  obtain ⟨s, ran⟩ := start.ranOn (List.prefix_append _ _) total (by decide) goes quiet 2000
    (by decide) (by decide)
  have serves := ran.reachable.servesList
  have passed : ¬s.observed.Awaits code 18 := by
    rintro ⟨-, -, -, early, -, line⟩
    have ahead := ran.reachable.total_lt_line ran.none
    have late : 2000 ≤ s.cpu.total.toNat := ran.reaches
    have first : firstDisplayLine = 8 := rfl
    rw [Session.line, line] at ahead
    omega
  obtain ⟨a, mem, asks⟩ := (awaits.idles (by decide) (by decide) ran.idle).resolve_left passed
  have asked : 1832 ∈ asked s.observed.trace := Observation.mem_collect.2 ⟨a, mem, asks⟩
  exact ⟨s, ran.reachable, serves, asked,
    serves.rest ran.none 1832 asked (Nat.le_trans (by decide) ran.reaches)⟩

end Session

end Atari800XL
