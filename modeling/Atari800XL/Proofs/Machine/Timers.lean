import Atari800XL.Proofs.Machine.History
import Atari800XL.Proofs.Machine.Programs

namespace Atari800XL

open Pokey (Timer)

namespace Board

variable {b : Board} {address : UInt16}

def retimes (b : Board) (address : UInt16) : Bool :=
  b.memory.accessAt address == .pokey && Pokey.retimes (lowByte address)

def startsTimers (b : Board) (address : UInt16) : Bool :=
  b.memory.accessAt address == .pokey && lowByte address &&& 0x0F == Pokey.timerStart

structure SameTimers (b b' : Board) : Prop where
  timing : b'.pokey.timing = b.pokey.timing
  deadline : ∀ t : Timer, b'.schedule.deadline t.event = b.schedule.deadline t.event

theorem Quiet.sameTimers {b' : Board} (h : b.Quiet b') : b.SameTimers b' :=
  ⟨h.timing, fun t => by rw [h.schedule]⟩

theorem pokey_sendToDrives (b : Board) (byte : UInt8) : (b.sendToDrives byte).pokey = b.pokey :=
  pokey_expectReply _ _

theorem sameTimers_sendToDrives (b : Board) (byte : UInt8) : b.SameTimers (b.sendToDrives byte) where
  timing := by rw [pokey_sendToDrives]
  deadline t := by
    have sets : b.schedule.Sets (· = .serialInReady) (b.sendToDrives byte).schedule :=
      sets_sendToDrives (b := b) (p := (· = .serialInReady)) rfl .refl byte
    refine sets.deadline ?_
    cases t <;> exact nofun

theorem sameTimers_write (h : b.retimes address = false) (value : UInt8) :
    b.SameTimers (b.write address value) := by
  unfold Board.write
  split
  case h_4 pokey =>
    rw [retimes, pokey, beq_self_eq_true, Bool.true_and] at h
    obtain ⟨timing, deadline⟩ := Pokey.write_of_not_retimes b.pokey b.clock b.schedule value h
    unfold writePokey
    dsimp only
    split
    · have sent := sameTimers_sendToDrives
        { b with
          pokey := (b.pokey.write (lowByte address) value b.clock b.schedule).1
          schedule := (b.pokey.write (lowByte address) value b.clock b.schedule).2 } value
      exact ⟨sent.timing.trans timing, fun t => (sent.deadline t).trans (deadline t)⟩
    · exact ⟨timing, deadline⟩
  case h_6 =>
    refine ⟨rfl, fun t => ?_⟩
    rcases antic_write b.antic (lowByte address) value b.schedule with same | waits
    · exact congrArg (·.deadline t.event) same
    · refine (congrArg (·.deadline t.event) waits).trans ?_
      unfold Antic.waitForLine
      split
      · rfl
      · exact Schedule.deadline_stallTo _ _ _
  case h_5 =>
    exact ⟨congrArg Pokey.timing (pokey_applyPorts _),
      fun t => congrArg (·.deadline t.event) (schedule_applyPorts _)⟩
  all_goals exact ⟨rfl, fun _ => rfl⟩

theorem write_of_startsTimers (h : b.startsTimers address = true) (value : UInt8) :
    (b.write address value).pokey.timing = b.pokey.timing ∧
      ∀ t : Timer, (b.write address value).schedule.deadline t.event = b.pokey.expiry b.clock t := by
  rw [startsTimers, Bool.and_eq_true, beq_iff_eq, beq_iff_eq] at h
  have quiet : (lowByte address &&& 0x0F == serialOutput) = false := by
    rw [h.2]
    rfl
  simp only [Board.write, h.1, writePokey, quiet, Bool.false_eq_true, if_false]
  exact ⟨Pokey.timing_write_of_timerStart b.pokey b.clock b.schedule value h.2,
    Pokey.deadline_write_of_timerStart b.pokey b.clock b.schedule value h.2⟩

theorem timing_settle (b : Board) (event : Event) (deadline : UInt64) :
    (b.settle event deadline).pokey.timing = b.pokey.timing := by
  cases event with
  | timer1 => exact Pokey.timing_timerDue b.pokey deadline b.schedule .one
  | timer2 => exact Pokey.timing_timerDue b.pokey deadline b.schedule .two
  | timer4 => exact Pokey.timing_timerDue b.pokey deadline b.schedule .four
  | serialOutNeeded => exact Pokey.timing_raise b.pokey _
  | serialInReady =>
    unfold settle
    dsimp only
    split
    · rfl
    · rename_i byte sio _
      exact (congrArg Pokey.timing (pokey_expectNext _ _)).trans
        (Pokey.timing_raise { b.pokey with serialInput := byte } _)
  | _ => rfl

theorem deadline_settle_timer (b : Board) (t : Timer) (deadline : UInt64) :
    (b.settle t.event deadline).schedule.deadline t.event = b.pokey.expiry deadline t := by
  have due := Pokey.timerDue_eq b.pokey deadline b.schedule t
  have own : (b.pokey.timerDue t deadline b.schedule).2.2.deadline t.event =
      b.pokey.expiry deadline t := by
    rw [due, Schedule.deadline_set, if_pos rfl]
  cases t <;> exact own

theorem sameTimer_settle {event : Event} {t : Timer} (ne : event ≠ t.event) (b : Board)
    (deadline : UInt64) :
    (b.settle event deadline).schedule.deadline t.event = b.schedule.deadline t.event := by
  refine deadline_settle ne.symm (fun _ => ?_) b deadline
  cases t <;> exact nofun

end Board

namespace Observation

def start? (t : Timer) : Observation → Option (Nat × Nat)
  | .wrote before address _ =>
    if before.startsTimers address && before.pokey.runs t then
      some (before.clock.toNat, before.pokey.cycles t)
    else none
  | _ => none

def retimes : Observation → Bool
  | .wrote before address _ => before.retimes address
  | _ => false

theorem retimes_of_not_isWrite {a : Observation} (h : a.isWrite = false) : a.retimes = false := by
  cases a with
  | wrote => cases h
  | _ => rfl

def expiry? (t : Timer) : Observation → Option Nat
  | .handled _ _ event deadline => if event = t.event then some deadline.toNat else none
  | _ => none

def expiries (t : Timer) : List Observation → List Nat := collect (expiry? t)

theorem expiry?_own (cpu : Cpu) (b : Board) (t : Timer) (deadline : UInt64) :
    (handled cpu b t.event deadline).expiry? t = some deadline.toNat := if_pos rfl

theorem expiry?_other {cpu : Cpu} {b : Board} {event : Event} {t : Timer} (ne : event ≠ t.event)
    {deadline : UInt64} : (handled cpu b event deadline).expiry? t = none := if_neg ne

end Observation

open Observation (expiries)

def multiples (start period n : Nat) : List Nat :=
  (List.range n).map fun k => start + (k + 1) * period

theorem multiples_succ (start period n : Nat) :
    multiples start period (n + 1) =
      multiples start period n ++ [start + (n + 1) * period] := by
  rw [multiples, List.range_succ, List.map_append, multiples, List.map_singleton]

/-- A timer runs that has been started and then left alone: it has expired once for each of its
periods, and is to expire after the next one. -/
structure Ticking (t : Timer) (start period : Nat) (later : List Observation) (b : Board) :
    Prop where
  runs : b.pokey.runs t = true
  paced : b.pokey.cycles t = period
  exact : ∃ n, expiries t later = multiples start period n ∧
    (b.schedule.deadline t.event).toNat = start + (n + 1) * period

namespace Ticking

variable {t : Timer} {start period : Nat} {later : List Observation} {b b' : Board}

theorem of_sameTimers (h : Ticking t start period later b) (same : b.SameTimers b') :
    Ticking t start period later b' where
  runs := (Pokey.runs_congr same.timing t).trans h.runs
  paced := (Pokey.cycles_congr same.timing t).trans h.paced
  exact := by
    rw [same.deadline]
    exact h.exact

theorem cons (h : Ticking t start period later b) {a : Observation} (other : a.expiry? t = none) :
    Ticking t start period (a :: later) b where
  runs := h.runs
  paced := h.paced
  exact := by
    rw [expiries, Observation.collect_cons_of_none other]
    exact h.exact

theorem toNat_expiry {cycle : UInt64} (fits : Fits cycle) (runs : b.pokey.runs t = true) :
    (b.pokey.expiry cycle t).toNat = cycle.toNat + b.pokey.cycles t := by
  have short := (b.pokey.bounded_period t).2
  rw [Pokey.expiry_of_runs runs, (fits.add short).1, Pokey.toNat_period]

theorem started {address : UInt16} (clock : Fits b.clock) (starts : b.startsTimers address = true)
    (runs : b.pokey.runs t = true) (value : UInt8) :
    Ticking t b.clock.toNat (b.pokey.cycles t) [] (b.write address value) := by
  obtain ⟨timing, deadline⟩ := Board.write_of_startsTimers starts value
  refine ⟨(Pokey.runs_congr timing t).trans runs, Pokey.cycles_congr timing t, 0, rfl, ?_⟩
  rw [deadline, toNat_expiry clock runs]
  omega

theorem settle (h : Ticking t start period later b) {cpu : Cpu} {event : Event} {deadline : UInt64}
    (fits : Fits deadline) (own : b.schedule.deadline event = deadline) :
    Ticking t start period (.handled cpu b event deadline :: later) (b.settle event deadline) := by
  have timing := b.timing_settle event deadline
  refine ⟨(Pokey.runs_congr timing t).trans h.runs, (Pokey.cycles_congr timing t).trans h.paced, ?_⟩
  obtain ⟨n, expired, next⟩ := h.exact
  by_cases same : event = t.event
  -- The next period counts from the deadline, not from the cycle at which it is handled.
  · subst same
    refine ⟨n + 1, ?_, ?_⟩
    · rw [expiries, Observation.collect_cons_of_some (Observation.expiry?_own cpu b t deadline),
        ← expiries, expired, multiples_succ, ← next, own]
    · rw [Board.deadline_settle_timer, toNat_expiry fits h.runs, h.paced, ← own, next,
        Nat.succ_mul (n + 1), Nat.add_assoc]
  · refine ⟨n, ?_, ?_⟩
    · rw [expiries, Observation.collect_cons_of_none (Observation.expiry?_other same), ← expiries,
        expired]
    · rw [Board.sameTimer_settle same, next]

theorem mem_expiries (h : Ticking t start period later b) {now k : Nat}
    (next : now < (b.schedule.deadline t.event).toNat) (some : 1 ≤ k)
    (past : start + k * period ≤ now) : start + k * period ∈ expiries t later := by
  obtain ⟨n, expired, deadline⟩ := h.exact
  have few : k ≤ n := by
    refine Nat.le_of_not_lt fun many => ?_
    have more : (n + 1) * period ≤ k * period := Nat.mul_le_mul_right period many
    omega
  rw [expired]
  refine List.mem_map.2 ⟨k - 1, List.mem_range.2 (by omega), ?_⟩
  rw [Nat.sub_add_cancel some]

end Ticking

namespace Observed

structure TimersTick (t : Timer) (o : Observed) : Prop where
  clock : Fits o.board.clock
  ticking : ∀ later a earlier start period, o.trace = later ++ a :: earlier →
    a.start? t = some (start, period) → (∀ x ∈ later, x.retimes = false) →
    Ticking t start period later o.board

namespace TimersTick

variable {t : Timer}

theorem cons {o : Observed} (h : o.TimersTick t) {board : Board} {a : Observation}
    (clock : Fits board.clock)
    (starts : ∀ start period, a.start? t = some (start, period) → Ticking t start period [] board)
    (goes : ∀ later start period, a.retimes = false → Ticking t start period later o.board →
      Ticking t start period (a :: later) board) :
    TimersTick t { board, trace := a :: o.trace } where
  clock := clock
  ticking later a' earlier start period same started kept := by
    cases later with
    | nil =>
      obtain ⟨rfl, -⟩ := List.cons.inj same
      exact starts start period started
    | cons x later =>
      obtain ⟨rfl, rest⟩ := List.cons.inj same
      obtain ⟨own, kept⟩ := List.forall_mem_cons.1 kept
      exact goes later start period own (h.ticking later a' earlier start period rest started kept)

theorem write (o : Observed) (address : UInt16) (value : UInt8) (h : o.TimersTick t) :
    TimersTick t (Bus.write o address value) := by
  refine h.cons ?_ ?_ ?_
  · show Fits (o.board.write address value).clock
    rw [Board.clock_write]
    exact h.clock
  · intro start period started
    simp only [Observation.start?] at started
    split at started
    · rename_i starts
      rw [Bool.and_eq_true] at starts
      cases started
      exact .started h.clock starts.1 starts.2 value
    · cases started
  · intro later start period kept ticking
    exact (ticking.of_sameTimers (Board.sameTimers_write kept value)).cons rfl

theorem invariant (t : Timer) : Observed.Invariant (TimersTick t) where
  reset m :=
    { clock := by
        rw [m.clock_hardReset]
        decide
      ticking := fun later a earlier start period same => by simp at same }
  quiet h quiet :=
    { clock := by
        rw [quiet.clock]
        exact h.clock
      ticking := fun later a earlier start period same started kept =>
        (h.ticking later a earlier start period same started kept).of_sameTimers quiet.sameTimers }
  start h sound fits next stall := by
    refine h.cons fits nofun ?_
    intro later start period kept ticking
    exact (ticking.cons rfl).of_sameTimers ⟨rfl, fun _ => rfl⟩
  write o address value h := h.write o address value
  settle {o cpu event deadline} h sound fits own first := by
    refine h.cons ?_ nofun ?_
    · rw [Board.clock_settle]
      exact fits
    · intro later start period kept ticking
      exact ticking.settle fits own

end TimersTick

end Observed

namespace Pokey

def slowest (control enable : UInt8) : Timing := ⟨Quad.zero, 0, control, enable⟩

theorem cycles_of_slowest {p : Pokey} {control enable : UInt8}
    (h : p.timing = slowest control enable) (t : Timer) : t.period p.periods = 28 := by
  obtain ⟨frequency, sound, -, -⟩ := Timing.mk.inj h
  rw [periods, frequency, sound]
  cases t <;> decide

theorem write_control {p : Pokey} (h : p.timing = slowest 0 0) (now : UInt64) (s : Schedule) :
    (p.write 0x0F 3 now s).1.timing = slowest 3 0 ∧
      (p.write 0x0F 3 now s).2 = ((s.clear .timer1).clear .timer2).clear .timer4 := by
  obtain ⟨frequency, sound, control, enable⟩ := Timing.mk.inj h
  constructor
  · simp [write, setSerialControl, Pokey.held, control, catchUp, timing, slowest, frequency, sound,
      enable, hasBit]
  · simp [write, setSerialControl, Pokey.held, control, catchUp, restartTimers, Timer.all,
      setTimer, enables, enable, hasBit, Timer.event]

theorem write_enable {p : Pokey} (h : p.timing = slowest 3 0) (now : UInt64) (s : Schedule) :
    (p.write 0x0E 1 now s).1.timing = slowest 3 1 ∧
      (p.write 0x0E 1 now s).2 = s.set .timer1 (now + 28) := by
  obtain ⟨frequency, sound, control, enable⟩ := Timing.mk.inj h
  have timing : (p.write 0x0E 1 now s).1.timing = slowest 3 1 := by
    show (Timing.mk p.frequency p.soundControl p.serialControl 1) = _
    rw [frequency, sound, control]
    rfl
  have changed :
      (Timer.all.filter fun t => hasBit ((1 ^^^ 0) &&& timerSources) t.source) = [.one] := by
    decide
  have runs : (p.write 0x0E 1 now s).1.runs .one = true := by
    show (hasBit 1 1 && !!hasBit p.serialControl 0x03) = true
    rw [control]
    decide
  refine ⟨timing, ?_⟩
  have written : (p.write 0x0E 1 now s).2 =
      (Timer.all.filter fun t => hasBit ((1 ^^^ p.interruptEnable) &&& timerSources) t.source).foldl
        ((p.write 0x0E 1 now s).1.setTimer now) s := rfl
  rw [written, enable]
  show ((Timer.all.filter fun t => hasBit ((1 ^^^ 0) &&& timerSources) t.source).foldl
        ((p.write 0x0E 1 now s).1.setTimer now) s) = _
  rw [changed, List.foldl_cons, List.foldl_nil, setTimer_eq, expiry_of_runs runs,
    cycles_of_slowest timing]
  rfl

end Pokey

namespace Observed

structure Tuned (o : Observed) (code : List UInt8) (control enable : UInt8) (s : Schedule) :
    Prop where
  loaded : o.board.memory.Loaded code
  quiet : o.board.antic.interruptEnable = 0
  timing : o.board.pokey.timing = Pokey.slowest control enable
  schedule : o.board.schedule = s

namespace Tuned

variable {o : Observed} {code : List UInt8} {s : Schedule}

theorem control (h : o.Tuned code 0 0 s) (cycle : UInt64) :
    (o.stored cycle 0xD20F 3).Tuned code 3 0 (((s.clear .timer1).clear .timer2).clear .timer4) := by
  obtain ⟨timing, schedule⟩ := Pokey.write_control h.timing (cycle + 2) o.board.schedule
  have stored := stored_pokey_of_ne (a := 0xD20F) h.loaded cycle 3 (by decide) (by decide)
  refine ⟨(stored_pokey (a := 0xD20F) h.loaded cycle 3 (by decide)).2, ?_, ?_, ?_⟩
  · rw [stored]
    exact h.quiet
  · rw [stored]
    exact timing
  · rw [stored, ← h.schedule]
    exact schedule

theorem enable (h : o.Tuned code 3 0 s) (cycle : UInt64) :
    (o.stored cycle 0xD20E 1).Tuned code 3 1 (s.set .timer1 (cycle + 2 + 28)) := by
  obtain ⟨timing, schedule⟩ := Pokey.write_enable h.timing (cycle + 2) o.board.schedule
  have stored := stored_pokey_of_ne (a := 0xD20E) h.loaded cycle 1 (by decide) (by decide)
  refine ⟨(stored_pokey (a := 0xD20E) h.loaded cycle 1 (by decide)).2, ?_, ?_, ?_⟩
  · rw [stored]
    exact h.quiet
  · rw [stored]
    exact timing
  · rw [stored, ← h.schedule]
    exact schedule

theorem start (h : o.Tuned code 3 1 s) (cycle : UInt64) :
    ((o.stored cycle 0xD209 0).board.memory.Loaded code ∧
      (o.stored cycle 0xD209 0).board.antic.interruptEnable = 0) ∧
    ∃ a earlier, (o.stored cycle 0xD209 0).trace = a :: earlier ∧
      a.start? .one = some ((cycle + 2).toNat, 28) := by
  have stored := stored_pokey_of_ne (a := 0xD209) h.loaded cycle 0 (by decide) (by decide)
  refine ⟨⟨(stored_pokey (a := 0xD209) h.loaded cycle 0 (by decide)).2, ?_⟩, _, _, rfl, ?_⟩
  · rw [stored]
    exact h.quiet
  · let before := ((o.start cycle).start (cycle + 2)).board
    have loaded : before.memory.Loaded code := h.loaded
    have starts : before.startsTimers 0xD209 = true := by
      rw [Board.startsTimers, loaded.pokey (by decide)]
      decide
    have runs : before.pokey.runs .one = true := by
      obtain ⟨-, -, control, enable⟩ := Pokey.Timing.mk.inj h.timing
      show (hasBit o.board.pokey.interruptEnable 0x01 &&
        !!hasBit o.board.pokey.serialControl 0x03) = true
      rw [control, enable]
      decide
    have period : before.pokey.cycles .one = 28 := by
      rw [← Pokey.toNat_period, Pokey.cycles_of_slowest (p := before.pokey) h.timing]
      rfl
    rw [Observation.start?, starts, runs, period]
    rfl

end Tuned

end Observed

namespace Session

/-- What has become of a timer that was started and then left alone. -/
structure KeepsTime (s : Session) (t : Timer) (start period : Nat) (later : List Observation) :
    Prop where
  /-- It has expired once for each period, in order, and expires after the next one. -/
  exact : ∃ n, expiries t later = multiples start period n ∧
    (s.observed.board.schedule.deadline t.event).toNat = start + (n + 1) * period
  prompt : ∀ newer cycle older, later = newer ++ .started cycle :: older → ∀ k, 1 ≤ k →
    start + k * period ≤ cycle.toNat → start + k * period ∈ expiries t older
  rest : s.due = none → ∀ k, 1 ≤ k → start + k * period ≤ s.cpu.total.toNat →
    start + k * period ∈ expiries t later

/-- From a write that starts a timer on, as long as the registers of the timers are not written and
the machine is not reset, the timer expires once for each multiple of its period. -/
def TimersKeepTime (s : Session) : Prop :=
  ∀ t later a earlier start period, s.observed.trace = later ++ a :: earlier →
    a.start? t = some (start, period) → (∀ x ∈ later, x.retimes = false) →
    s.KeepsTime t start period later

theorem Reachable.timersKeepTime {s : Session} (h : s.Reachable) : s.TimersKeepTime := by
  intro t later a earlier start period same started kept
  have holds := (Observed.TimersTick.invariant t).reachable h
  have ticking := holds.2.ticking later a earlier start period same started kept
  refine ⟨ticking.exact, ?_, ?_⟩
  · intro newer cycle older split k some past
    rw [split, List.append_assoc, List.cons_append] at same
    obtain ⟨board, offers, -, before⟩ := h.held (Observed.TimersTick.invariant t) same
    cases offers with
    | started sound next =>
      have ticked := before.ticking older a earlier start period rfl started fun x mem =>
        kept x (by rw [split]; exact List.mem_append_right _ (List.mem_cons_of_mem _ mem))
      have ahead := UInt64.lt_of_lt_of_le next (sound.exact.next_le t.event)
      exact ticked.mem_expiries (UInt64.lt_iff_toNat_lt.1 ahead) some past
  · intro none k some past
    have next := holds.1.exact.due_eq_none_iff.1 none
    have ahead := UInt64.lt_of_lt_of_le next (holds.1.exact.next_le t.event)
    exact ticking.mem_expiries (UInt64.lt_iff_toNat_lt.1 ahead) some past

/-- A program enables the first timer and starts it in cycle 21. After a thousand cycles it has
expired 34 times. -/
theorem timersKeepTime_started :
    ∃ s : Session, s.Reachable ∧ s.TimersKeepTime ∧ ∃ later a earlier,
      s.observed.trace = later ++ a :: earlier ∧ a.start? .one = some (21, 28) ∧
        (∀ x ∈ later, x.retimes = false) ∧ 21 + 34 * 28 ∈ expiries .one later := by
  let stores : List (UInt16 × UInt8) := [(0xD20F, 3), (0xD20E, 1), (0xD209, 0)]
  let code := Program.storing stores
  obtain ⟨s₀, start, total, new⟩ := exists_new code
  have tuned : s₀.observed.Tuned code 0 0 (({} : Schedule).set .lineFetch 114) :=
    ⟨start.loaded, congrArg Antic.interruptEnable new.antic, new.timing, new.schedule⟩
  have controlled := tuned.control 7
  have enabled := controlled.enable (7 + 6)
  obtain ⟨⟨loaded, quiet⟩, a, earlier, trace, starts⟩ := enabled.start (7 + 6 + 6)
  have goes : s₀.observed.GoThrough code 7 stores := by
    refine ⟨?_, controlled.loaded, ?_, enabled.loaded, ?_, loaded, trivial⟩
    · rw [tuned.schedule]
      decide
    · rw [controlled.schedule]
      decide
    · rw [enabled.schedule]
      decide
  obtain ⟨s, ran⟩ :=
    start.ranOn List.prefix_rfl total (by decide) goes quiet 1000 (by decide) (by decide)
  obtain ⟨later, same, unwritten⟩ := Observed.exists_later ran.idle
  have kept : ∀ x ∈ later, x.retimes = false := fun x mem =>
    Observation.retimes_of_not_isWrite (unwritten x mem)
  have trace : s.observed.trace = later ++ a :: earlier :=
    same.trans (congrArg (later ++ ·) trace)
  have keeps := ran.reachable.timersKeepTime
  have expired := (keeps .one later a earlier 21 28 trace starts kept).rest ran.none 34 (by decide)
    (Nat.le_trans (by decide) ran.reaches)
  exact ⟨s, ran.reachable, keeps, later, a, earlier, trace, starts, kept, expired⟩

end Session

end Atari800XL
