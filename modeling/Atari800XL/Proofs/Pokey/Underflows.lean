import Mathlib.Logic.Function.Iterate
import Atari800XL.Proofs.Pokey.Silence
import Atari800XL.Proofs.Pokey.Timing

/-! The chip counts the periods of its timers twice: by deadlines, to which a period is added, and in
its sound by dividers that count down cycle by cycle. Both pick up every new period at the same cycle,
so that a timer expires exactly when the divider of its channel runs out. -/

namespace Atari800XL.Pokey

open Function

namespace Timer

def channel : Timer → Nat
  | .one => 0
  | .two => 1
  | .four => 3

def counts (joined12 : Bool) : Timer → Bool
  | .one => !joined12
  | .two | .four => true

end Timer

namespace Tone

variable {t : Tone}

theorem runsOut_eq_true (h : t.counter.toNat ≤ 1) : t.runsOut = true :=
  decide_eq_true (UInt64.le_iff_toNat_le.2 h)

theorem runsOut_eq_false (h : 1 < t.counter.toNat) : t.runsOut = false :=
  decide_eq_false (UInt64.not_le.2 (UInt64.lt_iff_toNat_lt.2 h))

end Tone

namespace Generator

variable {g : Generator} {s : Settings} {t : Timer} {m n d : Nat}

def tone (g : Generator) : Timer → Tone
  | .one => g.one
  | .two => g.two
  | .four => g.four

def underflows (g : Generator) (s : Settings) (t : Timer) : Bool :=
  t.counts s.joins12 && (g.tone t).runsOut

def after (g : Generator) (s : Settings) (n : Nat) : Generator := (·.step s)^[n] g

def runOuts (g : Generator) (s : Settings) (t : Timer) (done n : Nat) : List Nat :=
  ((List.range n).filter fun i => (g.after s i).underflows s t).map (done + · + 1)

theorem after_succ (g : Generator) (s : Settings) (n : Nat) :
    g.after s (n + 1) = (g.after s n).step s := iterate_succ_apply' _ n g

theorem runOuts_succ (g : Generator) (s : Settings) (t : Timer) (done n : Nat) :
    g.runOuts s t done (n + 1) =
      g.runOuts s t done n ++ if (g.after s n).underflows s t then [done + n + 1] else [] := by
  rw [runOuts, List.range_succ, List.filter_append, List.map_append, ← runOuts]
  cases found : (g.after s n).underflows s t <;> simp [found]

theorem tone_step (g : Generator) (s : Settings) (t : Timer) :
    (g.step s).tone t =
      if t.counts s.joins12 then
        (g.tone t).tick g.noise.step (t.period s.periods) (s.control.at4 t.channel) s.nineBit
      else g.tone t := by
  cases t with
  | one =>
    cases joined : s.joins12 with
    | true => exact if_pos joined
    | false => exact if_neg (Bool.eq_false_iff.1 joined)
  | two => rfl
  | four => rfl

theorem after_of_lt (counts : t.counts s.joins12 = true)
    (count : ((g.after s m).tone t).counter.toNat = d) (lt : n < d) (done : Nat) :
    ((g.after s (m + n)).tone t).counter.toNat = d - n ∧
      g.runOuts s t done (m + n) = g.runOuts s t done m := by
  induction n with
  | zero => exact ⟨count, rfl⟩
  | succ n ih =>
    obtain ⟨left, same⟩ := ih (Nat.lt_of_succ_lt lt)
    have goesOn : ((g.after s (m + n)).tone t).runsOut = false :=
      Tone.runsOut_eq_false (by omega)
    have quiet : (g.after s (m + n)).underflows s t = false := by
      rw [underflows, goesOn, Bool.and_false]
    rw [← Nat.add_assoc, after_succ, runOuts_succ, quiet, same, tone_step, if_pos counts, Tone.tick,
      goesOn]
    refine ⟨?_, List.append_nil _⟩
    show (((g.after s (m + n)).tone t).counter - 1).toNat = d - (n + 1)
    have more : (1 : UInt64) ≤ ((g.after s (m + n)).tone t).counter :=
      UInt64.le_iff_toNat_le.2 (left ▸ Nat.sub_pos_of_lt (Nat.lt_of_succ_lt lt))
    rw [UInt64.toNat_sub_of_le _ _ more, left]
    rfl

theorem after_of_eq (counts : t.counts s.joins12 = true)
    (count : ((g.after s m).tone t).counter.toNat = d) (pos : 0 < d) (done : Nat) :
    ((g.after s (m + d)).tone t).counter = max (t.period s.periods) 1 ∧
      g.runOuts s t done (m + d) = g.runOuts s t done m ++ [done + m + d] := by
  obtain ⟨n, rfl⟩ := Nat.exists_eq_succ_of_ne_zero (Nat.ne_of_gt pos)
  obtain ⟨left, same⟩ := after_of_lt counts count (Nat.lt_succ_self n) done
  have through : ((g.after s (m + n)).tone t).runsOut = true :=
    Tone.runsOut_eq_true (by omega)
  have loud : (g.after s (m + n)).underflows s t = true := by
    rw [underflows, counts, through, Bool.and_true]
  have cycle : done + (m + n) + 1 = done + m + n.succ := by omega
  rw [Nat.succ_eq_add_one, ← Nat.add_assoc, after_succ, runOuts_succ, loud, same, cycle, tone_step,
    if_pos counts, Tone.tick, through]
  exact ⟨rfl, rfl⟩

theorem runOuts_of_not_counts (idle : t.counts s.joins12 = false) (done n : Nat) :
    g.runOuts s t done n = [] := by
  have quiet (i : Nat) : (g.after s i).underflows s t = false := by
    rw [underflows, idle, Bool.false_and]
  simp [runOuts, quiet]

end Generator

namespace Sound

variable {s : Sound} {settings : Settings} {now : UInt64}

theorem generator_play (n : Nat) (settings : Settings) (g : Generator) (out : Sampler) :
    (play n settings g out).1 = g.after settings n := by
  induction n generalizing g out with
  | zero => rfl
  | succ n ih => exact ih (g.step settings) _

theorem catchUp_of_enabled (enabled : s.enabled = true) (free : settings.held = false)
    (le : s.done ≤ now) :
    (s.catchUp now settings).enabled = true ∧ (s.catchUp now settings).done = now ∧
      (s.catchUp now settings).generator =
        s.generator.after settings (now.toNat - s.done.toNat) := by
  rcases UInt64.lt_or_eq_of_le le with lt | rfl
  · have elapsed : (now - s.done).toNat = now.toNat - s.done.toNat := UInt64.toNat_sub_of_le _ _ le
    unfold catchUp
    rw [if_neg (UInt64.not_le.2 lt)]
    dsimp only
    rw [free, enabled, if_neg Bool.false_ne_true, if_pos rfl, elapsed]
    exact ⟨rfl, rfl, generator_play _ settings s.generator s.sampler⟩
  · rw [catchUp_of_le (UInt64.le_refl _), Nat.sub_self]
    exact ⟨enabled, rfl, rfl⟩

end Sound

section

variable {p p' : Pokey} {t : Timer} {start now : UInt64}

def counts (p : Pokey) (t : Timer) : Bool := t.counts p.settings.joins12

def runOuts (p : Pokey) (t : Timer) (now : UInt64) : List Nat :=
  p.sound.generator.runOuts p.settings t p.sound.done.toNat (now.toNat - p.sound.done.toNat)

def countdown (p : Pokey) (t : Timer) (now : UInt64) : Nat :=
  ((p.sound.generator.after p.settings (now.toNat - p.sound.done.toNat)).tone t).counter.toNat

theorem sound_catchUp (enabled : p.sound.enabled = true) (runs : p.runs t = true)
    (made : p.sound.done ≤ now) :
    (p.catchUp now).sound.enabled = true ∧ (p.catchUp now).sound.done = now ∧
      (p.catchUp now).sound.generator =
        p.sound.generator.after p.settings (now.toNat - p.sound.done.toNat) :=
  Sound.catchUp_of_enabled enabled ((p.runs_iff t).1 runs).2 made

theorem runOuts_done (made : p.sound.done = now) (t : Timer) : p.runOuts t now = [] := by
  rw [runOuts, made, Nat.sub_self]
  rfl

theorem countdown_done (made : p.sound.done = now) (t : Timer) :
    p.countdown t now = (p.sound.generator.tone t).counter.toNat := by
  rw [countdown, made, Nat.sub_self]
  rfl

theorem max_period (p : Pokey) (t : Timer) : max (t.period p.periods) 1 = t.period p.periods := by
  have positive := (p.bounded_period t).1
  have one : (1 : UInt64).toNat = 1 := rfl
  refine if_neg (UInt64.not_le.2 (UInt64.lt_iff_toNat_lt.2 ?_))
  rw [one]
  omega

theorem runOuts_of_lt (counts : p.counts t = true) (made : p.sound.done ≤ start) (le : start ≤ now)
    (lt : now.toNat < start.toNat + p.countdown t start) :
    now.toNat + p.countdown t now = start.toNat + p.countdown t start ∧
      p.runOuts t now = p.runOuts t start := by
  rw [UInt64.le_iff_toNat_le] at made le
  have cycles : now.toNat - p.sound.done.toNat =
      start.toNat - p.sound.done.toNat + (now.toNat - start.toNat) := by omega
  have less : now.toNat - start.toNat < p.countdown t start := by omega
  obtain ⟨left, same⟩ := Generator.after_of_lt counts rfl less p.sound.done.toNat
  rw [← cycles] at left same
  refine ⟨?_, same⟩
  rw [countdown, left, ← countdown]
  omega

theorem runOuts_of_eq (counts : p.counts t = true) (made : p.sound.done ≤ start)
    (pos : 0 < p.countdown t start) (eq : start.toNat + p.countdown t start = now.toNat) :
    p.countdown t now = (t.period p.periods).toNat ∧
      p.runOuts t now = p.runOuts t start ++ [now.toNat] := by
  rw [UInt64.le_iff_toNat_le] at made
  have cycles : now.toNat - p.sound.done.toNat =
      start.toNat - p.sound.done.toNat + p.countdown t start := by omega
  have cycle : p.sound.done.toNat + (start.toNat - p.sound.done.toNat) + p.countdown t start =
      now.toNat := by omega
  obtain ⟨through, noted⟩ := Generator.after_of_eq counts rfl pos p.sound.done.toNat
  rw [← countdown, ← cycles] at through noted
  rw [cycle] at noted
  refine ⟨?_, noted⟩
  rw [countdown, through]
  exact congrArg UInt64.toNat (p.max_period t)

theorem runOuts_of_not_counts (idle : p.counts t = false) (now : UInt64) : p.runOuts t now = [] :=
  Generator.runOuts_of_not_counts idle _ _

theorem settings_raise (p : Pokey) (source : UInt8) : (p.raise source).2.settings = p.settings := by
  unfold raise
  split <;> rfl

theorem settings_timerDue (p : Pokey) (t : Timer) (deadline : UInt64) (s : Schedule) :
    (p.timerDue t deadline s).2.1.settings = p.settings := by
  rw [timerDue_eq]
  dsimp only
  split
  · exact settings_raise p t.source
  · rfl

end

section

variable {register : UInt8}

def spares (register : UInt8) : Bool :=
  match (register &&& 0x0F).toNat with
  | 0x0E | 0x0F => false
  | _ => true

def restarts (register : UInt8) : Bool :=
  match (register &&& 0x0F).toNat with
  | 0x08 | 0x09 => true
  | _ => false

theorem write_of_restarts (h : restarts register = true) (p : Pokey) (value : UInt8) (now : UInt64)
    (s : Schedule) :
    ∃ q : Pokey, p.write register value now s = q.restart now s ∧
      q.sound = (p.catchUp now).sound ∧ ∀ t, q.runs t = p.runs t := by
  have nibble : (register &&& 0x0F).toNat = 0x08 ∨ (register &&& 0x0F).toNat = 0x09 := by
    unfold restarts at h
    split at h
    · exact .inl ‹_›
    · exact .inr ‹_›
    · cases h
  rcases nibble with control | strobe
  · simp only [write, control]
    exact ⟨{ p.catchUp now with soundControl := value }, rfl, rfl, fun _ => rfl⟩
  · simp only [write, strobe]
    exact ⟨p.catchUp now, rfl, rfl, fun _ => rfl⟩

theorem write_of_not_restarts (spared : spares register = true) (h : restarts register = false)
    (p : Pokey) (value : UInt8) (now : UInt64) (s : Schedule) :
    (p.write register value now s).1.sound = (p.catchUp now).sound ∧
      (∀ t, (p.write register value now s).1.counts t = p.counts t ∧
        (p.write register value now s).1.runs t = p.runs t ∧
        (p.write register value now s).2.deadline t.event = s.deadline t.event) := by
  unfold spares at spared
  unfold restarts at h
  unfold write
  dsimp only
  split
  case h_13 =>
    refine ⟨rfl, fun t => ⟨rfl, rfl, ?_⟩⟩
    cases t <;> simp [send, Timer.event]
  case' h_9 | h_10 =>
    rename_i nibble
    rw [nibble] at h
    cases h
  case' h_14 | h_15 =>
    rename_i nibble
    rw [nibble] at spared
    cases spared
  all_goals exact ⟨rfl, fun _ => ⟨rfl, rfl, rfl⟩⟩

end

structure Expiry where
  deadline : Nat
  joined12 : Bool
  deriving DecidableEq, Repr

/-- What has become of a timer and its divider since the dividers were started. -/
structure Timeline where
  clock : UInt64
  underflows : List Nat := []
  expiries : List Expiry := []

def Timeline.counted (l : Timeline) (t : Timer) : List Nat :=
  (l.expiries.filter (t.counts ·.joined12)).map (·.deadline)

theorem Timeline.counted_append (l : Timeline) (t : Timer) (clock : UInt64) (e : Expiry) :
    { l with clock, expiries := l.expiries ++ [e] }.counted t =
      l.counted t ++ if t.counts e.joined12 then [e.deadline] else [] := by
  rw [counted, List.filter_append, List.map_append, ← counted]
  cases counts : t.counts e.joined12 <;> simp [counts]

structure Recorded where
  chip : Pokey
  schedule : Schedule
  timeline : Timer → Timeline

namespace Recorded

variable {o : Recorded} {t : Timer} {now : UInt64}

def deadline (o : Recorded) (t : Timer) : UInt64 := o.schedule.deadline t.event

/-- The cycles up to `now` in which the divider runs out. -/
def underflowsBy (o : Recorded) (t : Timer) (now : UInt64) : List Nat :=
  (o.timeline t).underflows ++ o.chip.runOuts t now

inductive Action
  | write (register value : UInt8) (now : UInt64)
  | expire (t : Timer)

def apply (o : Recorded) : Action → Recorded
  | .write register value now =>
    let (chip, schedule) := o.chip.write register value now o.schedule
    { chip
      schedule
      timeline := fun t =>
        { o.timeline t with clock := now, underflows := o.underflowsBy t now } }
  | .expire t =>
    let (_, chip, schedule) := o.chip.timerDue t (o.deadline t) o.schedule
    let expiry := { deadline := (o.deadline t).toNat, joined12 := o.chip.settings.joins12 }
    { chip
      schedule
      timeline := update o.timeline t
        { o.timeline t with
          clock := o.deadline t
          expiries := (o.timeline t).expiries ++ [expiry] } }

/-- No timer sees time go back, and timers that are due at a write have expired before it. Interrupts
are neither enabled nor disabled, and the chip is not held. -/
def Allows (o : Recorded) : Action → Prop
  | .write register _ now =>
    spares register = true ∧ ∀ t, (o.timeline t).clock ≤ now ∧ now < o.deadline t
  | .expire t => (o.timeline t).clock ≤ o.deadline t

instance decidableForall {P : Timer → Prop} [DecidablePred P] : Decidable (∀ t, P t) :=
  decidable_of_iff (P .one ∧ P .two ∧ P .four)
    ⟨fun h t => by
      cases t with
      | one => exact h.1
      | two => exact h.2.1
      | four => exact h.2.2,
    fun h => ⟨h .one, h .two, h .four⟩⟩

instance (o : Recorded) : DecidablePred o.Allows
  | .write register _ now =>
    inferInstanceAs (Decidable (spares register = true ∧
      ∀ t, (o.timeline t).clock ≤ now ∧ now < o.deadline t))
  | .expire t => inferInstanceAs (Decidable ((o.timeline t).clock ≤ o.deadline t))

def start (p : Pokey) (s : Schedule) (register value : UInt8) (now : UInt64) : Recorded where
  chip := (p.write register value now s).1
  schedule := (p.write register value now s).2
  timeline _ := { clock := now }

/-- Calls in any order, from a write that starts the dividers of a chip with its sound on and all of
its timers running. -/
inductive Course : Recorded → Prop
  | start {p : Pokey} {register : UInt8} {now : UInt64} (s : Schedule) (value : UInt8) :
      p.sound.enabled = true → (∀ t, p.runs t = true) → p.sound.done ≤ now →
      restarts register = true → Course (start p s register value now)
  | apply {o : Recorded} {a : Action} : Course o → o.Allows a → Course (o.apply a)

/-- The divider has run out whenever the timer has expired, and runs out next at its deadline, unless
that lies behind the end of time. -/
structure Agrees (o : Recorded) (t : Timer) : Prop where
  enabled : o.chip.sound.enabled = true
  runs : o.chip.runs t = true
  made : o.chip.sound.done ≤ (o.timeline t).clock
  noted : o.underflowsBy t (o.timeline t).clock = (o.timeline t).counted t
  due : o.chip.counts t = true → (o.timeline t).clock ≤ o.deadline t →
    0 < o.chip.countdown t (o.timeline t).clock ∧
      (o.timeline t).clock.toNat + o.chip.countdown t (o.timeline t).clock = (o.deadline t).toNat

theorem Agrees.between (h : o.Agrees t) (since : (o.timeline t).clock ≤ now)
    (before : now < o.deadline t) :
    o.underflowsBy t now = (o.timeline t).counted t ∧
      (o.chip.counts t = true → now.toNat + o.chip.countdown t now = (o.deadline t).toNat) := by
  have ahead : (o.timeline t).clock ≤ o.deadline t :=
    UInt64.le_trans since (UInt64.le_of_lt before)
  rw [← h.noted]
  cases counts : o.chip.counts t with
  | true =>
    obtain ⟨-, due⟩ := h.due counts ahead
    have lt := UInt64.lt_iff_toNat_lt.1 before
    obtain ⟨left, same⟩ := runOuts_of_lt counts h.made since (due ▸ lt)
    exact ⟨congrArg (_ ++ ·) same, fun _ => left.trans due⟩
  | false =>
    refine ⟨?_, nofun⟩
    rw [underflowsBy, underflowsBy, runOuts_of_not_counts counts, runOuts_of_not_counts counts]

theorem Agrees.atDeadline (h : o.Agrees t) (ahead : (o.timeline t).clock ≤ o.deadline t)
    (counts : o.chip.counts t = true) :
    o.underflowsBy t (o.deadline t) = (o.timeline t).counted t ++ [(o.deadline t).toNat] ∧
      o.chip.countdown t (o.deadline t) = (t.period o.chip.periods).toNat := by
  obtain ⟨pos, due⟩ := h.due counts ahead
  obtain ⟨reloaded, noted⟩ := runOuts_of_eq counts h.made pos due
  rw [← h.noted, underflowsBy, underflowsBy, noted, List.append_assoc]
  exact ⟨rfl, reloaded⟩

theorem toNat_add_of_le {a b : UInt64} (le : a ≤ a + b) : (a + b).toNat = a.toNat + b.toNat := by
  have less := b.toNat_lt
  rw [UInt64.le_iff_toNat_le] at le
  rw [UInt64.toNat_add] at le ⊢
  omega

theorem counter_reload (g : Generator) (p : Periods) (t : Timer) :
    ((g.reload p).tone t).counter = t.period p := by
  cases t <;> rfl

theorem agrees_of_done (enabled : o.chip.sound.enabled = true) (runs : o.chip.runs t = true)
    (done : o.chip.sound.done = now) (clock : (o.timeline t).clock = now)
    (noted : (o.timeline t).underflows = (o.timeline t).counted t)
    (due : o.chip.counts t = true → now ≤ o.deadline t →
      0 < (o.chip.sound.generator.tone t).counter.toNat ∧
        now.toNat + (o.chip.sound.generator.tone t).counter.toNat = (o.deadline t).toNat) :
    o.Agrees t where
  enabled := enabled
  runs := runs
  made := UInt64.le_of_eq (done.trans clock.symm)
  noted := by rw [underflowsBy, clock, runOuts_done done, List.append_nil, noted]
  due := by rwa [clock, countdown_done done]

theorem agrees_of_restarts {p : Pokey} {s : Schedule} {register value : UInt8}
    (restart : restarts register = true) (chip : o.chip = (p.write register value now s).1)
    (schedule : o.schedule = (p.write register value now s).2)
    (caught : (p.catchUp now).sound.enabled = true ∧ (p.catchUp now).sound.done = now)
    (runs : p.runs t = true) (clock : (o.timeline t).clock = now)
    (noted : (o.timeline t).underflows = (o.timeline t).counted t) : o.Agrees t := by
  obtain ⟨q, write, sound, same⟩ := write_of_restarts restart p value now s
  rw [write] at chip schedule
  rw [← sound] at caught
  have running : q.runs t = true := (same t).trans runs
  have deadline : o.deadline t = now + t.period q.periods := by
    rw [Recorded.deadline, schedule, ← expiry_of_runs running]
    exact q.deadline_restartTimers now s t
  refine agrees_of_done (by rw [chip]; exact caught.1) (by rw [chip]; exact running)
    (by rw [chip]; exact caught.2) clock noted fun _ ahead => ?_
  have reloaded : (o.chip.sound.generator.tone t).counter = t.period q.periods := by
    rw [chip]
    exact counter_reload q.sound.generator q.periods t
  rw [deadline] at ahead
  rw [reloaded, deadline, toNat_add_of_le ahead]
  exact ⟨Nat.lt_of_lt_of_le (by decide) (q.bounded_period t).1, rfl⟩

theorem agrees_start {p : Pokey} {register : UInt8} (s : Schedule) (value : UInt8)
    (enabled : p.sound.enabled = true) (runs : p.runs t = true) (made : p.sound.done ≤ now)
    (restart : restarts register = true) : (start p s register value now).Agrees t := by
  obtain ⟨enabled, done, -⟩ := sound_catchUp enabled runs made
  exact agrees_of_restarts restart rfl rfl ⟨enabled, done⟩ runs rfl rfl

theorem Agrees.write {register : UInt8} (h : o.Agrees t) (value : UInt8)
    (spared : spares register = true) (since : (o.timeline t).clock ≤ now)
    (before : now < o.deadline t) : (o.apply (.write register value now)).Agrees t := by
  obtain ⟨enabled, done, generator⟩ :=
    sound_catchUp h.enabled h.runs (UInt64.le_trans h.made since)
  obtain ⟨noted, due⟩ := h.between since before
  cases restart : restarts register with
  | true => exact agrees_of_restarts restart rfl rfl ⟨enabled, done⟩ h.runs rfl noted
  | false =>
    obtain ⟨sound, kept⟩ := write_of_not_restarts spared restart o.chip value now o.schedule
    obtain ⟨counts, runs, deadline⟩ := kept t
    refine agrees_of_done ((congrArg Sound.enabled sound).trans enabled) (runs.trans h.runs)
      ((congrArg Sound.done sound).trans done) rfl noted fun counting _ => ?_
    have countdown : ((o.apply (.write register value now)).chip.sound.generator.tone t).counter.toNat
        = o.chip.countdown t now := by
      rw [Pokey.countdown, ← generator, ← sound]
      rfl
    have same : (o.apply (.write register value now)).deadline t = o.deadline t := deadline
    have due := due (counts.symm.trans counting)
    have lt := UInt64.lt_iff_toNat_lt.1 before
    rw [countdown, same]
    exact ⟨by omega, due⟩

theorem sound_expire (o : Recorded) (u : Timer) :
    (o.apply (.expire u)).chip.sound = o.chip.sound ∧
      (o.apply (.expire u)).chip.settings = o.chip.settings ∧
      ∀ t, (o.apply (.expire u)).chip.runs t = o.chip.runs t :=
  ⟨sound_timerDue o.chip u (o.deadline u) o.schedule,
    settings_timerDue o.chip u (o.deadline u) o.schedule,
    runs_congr (timing_timerDue o.chip (o.deadline u) o.schedule u)⟩

theorem deadline_expire (o : Recorded) (u t : Timer) :
    (o.apply (.expire u)).deadline t =
      if u = t then o.chip.expiry (o.deadline u) u else o.deadline t := by
  have set := timerDue_eq o.chip (o.deadline u) o.schedule u
  simp only [Recorded.deadline, apply] at set ⊢
  rw [set, Schedule.deadline_set]
  by_cases own : u = t
  · rw [if_pos own, if_pos (congrArg Timer.event own)]
  · rw [if_neg own, if_neg (mt Timer.event_inj.1 own)]

theorem runOuts_expire (o : Recorded) (u t : Timer) :
    (o.apply (.expire u)).chip.counts t = o.chip.counts t ∧
      (∀ now, (o.apply (.expire u)).chip.runOuts t now = o.chip.runOuts t now) ∧
      ∀ now, (o.apply (.expire u)).chip.countdown t now = o.chip.countdown t now := by
  obtain ⟨sound, settings, -⟩ := o.sound_expire u
  simp only [Pokey.counts, runOuts, countdown, sound, settings, implies_true, and_self]

theorem Agrees.expire_other {u : Timer} (h : o.Agrees t) (ne : t ≠ u) :
    (o.apply (.expire u)).Agrees t := by
  obtain ⟨sound, -, runs⟩ := o.sound_expire u
  obtain ⟨counts, runOuts, countdown⟩ := o.runOuts_expire u t
  have timeline : (o.apply (.expire u)).timeline t = o.timeline t := update_of_ne ne _ _
  have deadline : (o.apply (.expire u)).deadline t = o.deadline t := by
    rw [deadline_expire, if_neg ne.symm]
  refine ⟨by rw [sound]; exact h.enabled, (runs t).trans h.runs, ?_, ?_, ?_⟩
  · rw [sound, timeline]
    exact h.made
  · rw [underflowsBy, timeline, runOuts]
    exact h.noted
  · rw [counts, timeline, countdown, deadline]
    exact h.due

theorem Agrees.expire_own (h : o.Agrees t) (ahead : (o.timeline t).clock ≤ o.deadline t) :
    (o.apply (.expire t)).Agrees t := by
  obtain ⟨sound, settings, runs⟩ := o.sound_expire t
  obtain ⟨counts, runOuts, countdown⟩ := o.runOuts_expire t t
  have timeline : (o.apply (.expire t)).timeline t =
      { o.timeline t with
        clock := o.deadline t
        expiries := (o.timeline t).expiries ++
          [{ deadline := (o.deadline t).toNat, joined12 := o.chip.settings.joins12 }] } :=
    update_self _ _ _
  have deadline : (o.apply (.expire t)).deadline t = o.deadline t + t.period o.chip.periods := by
    rw [deadline_expire, if_pos rfl, expiry_of_runs h.runs]
  refine ⟨by rw [sound]; exact h.enabled, (runs t).trans h.runs, ?_, ?_, ?_⟩
  · rw [sound, timeline]
    exact UInt64.le_trans h.made ahead
  · rw [timeline, Timeline.counted_append, underflowsBy, timeline, runOuts]
    show o.underflowsBy t (o.deadline t) =
      (o.timeline t).counted t ++ if o.chip.counts t then [(o.deadline t).toNat] else []
    cases counting : o.chip.counts t with
    | true => rw [(h.atDeadline ahead counting).1, if_pos rfl]
    | false =>
      rw [if_neg Bool.false_ne_true, List.append_nil, ← h.noted, underflowsBy, underflowsBy,
        runOuts_of_not_counts counting, runOuts_of_not_counts counting]
  · rw [counts, timeline, countdown, deadline]
    intro counting later
    rw [(h.atDeadline ahead counting).2, toNat_add_of_le later]
    exact ⟨Nat.lt_of_lt_of_le (by decide) (o.chip.bounded_period t).1, rfl⟩

theorem Course.agrees (h : Course o) (t : Timer) : o.Agrees t := by
  induction h with
  | start s value enabled runs made restart =>
    exact agrees_start s value enabled (runs t) made restart
  | @apply o a _ allowed ih =>
    cases a with
    | write register value now =>
      obtain ⟨spared, timely⟩ := allowed
      exact ih.write value spared (timely t).1 (timely t).2
    | expire u =>
      by_cases own : t = u
      · subst own
        exact ih.expire_own allowed
      · exact ih.expire_other own

/-- At any cycle up to which all expiries of a timer have been served, the divider of its channel has
run out exactly in the cycles of the deadlines at which the timer has expired, and if it counts, it
next runs out at the deadline that comes. This holds of channels 2 and 4 throughout, and of channel 1
for the expiries while it is not joined to channel 2. -/
theorem Course.underflows_at_expiries (h : Course o) (t : Timer)
    (since : (o.timeline t).clock ≤ now) (before : now < o.deadline t) :
    (t ≠ .one → o.underflowsBy t now = (o.timeline t).expiries.map (·.deadline)) ∧
      (t = .one → o.underflowsBy t now =
        ((o.timeline t).expiries.filter (!·.joined12)).map (·.deadline)) ∧
      (o.chip.counts t = true →
        o.underflowsBy t (o.deadline t) = o.underflowsBy t now ++ [(o.deadline t).toNat]) := by
  have agrees := h.agrees t
  have ahead := UInt64.le_trans since (UInt64.le_of_lt before)
  have noted := (agrees.between since before).1
  rw [noted]
  refine ⟨fun upper => ?_, fun first => first ▸ rfl,
    fun counts => (agrees.atDeadline ahead counts).1⟩
  have all : ∀ e ∈ (o.timeline t).expiries, t.counts e.joined12 = true := by
    cases t <;> simp_all [Timer.counts]
  rw [Timeline.counted, List.filter_eq_self.2 all]

def sampleChip : Pokey :=
  { create 1789773 44100 true with serialControl := 0x03, interruptEnable := 0x07 }

def sampleCourse : Recorded :=
  start sampleChip {} 0x08 0x40 10 |>.apply (.expire .one) |>.apply (.expire .one)
    |>.apply (.write 0x00 6 20) |>.apply (.expire .one) |>.apply (.write 0x08 0x50 25)
    |>.apply (.expire .one) |>.apply (.expire .two) |>.apply (.write 0x08 0x40 40)
    |>.apply (.expire .one)

theorem course_sample : Course sampleCourse := by
  unfold sampleCourse
  repeat refine .apply ?_ (by decide)
  exact .start {} 0x40 rfl (by decide) (by decide) (by decide)

theorem underflows_at_expiries_sample :
    Course sampleCourse ∧ (sampleCourse.timeline .one).clock ≤ 55 ∧
      55 < sampleCourse.deadline .one ∧
      (sampleCourse.timeline .one).expiries.map (·.deadline) = [14, 18, 22, 35, 50] ∧
      sampleCourse.underflowsBy .one 55 = [14, 18, 22, 50] ∧
      sampleCourse.underflowsBy .two 55 = [38] := by
  have first := course_sample.underflows_at_expiries .one
    (by decide : (sampleCourse.timeline .one).clock ≤ 55) (by decide)
  have second := course_sample.underflows_at_expiries .two
    (by decide : (sampleCourse.timeline .two).clock ≤ 55) (by decide)
  exact ⟨course_sample, by decide, by decide, by decide, (first.2.1 rfl).trans (by decide),
    (second.1 (by decide)).trans (by decide)⟩

end Recorded

end Atari800XL.Pokey
