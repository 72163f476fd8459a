import Mathlib.Data.Nat.Bitwise
import Atari800XL.Proofs.Pokey.Timing
import Atari800XL.Proofs.Word

namespace Atari800XL.Pokey

variable {p p' : Pokey} {s s' : Schedule}

inductive Call
  | write (register value : UInt8) (now : UInt64)
  | timerDue (event : Event) (deadline : UInt64)
  | serialOutNeeded
  | serialOutDone
  | receive (byte : UInt8)
  | keyDown (code : UInt8)
  | keyUp
  | setShift (pressed : Bool)
  | breakDown

def perform (p : Pokey) (s : Schedule) : Call → Bool × Pokey × Schedule
  | .write register value now => (false, p.write register value now s)
  | .timerDue event deadline =>
    match Timer.ofEvent? event with
    | some t => p.timerDue t deadline s
    | none => (false, p, s)
  | .serialOutNeeded => p.serialOutNeeded s
  | .serialOutDone => p.serialOutDone s
  | .receive byte =>
    let (asked, p) := p.receive byte
    (asked, p, s)
  | .keyDown code =>
    let (asked, p) := p.keyDown code
    (asked, p, s)
  | .keyUp => (false, p.keyUp, s)
  | .setShift pressed => (false, p.setShift pressed, s)
  | .breakDown =>
    let (asked, p) := p.breakDown
    (asked, p, s)

namespace Call

def source? : Call → Option UInt8
  | .write _ _ _ | .keyUp | .setShift _ => none
  | .timerDue event _ => (Timer.ofEvent? event).map Timer.source
  | .serialOutNeeded => some Source.serialOutNeeded
  | .serialOutDone => some Source.serialOutDone
  | .receive _ => some Source.serialInReady
  | .keyDown _ => some Source.key
  | .breakDown => some Source.breakKey

def time? : Call → Option UInt64
  | .write _ _ now => some now
  | .timerDue _ deadline => some deadline
  | _ => none

def Timely (c : Call) (after : Pokey) : Prop :=
  ∀ now, c.time? = some now → ∀ t, after.runs t = true → after.expiry now t ≠ never

end Call

inductive Reached : Pokey → Schedule → Prop
  | fresh (clockRate sampleRate : UInt32) (audio : Bool) :
      Reached (create clockRate sampleRate audio) {}
  | call {p : Pokey} {s : Schedule} (c : Call) : Reached p s → c.Timely (p.perform s c).2.1 →
      Reached (p.perform s c).2.1 (p.perform s c).2.2

def bit (register : UInt8) (i : Nat) : Bool := register.toNat.testBit i

section

variable (v w : UInt8) (i : Nat)

@[simp] theorem bit_and : bit (v &&& w) i = (bit v i && bit w i) := by
  simp [bit]

@[simp] theorem bit_or : bit (v ||| w) i = (bit v i || bit w i) := by
  simp [bit]

@[simp] theorem bit_xor : bit (v ^^^ w) i = (bit v i ^^ bit w i) := by
  simp [bit]

variable {i}

theorem bit_not (inside : i < 8) : bit (~~~v) i = !bit v i := by
  show (~~~v).toBitVec.getLsbD i = !v.toBitVec.getLsbD i
  simp [inside]

variable {mask : UInt8} (single : mask.toNat = 2 ^ i)
include single

theorem bit_single (j : Nat) : bit mask j = decide (i = j) := by
  rw [bit, single, Nat.testBit_two_pow]

theorem hasBit_eq_bit : hasBit v mask = bit v i := hasBit_eq_testBit single v

end

def Timer.index : Timer → Nat
  | .one => 0
  | .two => 1
  | .four => 2

theorem Timer.source_single (t : Timer) : t.source.toNat = 2 ^ t.index := by
  cases t <;> rfl

def Covered (p : Pokey) : Prop :=
  ∀ i < 8, i ≠ 3 → bit p.interruptStatus i = false → bit p.interruptEnable i = true

/-- A timer is expected exactly if it runs, and what is pending is enabled. -/
structure Consistent (p : Pokey) (s : Schedule) : Prop where
  timers : ∀ t : Timer, s.deadline t.event ≠ never ↔ p.enables t.source = true ∧ p.held = false
  covered : p.Covered

theorem consistent_create (clockRate sampleRate : UInt32) (audio : Bool) :
    Consistent (create clockRate sampleRate audio) {} where
  timers t := by
    have idle : (create clockRate sampleRate audio).held = true := by
      simp [held, create, hasBit]
    cases t <;> simp [idle, Schedule.deadline, Timer.event]
  covered i inside _ pending := by
    have full : bit (~~~0) i = true := by
      rw [bit_not _ inside]
      simp [bit]
    exact absurd (full.symm.trans pending) (by decide)

theorem Consistent.of_deadlines (h : Consistent p s)
    (same : ∀ t : Timer, s'.deadline t.event = s.deadline t.event) : Consistent p s' where
  timers t := by
    rw [same]
    exact h.timers t
  covered := h.covered

theorem expected_iff {now : UInt64} {t : Timer} (set : s.deadline t.event = p.expiry now t)
    (timely : p.runs t = true → p.expiry now t ≠ never) :
    s.deadline t.event ≠ never ↔ p.enables t.source = true ∧ p.held = false := by
  rw [set, ← runs_iff]
  refine ⟨fun expected => ?_, timely⟩
  by_contra idle
  exact expected (if_neg idle)

theorem covered_raise {source : UInt8} {i : Nat} (single : source.toNat = 2 ^ i)
    (h : p.Covered) : (p.raise source).2.Covered := by
  unfold raise
  split
  · rename_i enabled
    intro j inside other pending
    by_cases own : i = j
    · subst own
      rwa [enables, hasBit_eq_bit _ single] at enabled
    · apply h j inside other
      simpa [bit_not _ inside, bit_single single, own] using pending
  · exact h

theorem Consistent.raise {source : UInt8} {i : Nat} (single : source.toNat = 2 ^ i)
    (h : Consistent p s) : Consistent (p.raise source).2 s where
  timers t := by
    have timers := h.timers t
    unfold Pokey.raise
    split <;> exact timers
  covered := covered_raise single h.covered

theorem bit_serialOutDone {i : Nat} (other : i ≠ 3) : bit Source.serialOutDone i = false := by
  rw [bit_single (i := 3) rfl]
  exact decide_eq_false (Ne.symm other)

theorem covered_setEnable (p : Pokey) (value : UInt8) (now : UInt64) (s : Schedule) :
    (p.setEnable value now s).1.Covered := by
  intro i inside other pending
  have cleared : bit p.interruptStatus i = false ∧ bit value i = true := by
    simpa [setEnable, bit_not _ inside, bit_serialOutDone other] using pending
  exact cleared.2

theorem hasBit_changed (old value : UInt8) (t : Timer) :
    hasBit ((value ^^^ old) &&& timerSources) t.source =
      (hasBit value t.source ^^ hasBit old t.source) := by
  have timer : bit timerSources t.index = true := by cases t <;> rfl
  simp [hasBit_eq_bit _ t.source_single, timer]

variable {now : UInt64}

theorem consistent_restartTimers (h : p.Covered)
    (timely : ∀ t, p.runs t = true → p.expiry now t ≠ never) :
    Consistent p (p.restartTimers now s) where
  timers t := expected_iff (p.deadline_restartTimers now s t) (timely t)
  covered := h

theorem consistent_restart (h : p.Covered)
    (timely : ∀ t, (p.restart now s).1.runs t = true → (p.restart now s).1.expiry now t ≠ never) :
    Consistent (p.restart now s).1 (p.restart now s).2 :=
  have restarted := consistent_restartTimers (s := s) h timely
  ⟨restarted.timers, restarted.covered⟩

theorem Consistent.setEnable (h : Consistent p s) {value : UInt8}
    (timely : ∀ t, (p.setEnable value now s).1.runs t = true →
      (p.setEnable value now s).1.expiry now t ≠ never) :
    Consistent (p.setEnable value now s).1 (p.setEnable value now s).2 where
  timers t := by
    have set := deadline_changeTimers (p.setEnable value now s).1 now s
      ((value ^^^ p.interruptEnable) &&& timerSources) t
    rw [hasBit_changed] at set
    by_cases same : hasBit value t.source = hasBit p.interruptEnable t.source
    · rw [same, Bool.xor_self, if_neg Bool.false_ne_true] at set
      have timers := h.timers t
      rw [enables, ← same, ← set] at timers
      exact timers
    · have changed : (hasBit value t.source ^^ hasBit p.interruptEnable t.source) = true := by
        simpa using same
      rw [if_pos changed] at set
      exact expected_iff set (timely t)
  covered := covered_setEnable p value now s

theorem Consistent.setSerialControl (h : Consistent p s) {value : UInt8}
    (timely : ∀ t, (p.setSerialControl value now s).1.runs t = true →
      (p.setSerialControl value now s).1.expiry now t ≠ never) :
    Consistent (p.setSerialControl value now s).1 (p.setSerialControl value now s).2 := by
  unfold Pokey.setSerialControl at timely ⊢
  dsimp only at timely ⊢
  split
  · rename_i held
    rw [if_pos held] at timely
    have restarted := consistent_restartTimers (s := s) (p := { p with serialControl := value })
      h.covered timely
    exact ⟨restarted.timers, restarted.covered⟩
  · rename_i free
    rw [if_neg free] at timely
    split
    · rename_i held
      rw [if_pos held] at timely
      exact consistent_restartTimers h.covered timely
    · rename_i running
      -- The chip was not held before, so that all its timers stay as they are.
      refine ⟨fun t => ?_, h.covered⟩
      have timers := h.timers t
      rw [Bool.eq_false_iff.2 running] at timers
      rw [Bool.eq_false_iff.2 free]
      exact timers

theorem Consistent.send (h : Consistent p s) : Consistent (p.send now s).1 (p.send now s).2 where
  timers t := by
    have kept : (p.send now s).2.deadline t.event = s.deadline t.event := by
      cases t <;> simp [Pokey.send, Timer.event]
    rw [kept]
    exact h.timers t
  covered i inside other pending := by
    apply h.covered i inside other
    simpa [Pokey.send, bit_serialOutDone other] using pending

theorem Consistent.write (h : Consistent p s) {register value : UInt8}
    (timely : ∀ t, (p.write register value now s).1.runs t = true →
      (p.write register value now s).1.expiry now t ≠ never) :
    Consistent (p.write register value now s).1 (p.write register value now s).2 := by
  have caught : Consistent (p.catchUp now) s := ⟨h.timers, h.covered⟩
  revert timely
  unfold Pokey.write
  dsimp only
  split
  case h_9 => exact consistent_restart h.covered
  case h_10 => exact consistent_restart h.covered
  case h_13 =>
    intro _
    exact caught.send
  case h_14 => exact caught.setEnable
  case h_15 => exact caught.setSerialControl
  all_goals
    intro _
    exact ⟨caught.timers, caught.covered⟩

theorem Consistent.set (h : Consistent p s) (t : Timer)
    (timely : p.runs t = true → p.expiry now t ≠ never) :
    Consistent p (s.set t.event (p.expiry now t)) where
  timers u := by
    by_cases own : t = u
    · subst own
      exact expected_iff (by rw [Schedule.deadline_set, if_pos rfl]) timely
    · rw [Schedule.deadline_set, if_neg (mt Timer.event_inj.1 own)]
      exact h.timers u
  covered := h.covered

theorem Consistent.timerDue (h : Consistent p s) (t : Timer)
    (timely : p.runs t = true → p.expiry now t ≠ never) :
    Consistent (p.timerDue t now s).2.1 (p.timerDue t now s).2.2 := by
  rw [timerDue_eq]
  dsimp only
  split
  · exact (h.set t timely).raise t.source_single
  · exact h.set t timely

theorem Consistent.serialOutDone (h : Consistent p s) :
    Consistent (p.serialOutDone s).2.1 (p.serialOutDone s).2.2 where
  timers t := by
    have kept : (s.clear .serialOutDone).deadline t.event = s.deadline t.event := by
      cases t <;> simp [Schedule.clear, Timer.event]
    rw [Pokey.serialOutDone, kept]
    exact h.timers t
  covered i inside other pending := by
    apply h.covered i inside other
    simpa [Pokey.serialOutDone, bit_not _ inside, bit_serialOutDone other] using pending

theorem Consistent.serialOutNeeded (h : Consistent p s) :
    Consistent (p.serialOutNeeded s).2.1 (p.serialOutNeeded s).2.2 := by
  refine (h.raise (i := 4) rfl).of_deadlines fun t => ?_
  cases t <;> simp [Pokey.serialOutNeeded, Schedule.clear, Timer.event]

theorem Consistent.perform (h : Consistent p s) {c : Call} (timely : c.Timely (p.perform s c).2.1) :
    Consistent (p.perform s c).2.1 (p.perform s c).2.2 := by
  cases c with
  | write register value now => exact h.write (timely now rfl)
  | timerDue event deadline =>
    have timely := timely deadline rfl
    simp only [Pokey.perform] at timely ⊢
    cases found : Timer.ofEvent? event with
    | none => exact h
    | some t =>
      rw [found] at timely
      have timely := timely t
      rw [runs_congr (timing_timerDue p deadline s t),
        expiry_congr (timing_timerDue p deadline s t)] at timely
      exact h.timerDue t timely
  | serialOutNeeded => exact h.serialOutNeeded
  | serialOutDone => exact h.serialOutDone
  | receive byte =>
    have received : Consistent { p with serialInput := byte } s := ⟨h.timers, h.covered⟩
    exact received.raise (i := 5) rfl
  | keyDown code =>
    have held : Consistent
        { p with keyCode := code, serialStatus := p.serialStatus &&& ~~~0x04 } s :=
      ⟨h.timers, h.covered⟩
    exact held.raise (i := 6) rfl
  | keyUp => exact ⟨h.timers, h.covered⟩
  | setShift pressed => exact ⟨h.timers, h.covered⟩
  | breakDown => exact h.raise (i := 7) rfl

theorem raise_asks {source : UInt8} (asked : (p.raise source).1 = true) :
    p.enables source = true ∧
      (p.raise source).2.interruptStatus = p.interruptStatus &&& ~~~source := by
  unfold raise at asked ⊢
  split at asked
  · rename_i enabled
    rw [if_pos enabled]
    exact ⟨enabled, rfl⟩
  · cases asked

theorem timerDue_asks {t : Timer} (asked : (p.timerDue t now s).1 = true) :
    p.enables t.source = true ∧
      (p.timerDue t now s).2.1.interruptStatus = p.interruptStatus &&& ~~~t.source := by
  rw [timerDue_eq] at asked ⊢
  have enabled : p.enables t.source = true := ((p.runs_iff t).1 asked).1
  dsimp only
  rw [if_pos asked, raise, if_pos enabled]
  exact ⟨enabled, rfl⟩

theorem perform_asks {c : Call} (asked : (p.perform s c).1 = true) :
    ∃ source, c.source? = some source ∧ p.enables source = true ∧
      (p.perform s c).2.1.interruptStatus = p.interruptStatus &&& ~~~source := by
  cases c with
  | write register value now => cases asked
  | timerDue event deadline =>
    simp only [Pokey.perform] at asked ⊢
    cases found : Timer.ofEvent? event with
    | none =>
      rw [found] at asked
      cases asked
    | some t =>
      rw [found] at asked
      exact ⟨t.source, by rw [Call.source?, found, Option.map_some], timerDue_asks asked⟩
  | serialOutNeeded => exact ⟨_, rfl, raise_asks asked⟩
  | serialOutDone => exact ⟨_, rfl, asked, rfl⟩
  | receive byte => exact ⟨_, rfl, raise_asks asked⟩
  | keyDown code => exact ⟨_, rfl, raise_asks asked⟩
  | keyUp => cases asked
  | setShift pressed => cases asked
  | breakDown => exact ⟨_, rfl, raise_asks asked⟩

/-- At all times a timer is expected exactly if it runs and what is pending is enabled, and whatever
is done next, the processor is asked for an interrupt only for a source that is enabled, which is
the one that becomes pending. -/
theorem Reached.interrupts_consistent (h : Reached p s) :
    Consistent p s ∧ ∀ c : Call, (p.perform s c).1 = true →
      ∃ source, c.source? = some source ∧ p.enables source = true ∧
        (p.perform s c).2.1.interruptStatus = p.interruptStatus &&& ~~~source := by
  refine ⟨?_, fun c asked => perform_asks asked⟩
  induction h with
  | fresh clockRate sampleRate audio => exact consistent_create clockRate sampleRate audio
  | call c _ timely ih => exact ih.perform timely

def sampleTimed : Pokey × Schedule :=
  let free := (create 1789773 44100 false).perform {} (.write 0x0F 0x03 0)
  (free.2.1.perform free.2.2 (.write 0x0E 0x01 0)).2

theorem interrupts_consistent_sample :
    let (p, s) := sampleTimed
    Reached p s ∧ s.deadline .timer1 = wideClock ∧
      (p.perform s (.timerDue .timer1 wideClock)).1 = true ∧ Consistent p s ∧
        ∃ source, Call.source? (.timerDue .timer1 wideClock) = some source ∧
          p.enables source = true ∧
            (p.perform s (.timerDue .timer1 wideClock)).2.1.interruptStatus =
              p.interruptStatus &&& ~~~source := by
  have free : Reached _ _ := .call (.write 0x0F 0x03 0) (.fresh 1789773 44100 false) (by
    rintro now ⟨⟩ t
    cases t <;> decide)
  have timed : Reached sampleTimed.1 sampleTimed.2 := .call (.write 0x0E 0x01 0) free (by
    rintro now ⟨⟩ t
    cases t <;> decide)
  obtain ⟨consistent, asks⟩ := timed.interrupts_consistent
  have asked : (sampleTimed.1.perform sampleTimed.2 (.timerDue .timer1 wideClock)).1 = true := by
    decide
  exact ⟨timed, by decide, asked, consistent, asks _ asked⟩

end Atari800XL.Pokey
