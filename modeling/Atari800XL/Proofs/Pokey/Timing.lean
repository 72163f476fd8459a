import Atari800XL.Proofs.Pokey.Periods
import Atari800XL.Proofs.Schedule

namespace Atari800XL.Pokey

theorem Timer.event_inj {t u : Timer} : t.event = u.event ↔ t = u := by
  cases t <;> cases u <;> simp [Timer.event]

structure Timing where
  frequency : Quad
  soundControl : UInt8
  serialControl : UInt8
  interruptEnable : UInt8

def timing (p : Pokey) : Timing where
  frequency := p.frequency
  soundControl := p.soundControl
  serialControl := p.serialControl
  interruptEnable := p.interruptEnable

def runs (p : Pokey) (t : Timer) : Bool := p.enables t.source && !p.held

theorem runs_iff (p : Pokey) (t : Timer) :
    p.runs t = true ↔ p.enables t.source = true ∧ p.held = false := by
  simp [runs]

def expiry (p : Pokey) (now : UInt64) (t : Timer) : UInt64 :=
  if p.runs t then now + t.period p.periods else never

section

variable {p p' : Pokey} (same : p'.timing = p.timing)
include same

theorem runs_congr (t : Timer) : p'.runs t = p.runs t :=
  congrArg (fun x : Timing => hasBit x.interruptEnable t.source && !!hasBit x.serialControl 0x03) same

theorem periods_congr : p'.periods = p.periods := by
  simp only [timing, Timing.mk.injEq] at same
  simp only [periods, same]

theorem cycles_congr (t : Timer) : p'.cycles t = p.cycles t := by
  rw [← toNat_period, ← toNat_period, periods_congr same]

theorem expiry_congr (now : UInt64) (t : Timer) : p'.expiry now t = p.expiry now t := by
  simp only [expiry, runs_congr same, periods_congr same]

end

theorem expiry_of_runs {p : Pokey} {t : Timer} (h : p.runs t = true) (now : UInt64) :
    p.expiry now t = now + t.period p.periods := if_pos h

theorem timing_raise (p : Pokey) (source : UInt8) : (p.raise source).2.timing = p.timing := by
  unfold raise
  split <;> rfl

section

variable (p : Pokey) (now : UInt64) (s : Schedule)

theorem setTimer_eq (t : Timer) : p.setTimer now s t = s.set t.event (p.expiry now t) := by
  unfold setTimer expiry
  cases h : p.runs t with
  | true => exact if_pos h
  | false =>
    rw [if_neg Bool.false_ne_true]
    exact if_neg (Bool.eq_false_iff.1 h)

theorem deadline_setTimer (t u : Timer) :
    (p.setTimer now s u).deadline t.event =
      if u = t then p.expiry now t else s.deadline t.event := by
  rw [setTimer_eq, Schedule.deadline_set]
  by_cases same : u = t
  · subst same
    rw [if_pos rfl, if_pos rfl]
  · rw [if_neg same, if_neg (mt Timer.event_inj.1 same)]

theorem deadline_setTimers (timers : List Timer) (t : Timer) :
    (timers.foldl (p.setTimer now) s).deadline t.event =
      if t ∈ timers then p.expiry now t else s.deadline t.event := by
  induction timers generalizing s with
  | nil => simp
  | cons u timers ih =>
    rw [List.foldl_cons, ih, deadline_setTimer]
    by_cases own : u = t
    · simp [own]
    · simp [own, Ne.symm own]

theorem deadline_restartTimers (t : Timer) :
    (p.restartTimers now s).deadline t.event = p.expiry now t := by
  have mem : t ∈ Timer.all := by cases t <;> decide
  rw [restartTimers, deadline_setTimers, if_pos mem]

theorem deadline_changeTimers (changed : UInt8) (t : Timer) :
    (p.changeTimers changed now s).deadline t.event =
      if hasBit changed t.source then p.expiry now t else s.deadline t.event := by
  have mem : t ∈ Timer.all := by cases t <;> decide
  rw [changeTimers, deadline_setTimers]
  simp [mem]

theorem timerDue_eq (t : Timer) :
    p.timerDue t now s =
      (p.runs t, if p.runs t then (p.raise t.source).2 else p,
        s.set t.event (p.expiry now t)) := by
  unfold timerDue expiry
  have idle : (p.held || !p.enables t.source) = !p.runs t := by
    simp [runs, Bool.or_comm]
  rw [idle]
  cases h : p.runs t with
  | false => rfl
  | true =>
    have enabled : p.enables t.source = true := (Bool.and_eq_true_iff.1 h).1
    have raised : (p.raise t.source).1 = true := by
      rw [raise, if_pos enabled]
    simp [raised, periods_congr (timing_raise p t.source)]

theorem timing_timerDue (t : Timer) : (p.timerDue t now s).2.1.timing = p.timing := by
  rw [timerDue_eq]
  dsimp only
  split
  · exact timing_raise p t.source
  · rfl

def retimes (register : UInt8) : Bool :=
  match (register &&& 0x0F).toNat with
  | 0x00 | 0x02 | 0x04 | 0x06 | 0x08 | 0x09 | 0x0E | 0x0F => true
  | _ => false

def timerStart : UInt8 := 0x09

variable {register : UInt8} (value : UInt8)

theorem write_of_not_retimes (h : retimes register = false) :
    (p.write register value now s).1.timing = p.timing ∧
      ∀ t : Timer, (p.write register value now s).2.deadline t.event = s.deadline t.event := by
  unfold write retimes at *
  dsimp only
  split
  case h_13 =>
    refine ⟨rfl, fun t => ?_⟩
    cases t <;> simp [send, Timer.event]
  case' h_1 | h_2 | h_3 | h_4 | h_9 | h_10 | h_14 | h_15 =>
    rename_i nibble
    rw [nibble] at h
    cases h
  all_goals exact ⟨rfl, fun _ => rfl⟩

theorem write_of_timerStart (h : register &&& 0x0F = timerStart) :
    p.write register value now s = (p.catchUp now).restart now s := by
  simp only [write, h]
  rfl

theorem deadline_write_of_timerStart (h : register &&& 0x0F = timerStart) (t : Timer) :
    (p.write register value now s).2.deadline t.event = p.expiry now t := by
  have caughtUp : (p.catchUp now).timing = p.timing := rfl
  rw [write_of_timerStart p now s value h, ← expiry_congr caughtUp]
  exact deadline_restartTimers _ now s t

theorem timing_write_of_timerStart (h : register &&& 0x0F = timerStart) :
    (p.write register value now s).1.timing = p.timing := by
  rw [write_of_timerStart p now s value h]
  rfl

end

end Atari800XL.Pokey
