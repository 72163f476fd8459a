import Mathlib.Data.List.Basic
import Atari800XL.Pokey.Basic

/-! Two sound chips that are treated alike and differ in the level of their low-pass filters at most.
They stay in step: they read the same, they make their samples at the same time, and where the levels
are the same the samples are, too. -/

namespace Atari800XL

namespace Ring

variable {α : Type} {same : Prop} {r r' : Ring α}

/-- The queues hold their elements in the same slots, and where `same` holds, the same elements. What
stands in the other slots does not matter. -/
structure InStep (same : Prop) (r r' : Ring α) : Prop where
  capacity : r.capacity = r'.capacity
  start : r.start = r'.start
  count : r.count = r'.count
  elements : same → ∀ i < r.count, r.slots[r.slot i]? = r'.slots[r'.slot i]?

namespace InStep

theorem slot_eq (h : r.InStep same r') : r.slot = r'.slot := by
  funext i
  rw [slot, h.start, h.capacity, slot]

theorem clear (capacity : r.capacity = r'.capacity) : r.clear.InStep same r'.clear where
  capacity := capacity
  start := rfl
  count := rfl
  elements _ i inside := absurd inside (Nat.not_lt_zero i)

theorem push (h : r.InStep same r') {a a' : α} (level : same → a = a') :
    (r.push a).InStep same (r'.push a') := by
  obtain ⟨slots, start, count⟩ := r
  obtain ⟨slots', start', count'⟩ := r'
  obtain ⟨capacity, rfl, rfl, elements⟩ := h
  have size : slots.size = slots'.size := capacity
  unfold Ring.push
  dsimp only
  rw [size]
  by_cases full : count = slots'.size
  · rw [if_pos full, if_pos full]
    exact ⟨capacity, rfl, rfl, elements⟩
  · rw [if_neg full, if_neg full]
    refine ⟨?_, rfl, rfl, fun holds i inside => ?_⟩
    · simp only [Ring.capacity, Array.size_setIfInBounds, size]
    · have earlier := elements holds i
      simp only [slot, Ring.capacity, Array.size_setIfInBounds, size] at earlier ⊢
      rw [Array.getElem?_setIfInBounds, Array.getElem?_setIfInBounds, level holds, size]
      -- Only the slot of the new element is written.
      rcases Nat.lt_succ_iff_lt_or_eq.1 inside with before | rfl
      · rw [earlier before]
      · rw [if_pos rfl, if_pos rfl]

theorem length_toList (h : r.InStep same r') : r.toList.length = r'.toList.length := by
  have size : r.slots.size = r'.slots.size := h.capacity
  unfold toList
  rw [List.length_filterMap_eq_countP, List.length_filterMap_eq_countP, h.count, h.slot_eq]
  refine List.countP_congr fun i _ => ?_
  rw [isSome_getElem?, isSome_getElem?, size]

theorem toList_eq (h : r.InStep same r') (holds : same) : r.toList = r'.toList := by
  unfold toList
  rw [← h.count]
  exact List.filterMap_congr fun i mem => h.elements holds i (List.mem_range.1 mem)

theorem take (h : r.InStep same r') (n : Nat) :
    (r.take n).1.length = (r'.take n).1.length ∧ (same → (r.take n).1 = (r'.take n).1) ∧
      (r.take n).2.InStep same (r'.take n).2 := by
  refine ⟨?_, fun holds => ?_, h.capacity, ?_, ?_, fun holds i inside => ?_⟩
  · simp only [Ring.take, List.length_take, h.count, h.length_toList]
  · simp only [Ring.take, h.count, h.toList_eq holds]
  · simp only [Ring.take, h.slot_eq, h.count]
  · simp only [Ring.take, h.count]
  · have within : min n r.count + i < r.count := by
      have : i < r.count - min n r.count := inside
      omega
    have later := h.elements holds _ within
    have moved (r : Ring α) (i : Nat) : (r.take n).2.slot i = r.slot (min n r.count + i) := by
      simp only [Ring.take, slot, Ring.capacity, Nat.mod_add_mod, Nat.add_assoc]
    rw [moved, moved, ← h.count]
    exact later

end InStep

end Ring

namespace Pokey

variable {same : Prop} {now : UInt64}

namespace Sampler

variable {s s' : Sampler}

structure Fittings where
  nominalStep : UInt64
  alpha : Float32
  capacity : Nat

def fittings (s : Sampler) : Fittings := ⟨s.nominalStep, s.filter.alpha, s.queue.capacity⟩

structure InStep (same : Prop) (s s' : Sampler) : Prop where
  nominalStep : s.nominalStep = s'.nominalStep
  step : s.step = s'.step
  phase : s.phase = s'.phase
  sum : s.sum = s'.sum
  count : s.count = s'.count
  alpha : s.filter.alpha = s'.filter.alpha
  level : same → s.filter.state = s'.filter.state
  queue : s.queue.InStep same s'.queue

def smoothed (s : Sampler) : LowPass :=
  let average := if s.count > 0 then s.sum.toFloat32 / s.count.toFloat32 else 0.0
  s.filter.process (average / fullScale)

theorem queue_emit (s : Sampler) :
    s.emit.queue = s.queue.push (s.smoothed.state * gain) := rfl

theorem step_emit (s : Sampler) :
    s.emit.step = adjustedStep s.nominalStep s.emit.queue.count s.emit.queue.capacity := rfl

def counted (s : Sampler) (level : UInt32) : Sampler :=
  { s with sum := s.sum + level, count := s.count + 1, phase := s.phase + cycle }

theorem add_eq (s : Sampler) (level : UInt32) :
    s.add level =
      if (s.counted level).phase ≥ (s.counted level).step then
        { s.counted level with phase := (s.counted level).phase - (s.counted level).step }.emit
      else s.counted level := rfl

namespace InStep

theorem smoothed (h : s.InStep same s') (holds : same) : s.smoothed = s'.smoothed := by
  have filter : s.filter = s'.filter :=
    calc
      s.filter = ⟨s.filter.alpha, s.filter.state⟩ := rfl
      _ = ⟨s'.filter.alpha, s'.filter.state⟩ := by rw [h.alpha, h.level holds]
  rw [Sampler.smoothed, h.count, h.sum, filter, Sampler.smoothed]

theorem emit (h : s.InStep same s') : s.emit.InStep same s'.emit := by
  have queue : s.emit.queue.InStep same s'.emit.queue := by
    rw [queue_emit, queue_emit]
    exact h.queue.push fun holds => by rw [h.smoothed holds]
  exact
    { nominalStep := h.nominalStep
      step := by rw [step_emit, step_emit, h.nominalStep, queue.count, queue.capacity]
      phase := h.phase
      sum := rfl
      count := rfl
      alpha := h.alpha
      level := fun holds => congrArg LowPass.state (h.smoothed holds)
      queue }

theorem counted (h : s.InStep same s') (level : UInt32) :
    (s.counted level).InStep same (s'.counted level) := by
  obtain ⟨nominalStep, step, phase, sum, count, filter, queue⟩ := s
  obtain ⟨nominalStep', step', phase', sum', count', filter', queue'⟩ := s'
  obtain ⟨rfl, rfl, rfl, rfl, rfl, alpha, state, queue⟩ := h
  exact ⟨rfl, rfl, rfl, rfl, rfl, alpha, state, queue⟩

theorem next (h : s.InStep same s') :
    { s with phase := s.phase - s.step }.InStep same { s' with phase := s'.phase - s'.step } := by
  obtain ⟨nominalStep, step, phase, sum, count, filter, queue⟩ := s
  obtain ⟨nominalStep', step', phase', sum', count', filter', queue'⟩ := s'
  obtain ⟨rfl, rfl, rfl, rfl, rfl, alpha, state, queue⟩ := h
  exact ⟨rfl, rfl, rfl, rfl, rfl, alpha, state, queue⟩

theorem add (h : s.InStep same s') (level : UInt32) :
    (s.add level).InStep same (s'.add level) := by
  have more := h.counted level
  have full : (s.counted level).phase ≥ (s.counted level).step ↔
      (s'.counted level).phase ≥ (s'.counted level).step := by
    rw [more.phase, more.step]
  rw [add_eq, add_eq]
  by_cases complete : (s.counted level).phase ≥ (s.counted level).step
  · rw [if_pos complete, if_pos (full.1 complete)]
    exact more.next.emit
  · rw [if_neg complete, if_neg (mt full.2 complete)]
    exact more

theorem reset (fit : s.fittings = s'.fittings) (level : same → s.filter.state = s'.filter.state) :
    s.reset.InStep same s'.reset where
  nominalStep := congrArg Fittings.nominalStep fit
  step := congrArg Fittings.nominalStep fit
  phase := rfl
  sum := rfl
  count := rfl
  alpha := congrArg Fittings.alpha fit
  level := level
  queue := .clear (congrArg Fittings.capacity fit)

theorem fittings (h : s.InStep same s') : s.fittings = s'.fittings := by
  rw [Sampler.fittings, h.nominalStep, h.alpha, h.queue.capacity, Sampler.fittings]

end InStep

end Sampler

namespace Sound

variable {s s' : Sound}

structure Fittings where
  enabled : Bool
  sampler : Sampler.Fittings

def fittings (s : Sound) : Fittings := ⟨s.enabled, s.sampler.fittings⟩

structure InStep (same : Prop) (s s' : Sound) : Prop where
  enabled : s.enabled = s'.enabled
  generator : s.generator = s'.generator
  done : s.done = s'.done
  sampler : s.sampler.InStep same s'.sampler

namespace InStep

theorem play (n : Nat) (settings : Settings) (g : Generator) {out out' : Sampler}
    (h : out.InStep same out') :
    (play n settings g out).1 = (play n settings g out').1 ∧
      (play n settings g out).2.InStep same (play n settings g out').2 := by
  induction n generalizing g out out' with
  | zero => exact ⟨rfl, h⟩
  | succ n ih => exact ih (g.step settings) (h.add _)

theorem catchUp (h : s.InStep same s') (now : UInt64) (settings : Settings) :
    (s.catchUp now settings).InStep same (s'.catchUp now settings) := by
  obtain ⟨enabled, generator, done, sampler⟩ := s
  obtain ⟨enabled', generator', done', sampler'⟩ := s'
  obtain ⟨rfl, rfl, rfl, h⟩ := h
  unfold Sound.catchUp
  dsimp only
  split
  · exact ⟨rfl, rfl, rfl, h⟩
  · split
    · exact ⟨rfl, rfl, rfl, h⟩
    · split
      · obtain ⟨generator, out⟩ := play (now - done).toNat settings generator h
        exact ⟨rfl, generator, rfl, out⟩
      · exact ⟨rfl, rfl, rfl, h⟩

theorem reload (h : s.InStep same s') (p : Periods) : (s.reload p).InStep same (s'.reload p) :=
  ⟨h.enabled, congrArg (·.reload p) h.generator, h.done, h.sampler⟩

theorem resetNoise (h : s.InStep same s') : s.resetNoise.InStep same s'.resetNoise :=
  ⟨h.enabled, congrArg (fun g : Generator => { g with noise := {} }) h.generator, h.done,
    h.sampler⟩

theorem drain (h : s.InStep same s') (n : Nat) :
    (s.drain n).1.length = (s'.drain n).1.length ∧ (same → (s.drain n).1 = (s'.drain n).1) ∧
      (s.drain n).2.InStep same (s'.drain n).2 := by
  obtain ⟨length, samples, queue⟩ := h.sampler.queue.take n
  exact ⟨length, samples, h.enabled, h.generator, h.done, { h.sampler with queue }⟩

theorem reset (fit : s.fittings = s'.fittings)
    (level : same → s.sampler.filter.state = s'.sampler.filter.state) (now : UInt64) :
    (s.reset now).InStep same (s'.reset now) :=
  ⟨congrArg Fittings.enabled fit, rfl, rfl, .reset (congrArg Fittings.sampler fit) level⟩

theorem fittings (h : s.InStep same s') : s.fittings = s'.fittings := by
  rw [Sound.fittings, h.enabled, h.sampler.fittings, Sound.fittings]

end InStep

end Sound

variable {p p' : Pokey}

def withSound (p : Pokey) (sound : Sound) : Pokey := { p with sound }

inductive InStep (same : Prop) (p : Pokey) : Pokey → Prop
  | intro {sound : Sound} : p.sound.InStep same sound → InStep same p (p.withSound sound)

namespace InStep

theorem sound (h : p.InStep same p') : p.sound.InStep same p'.sound := by
  rcases h with ⟨sound⟩
  exact sound

theorem of_sound (h : p.InStep same p') {sound sound' : Sound} (inStep : sound.InStep same sound') :
    (p.withSound sound).InStep same (p'.withSound sound') := by
  cases h
  exact .intro inStep

theorem periods (h : p.InStep same p') : p.periods = p'.periods := by
  cases h
  rfl

theorem catchUp (h : p.InStep same p') (now : UInt64) :
    (p.catchUp now).InStep same (p'.catchUp now) := by
  rcases h with ⟨sound⟩
  exact .intro (sound.catchUp now p.settings)

theorem read (h : p.InStep same p') (register : UInt8) (now : UInt64) :
    (p.read register now).1 = (p'.read register now).1 ∧
      (p.read register now).2.InStep same (p'.read register now).2 := by
  have caught := h.catchUp now
  obtain @⟨sound, h⟩ := h
  unfold Pokey.read
  dsimp only
  split
  case h_3 =>
    have held : (p.withSound sound).held = p.held := rfl
    rw [held]
    split
    · exact ⟨rfl, .intro h⟩
    · refine ⟨?_, caught⟩
      have random : (p.catchUp now).sound.random = ((p.withSound sound).catchUp now).sound.random :=
        congrArg (fun g : Generator => g.noise.random) caught.sound.generator
      rw [random]
      rfl
  all_goals exact ⟨rfl, .intro h⟩

theorem setSerialControl (h : p.InStep same p') (value : UInt8) (now : UInt64) (s : Schedule) :
    (p.setSerialControl value now s).1.InStep same (p'.setSerialControl value now s).1 ∧
      (p.setSerialControl value now s).2 = (p'.setSerialControl value now s).2 := by
  obtain @⟨sound, h⟩ := h
  have held : { p.withSound sound with serialControl := value }.held =
      { p with serialControl := value }.held := rfl
  have wasHeld : (p.withSound sound).held = p.held := rfl
  unfold Pokey.setSerialControl
  dsimp only
  rw [held, wasHeld]
  split
  · exact ⟨.intro h.resetNoise, rfl⟩
  · split
    · exact ⟨.intro h, rfl⟩
    · exact ⟨.intro h, rfl⟩

theorem write (h : p.InStep same p') (register value : UInt8) (now : UInt64) (s : Schedule) :
    (p.write register value now s).1.InStep same (p'.write register value now s).1 ∧
      (p.write register value now s).2 = (p'.write register value now s).2 := by
  have caught := h.catchUp now
  unfold Pokey.write
  dsimp only
  generalize p.catchUp now = p, p'.catchUp now = p' at caught
  obtain @⟨sound, h⟩ := caught
  split
  case h_9 => exact ⟨.intro (h.reload _), rfl⟩
  case h_10 => exact ⟨.intro (h.reload _), rfl⟩
  case h_15 => exact setSerialControl (.intro h) value now s
  all_goals exact ⟨.intro h, rfl⟩

theorem raise (h : p.InStep same p') (source : UInt8) :
    (p.raise source).1 = (p'.raise source).1 ∧
      (p.raise source).2.InStep same (p'.raise source).2 := by
  obtain @⟨sound, h⟩ := h
  have enables : (p.withSound sound).enables source = p.enables source := rfl
  unfold Pokey.raise
  rw [enables]
  split
  · exact ⟨rfl, .intro h⟩
  · exact ⟨rfl, .intro h⟩

theorem timerDue (h : p.InStep same p') (t : Timer) (deadline : UInt64) (s : Schedule) :
    (p.timerDue t deadline s).1 = (p'.timerDue t deadline s).1 ∧
      (p.timerDue t deadline s).2.2 = (p'.timerDue t deadline s).2.2 ∧
        (p.timerDue t deadline s).2.1.InStep same (p'.timerDue t deadline s).2.1 := by
  obtain ⟨asked, raised⟩ := h.raise t.source
  obtain @⟨sound, h⟩ := h
  have stopped : ((p.withSound sound).held || !(p.withSound sound).enables t.source) =
      (p.held || !p.enables t.source) := rfl
  unfold Pokey.timerDue
  dsimp only
  rw [stopped]
  split
  · exact ⟨rfl, rfl, .intro h⟩
  · refine ⟨asked, ?_, raised⟩
    rw [raised.periods]

theorem serialOutNeeded (h : p.InStep same p') (s : Schedule) :
    (p.serialOutNeeded s).1 = (p'.serialOutNeeded s).1 ∧
      (p.serialOutNeeded s).2.2 = (p'.serialOutNeeded s).2.2 ∧
        (p.serialOutNeeded s).2.1.InStep same (p'.serialOutNeeded s).2.1 := by
  obtain ⟨asked, raised⟩ := h.raise Source.serialOutNeeded
  exact ⟨asked, rfl, raised⟩

theorem serialOutDone (h : p.InStep same p') (s : Schedule) :
    (p.serialOutDone s).1 = (p'.serialOutDone s).1 ∧
      (p.serialOutDone s).2.2 = (p'.serialOutDone s).2.2 ∧
        (p.serialOutDone s).2.1.InStep same (p'.serialOutDone s).2.1 := by
  obtain ⟨h⟩ := h
  exact ⟨rfl, rfl, .intro h⟩

theorem receive (h : p.InStep same p') (byte : UInt8) :
    (p.receive byte).1 = (p'.receive byte).1 ∧
      (p.receive byte).2.InStep same (p'.receive byte).2 := by
  obtain ⟨h⟩ := h
  unfold Pokey.receive
  refine raise ?_ _
  exact .intro h

theorem keyDown (h : p.InStep same p') (code : UInt8) :
    (p.keyDown code).1 = (p'.keyDown code).1 ∧
      (p.keyDown code).2.InStep same (p'.keyDown code).2 := by
  obtain ⟨h⟩ := h
  unfold Pokey.keyDown
  refine raise ?_ _
  exact .intro h

theorem setShift (h : p.InStep same p') (pressed : Bool) :
    (p.setShift pressed).InStep same (p'.setShift pressed) := by
  obtain ⟨h⟩ := h
  exact .intro h

theorem setPaddle (h : p.InStep same p') (n : Nat) (position : UInt8) :
    (p.setPaddle n position).InStep same (p'.setPaddle n position) := by
  obtain ⟨h⟩ := h
  exact .intro h

theorem keyUp (h : p.InStep same p') : p.keyUp.InStep same p'.keyUp := by
  obtain ⟨h⟩ := h
  exact .intro h

end InStep

end Pokey

end Atari800XL
