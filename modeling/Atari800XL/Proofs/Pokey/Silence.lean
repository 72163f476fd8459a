import Atari800XL.Pokey.Basic
import Atari800XL.Proofs.Pokey.Noise

namespace Atari800XL.Pokey

open Function Polynomials

namespace Sound

variable {s : Sound} {now : UInt64} {settings : Settings}

def phase (s : Sound) (held : Bool) : Polynomials :=
  if held then s.generator.noise else s.generator.noise.rewind s.done.toNat

def noiseAt (phase : Polynomials) (held : Bool) (now : UInt64) : Polynomials :=
  if held then phase else step^[now.toNat] phase

structure Tuned (s : Sound) (now : UInt64) : Prop where
  cyclic : s.generator.noise.Cyclic
  done_le : s.done ≤ now

theorem Tuned.mono {later : UInt64} (h : s.Tuned now) (le : now ≤ later) : s.Tuned later :=
  ⟨h.cyclic, UInt64.le_trans h.done_le le⟩

theorem noise_play (n : Nat) (settings : Settings) (g : Generator) (out : Sampler) :
    (play n settings g out).1.noise = step^[n] g.noise := by
  induction n generalizing g out with
  | zero => rfl
  | succ n ih => exact ih (g.step settings) _

theorem catchUp_of_le (le : now ≤ s.done) : s.catchUp now settings = s := if_pos le

theorem catchUp_of_lt (cyclic : s.generator.noise.Cyclic) (lt : s.done < now)
    (settings : Settings) :
    (s.catchUp now settings).done = now ∧
      (s.catchUp now settings).generator.noise =
        if settings.held then s.generator.noise
        else step^[now.toNat - s.done.toNat] s.generator.noise := by
  have elapsed : (now - s.done).toNat = now.toNat - s.done.toNat :=
    UInt64.toNat_sub_of_le _ _ (UInt64.le_of_lt lt)
  unfold catchUp
  rw [if_neg (UInt64.not_le.2 lt)]
  dsimp only
  split
  · exact ⟨rfl, rfl⟩
  · split
    · exact ⟨rfl, (noise_play _ _ _ _).trans (by rw [elapsed])⟩
    · exact ⟨rfl, (cyclic.skip_eq _).trans (by rw [elapsed])⟩

theorem cyclic_catchUp (cyclic : s.generator.noise.Cyclic) :
    (s.catchUp now settings).generator.noise.Cyclic := by
  by_cases le : now ≤ s.done
  · rwa [catchUp_of_le le]
  · rw [(catchUp_of_lt cyclic (UInt64.not_le.1 le) settings).2]
    split
    · exact cyclic
    · exact cyclic.iterate _

theorem cyclic_phase (cyclic : s.generator.noise.Cyclic) (held : Bool) :
    (s.phase held).Cyclic := by
  unfold phase
  split
  · exact cyclic
  · exact cyclic.rewind _

theorem phase_catchUp (cyclic : s.generator.noise.Cyclic) (now : UInt64) (settings : Settings) :
    (s.catchUp now settings).phase settings.held = s.phase settings.held := by
  by_cases le : now ≤ s.done
  · rw [catchUp_of_le le]
  have lt := UInt64.not_le.1 le
  obtain ⟨done, noise⟩ := catchUp_of_lt cyclic lt settings
  unfold phase
  rw [done, noise]
  cases settings.held with
  | true => rfl
  | false =>
    have sum : s.done.toNat + (now.toNat - s.done.toNat) = now.toNat :=
      Nat.add_sub_of_le (Nat.le_of_lt (UInt64.lt_iff_toNat_lt.1 lt))
    have back := cyclic.rewind_iterate s.done.toNat (now.toNat - s.done.toNat)
    rwa [sum] at back

theorem Tuned.catchUp_eq (h : s.Tuned now) (settings : Settings) :
    (s.catchUp now settings).done = now ∧
      (s.catchUp now settings).generator.noise =
        noiseAt (s.phase settings.held) settings.held now := by
  have cyclic := h.cyclic
  unfold noiseAt phase
  by_cases le : now ≤ s.done
  · obtain rfl := UInt64.le_antisymm h.done_le le
    rw [catchUp_of_le le]
    refine ⟨rfl, ?_⟩
    split
    · rfl
    · exact (cyclic.iterate_rewind _).symm
  have lt := UInt64.not_le.1 le
  obtain ⟨done, noise⟩ := catchUp_of_lt cyclic lt settings
  refine ⟨done, noise.trans ?_⟩
  split
  · rfl
  · have sum : now.toNat - s.done.toNat + s.done.toNat = now.toNat :=
      Nat.sub_add_cancel (UInt64.le_iff_toNat_le.1 h.done_le)
    rw [← sum, iterate_add_apply, cyclic.iterate_rewind, sum]

theorem Tuned.catchUp (h : s.Tuned now) (settings : Settings) :
    (s.catchUp now settings).Tuned now :=
  ⟨cyclic_catchUp h.cyclic, UInt64.le_of_eq (h.catchUp_eq settings).1⟩

theorem Tuned.catchUp_of_le {earlier : UInt64} (h : s.Tuned now) (le : earlier ≤ now)
    (settings : Settings) : (s.catchUp earlier settings).Tuned now := by
  refine ⟨cyclic_catchUp h.cyclic, ?_⟩
  by_cases done : earlier ≤ s.done
  · rw [Sound.catchUp_of_le done]
    exact h.done_le
  · rw [(catchUp_of_lt h.cyclic (UInt64.not_le.1 done) settings).1]
    exact le

def still (noise : Polynomials) : Sound :=
  { enabled := false, generator := { noise }, sampler := default }

@[simp] theorem phase_still (noise : Polynomials) (held : Bool) :
    (still noise).phase held = noise := by
  cases held <;> rfl

theorem tuned_still {noise : Polynomials} (cyclic : noise.Cyclic) (now : UInt64) :
    (still noise).Tuned now := ⟨cyclic, UInt64.zero_le⟩

theorem tuned_create (clockRate sampleRate : UInt32) (enabled : Bool) :
    (create clockRate sampleRate enabled).Tuned now := ⟨cyclic_start, UInt64.zero_le⟩

structure Agrees (s s' : Sound) : Prop where
  noise : s.generator.noise = s'.generator.noise
  done : s.done = s'.done

theorem Agrees.phase {s' : Sound} (h : s.Agrees s') (held : Bool) : s.phase held = s'.phase held := by
  rw [Sound.phase, h.noise, h.done, Sound.phase]

end Sound

variable {p : Pokey} {now : UInt64}

def phase (p : Pokey) : Polynomials := p.sound.phase p.held

def silent (p : Pokey) : Pokey := { p with sound := .still p.phase }

@[simp] theorem phase_silent (p : Pokey) : p.silent.phase = p.phase := Sound.phase_still _ _

@[simp] theorem silent_silent (p : Pokey) : p.silent.silent = p.silent := by
  rw [silent, phase_silent, silent]

theorem silent_congr {q : Pokey} (rest : { q with sound := p.sound } = p)
    (agrees : q.sound.Agrees p.sound) : q.silent = p.silent := by
  have held : { q with sound := p.sound }.held = p.held := congrArg Pokey.held rest
  have phase : q.phase = p.phase := by
    rw [Pokey.phase, agrees.phase, Pokey.phase, ← held]
    rfl
  rw [silent, phase, silent, ← rest]

theorem silent_catchUp (cyclic : p.sound.generator.noise.Cyclic) (now : UInt64) :
    (p.catchUp now).silent = p.silent := by
  have same : (p.catchUp now).phase = p.phase := Sound.phase_catchUp cyclic now p.settings
  rw [silent, same, silent]
  rfl

theorem silent_drain (cyclic : p.sound.generator.noise.Cyclic) (now : UInt64) (n : Nat) :
    { p.catchUp now with sound := ((p.catchUp now).sound.drain n).2 }.silent = p.silent := by
  rw [← silent_catchUp cyclic now]
  exact silent_congr rfl ⟨rfl, rfl⟩

theorem cyclic_silent (cyclic : p.sound.generator.noise.Cyclic) :
    p.silent.sound.generator.noise.Cyclic := Sound.cyclic_phase cyclic p.held

theorem catchUp_silent (tuned : p.sound.Tuned now) :
    ∃ sound, p.silent.catchUp now = { p.catchUp now with sound } ∧
      sound.Agrees (p.catchUp now).sound := by
  have still : p.silent.sound.Tuned now :=
    Sound.tuned_still (cyclic_silent tuned.cyclic) now
  obtain ⟨done, noise⟩ := tuned.catchUp_eq p.settings
  obtain ⟨done', noise'⟩ := still.catchUp_eq p.silent.settings
  refine ⟨_, rfl, ?_, done'.trans done.symm⟩
  refine noise'.trans (Eq.trans ?_ noise.symm)
  exact congrArg (Sound.noiseAt · p.held now) (Sound.phase_still _ _)

theorem read_silent (tuned : p.sound.Tuned now) (register : UInt8) :
    (p.silent.read register now).1 = (p.read register now).1 := by
  unfold read
  dsimp only
  split
  case h_3 =>
    have held : p.silent.held = p.held := rfl
    rw [held]
    split
    · rfl
    · obtain ⟨sound, caught, agrees⟩ := catchUp_silent tuned
      rw [caught]
      exact congrArg (Polynomials.random · _) agrees.noise
  all_goals rfl

theorem silent_read (cyclic : p.sound.generator.noise.Cyclic) (register : UInt8) (now : UInt64) :
    (p.read register now).2.silent = p.silent := by
  unfold read
  dsimp only
  split
  case h_3 =>
    split
    · rfl
    · exact silent_catchUp cyclic now
  all_goals rfl

theorem tuned_read (tuned : p.sound.Tuned now) (register : UInt8) :
    (p.read register now).2.sound.Tuned now := by
  unfold read
  dsimp only
  split
  case h_3 =>
    split
    · exact tuned
    · exact tuned.catchUp p.settings
  all_goals exact tuned

theorem setSerialControl_congr {sound : Sound} (agrees : sound.Agrees p.sound) (value : UInt8)
    (now : UInt64) (s : Schedule) :
    ({ p with sound }.setSerialControl value now s).2 = (p.setSerialControl value now s).2 ∧
      ({ p with sound }.setSerialControl value now s).1.silent =
        (p.setSerialControl value now s).1.silent := by
  have held : { p with sound, serialControl := value }.held =
      { p with serialControl := value }.held := rfl
  have wasHeld : { p with sound }.held = p.held := rfl
  unfold setSerialControl
  dsimp only
  rw [held, wasHeld]
  split
  · exact ⟨rfl, silent_congr rfl ⟨rfl, agrees.done⟩⟩
  · split
    · exact ⟨rfl, silent_congr rfl agrees⟩
    · exact ⟨rfl, silent_congr rfl agrees⟩

theorem tuned_setSerialControl (tuned : p.sound.Tuned now) (value : UInt8) (s : Schedule) :
    (p.setSerialControl value now s).1.sound.Tuned now := by
  unfold setSerialControl
  dsimp only
  split
  · exact ⟨cyclic_start, tuned.done_le⟩
  · split
    · exact tuned
    · exact tuned

theorem write_silent (tuned : p.sound.Tuned now) (register value : UInt8) (s : Schedule) :
    (p.silent.write register value now s).2 = (p.write register value now s).2 ∧
      (p.silent.write register value now s).1.silent = (p.write register value now s).1.silent := by
  obtain ⟨sound, caught, agrees⟩ := catchUp_silent tuned
  unfold write
  rw [caught]
  dsimp only
  generalize p.catchUp now = p at agrees
  split
  case h_9 => exact ⟨rfl, silent_congr rfl ⟨agrees.noise, agrees.done⟩⟩
  case h_10 => exact ⟨rfl, silent_congr rfl ⟨agrees.noise, agrees.done⟩⟩
  case h_15 => exact setSerialControl_congr agrees value now s
  all_goals exact ⟨rfl, silent_congr rfl agrees⟩

theorem tuned_write (tuned : p.sound.Tuned now) (register value : UInt8) (s : Schedule) :
    (p.write register value now s).1.sound.Tuned now := by
  have caught : (p.catchUp now).sound.Tuned now := tuned.catchUp p.settings
  unfold write
  dsimp only
  generalize p.catchUp now = p at caught
  split
  case h_9 => exact ⟨caught.cyclic, caught.done_le⟩
  case h_10 => exact ⟨caught.cyclic, caught.done_le⟩
  case h_15 => exact tuned_setSerialControl caught value s
  all_goals exact caught

theorem reset_silent (p : Pokey) (now : UInt64) : (p.silent.reset now).silent = (p.reset now).silent :=
  silent_congr rfl ⟨rfl, rfl⟩

theorem tuned_reset (p : Pokey) {start now : UInt64} (le : start ≤ now) :
    (p.reset start).sound.Tuned now := ⟨cyclic_start, le⟩

theorem raise_silent (p : Pokey) (source : UInt8) :
    p.silent.raise source = ((p.raise source).1, (p.raise source).2.silent) := by
  have same : p.silent.enables source = p.enables source := rfl
  unfold raise
  rw [same]
  split <;> rfl

theorem sound_raise (p : Pokey) (source : UInt8) : (p.raise source).2.sound = p.sound := by
  unfold raise
  split <;> rfl

theorem timerDue_silent (p : Pokey) (t : Timer) (deadline : UInt64) (s : Schedule) :
    p.silent.timerDue t deadline s =
      ((p.timerDue t deadline s).1, (p.timerDue t deadline s).2.1.silent,
        (p.timerDue t deadline s).2.2) := by
  have stopped : (p.silent.held || !p.silent.enables t.source) =
      (p.held || !p.enables t.source) := rfl
  unfold timerDue
  rw [stopped, raise_silent]
  split
  · rfl
  · rfl

theorem sound_timerDue (p : Pokey) (t : Timer) (deadline : UInt64) (s : Schedule) :
    (p.timerDue t deadline s).2.1.sound = p.sound := by
  unfold timerDue
  split
  · rfl
  · exact sound_raise p _

theorem serialOutNeeded_silent (p : Pokey) (s : Schedule) :
    p.silent.serialOutNeeded s =
      ((p.serialOutNeeded s).1, (p.serialOutNeeded s).2.1.silent, (p.serialOutNeeded s).2.2) := by
  unfold serialOutNeeded
  rw [raise_silent]

theorem serialOutDone_silent (p : Pokey) (s : Schedule) :
    p.silent.serialOutDone s =
      ((p.serialOutDone s).1, (p.serialOutDone s).2.1.silent, (p.serialOutDone s).2.2) := rfl

theorem receive_silent (p : Pokey) (byte : UInt8) :
    p.silent.receive byte = ((p.receive byte).1, (p.receive byte).2.silent) :=
  raise_silent { p with serialInput := byte } _

theorem breakDown_silent (p : Pokey) :
    p.silent.breakDown = (p.breakDown.1, p.breakDown.2.silent) := raise_silent p _

theorem keyDown_silent (p : Pokey) (code : UInt8) :
    p.silent.keyDown code = ((p.keyDown code).1, (p.keyDown code).2.silent) :=
  raise_silent { p with keyCode := code, serialStatus := p.serialStatus &&& ~~~0x04 } _

theorem sound_keyDown (p : Pokey) (code : UInt8) : (p.keyDown code).2.sound = p.sound :=
  sound_raise { p with keyCode := code, serialStatus := p.serialStatus &&& ~~~0x04 } _

end Atari800XL.Pokey
