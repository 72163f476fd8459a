import Atari800XL.Proofs.Pokey.ShiftRegister
import Atari800XL.Proofs.Pokey.Silence

namespace Atari800XL.Pokey.Sound

open Function Polynomials

variable {s : Sound} {settings : Settings} {m n : Nat} {a b now : UInt64}

theorem play_add (m n : Nat) (settings : Settings) (g : Generator) (out : Sampler) :
    play (m + n) settings g out =
      play n settings (play m settings g out).1 (play m settings g out).2 := by
  induction m generalizing g out with
  | zero => rw [Nat.zero_add, play]
  | succ m ih => rw [Nat.succ_add, play, ih, play]

def advance (s : Sound) (cycles : Nat) (settings : Settings) : Sound :=
  if settings.held then s
  else if s.enabled then
    { s with
      generator := (play cycles settings s.generator s.sampler).1
      sampler := (play cycles settings s.generator s.sampler).2 }
  else { s with generator.noise := step^[cycles] s.generator.noise }

theorem advance_add (s : Sound) (m n : Nat) (settings : Settings) :
    s.advance (m + n) settings = (s.advance m settings).advance n settings := by
  by_cases held : settings.held
  · simp only [advance, held, if_true]
  · by_cases enabled : s.enabled
    · simp only [advance, held, enabled, if_true, if_false, play_add, Bool.false_eq_true]
    · simp only [advance, held, enabled, if_false, Nat.add_comm m n, iterate_add_apply,
        Bool.false_eq_true]

theorem advance_done (s : Sound) (now : UInt64) (n : Nat) (settings : Settings) :
    { s with done := now }.advance n settings = { s.advance n settings with done := now } := by
  unfold advance
  dsimp only
  split
  · rfl
  · split <;> rfl

theorem catchUp_eq_advance (cyclic : s.generator.noise.Cyclic) (lt : s.done < now)
    (settings : Settings) :
    s.catchUp now settings =
      { s.advance (now.toNat - s.done.toNat) settings with done := now } := by
  have elapsed : (now - s.done).toNat = now.toNat - s.done.toNat :=
    UInt64.toNat_sub_of_le _ _ (UInt64.le_of_lt lt)
  unfold catchUp advance
  rw [if_neg (UInt64.not_le.2 lt)]
  dsimp only
  split
  · rfl
  · split
    · rw [elapsed]
    · rw [cyclic.skip_eq, elapsed]

theorem inRange_catchUp (inRange : s.generator.noise.InRange) (now : UInt64) (settings : Settings) :
    (s.catchUp now settings).generator.noise.InRange := by
  by_cases le : now ≤ s.done
  · rwa [catchUp_of_le le]
  · rw [(catchUp_of_lt inRange.cyclic (UInt64.not_le.1 le) settings).2]
    split
    · exact inRange
    · exact inRange.iterate _

inductive Reached : Sound → Prop
  | create (clockRate sampleRate : UInt32) (enabled : Bool) :
      Reached (.create clockRate sampleRate enabled)
  | setEnabled {s : Sound} (enabled : Bool) : Reached s → Reached (s.setEnabled enabled)
  | reset {s : Sound} (now : UInt64) : Reached s → Reached (s.reset now)
  | resetNoise {s : Sound} : Reached s → Reached s.resetNoise
  | reload {s : Sound} (p : Periods) : Reached s → Reached (s.reload p)
  | drain {s : Sound} (n : Nat) : Reached s → Reached (s.drain n).2
  | catchUp {s : Sound} (now : UInt64) (settings : Settings) :
      Reached s → Reached (s.catchUp now settings)

theorem Reached.inRange (h : s.Reached) : s.generator.noise.InRange := by
  induction h with
  | create | reset | resetNoise => exact inRange_start
  | setEnabled _ _ ih | reload _ _ ih | drain _ _ ih => exact ih
  | catchUp now settings _ ih => exact inRange_catchUp ih now settings

/-- To bring the sound up to date at a cycle in between, before or behind, changes nothing. No sound
has more in the registers of its noise than their bits (`Reached.inRange`). -/
theorem catchUp_catchUp (inRange : s.generator.noise.InRange) (le : a ≤ b) (settings : Settings) :
    (s.catchUp a settings).catchUp b settings = s.catchUp b settings := by
  have cyclic := inRange.cyclic
  by_cases idle : a ≤ s.done
  · rw [catchUp_of_le idle]
  have lt := UInt64.not_le.1 idle
  have done : (s.catchUp a settings).done = a := (catchUp_of_lt cyclic lt settings).1
  rcases UInt64.lt_or_eq_of_le le with between | rfl
  · have cycles : a.toNat - s.done.toNat + (b.toNat - a.toNat) = b.toNat - s.done.toNat := by
      have first := UInt64.lt_iff_toNat_lt.1 lt
      have second := UInt64.lt_iff_toNat_lt.1 between
      omega
    rw [catchUp_eq_advance (cyclic_catchUp cyclic) (done.symm ▸ between), done,
      catchUp_eq_advance cyclic lt, advance_done, ← advance_add, cycles,
      catchUp_eq_advance cyclic (UInt64.lt_trans lt between)]
  · exact catchUp_of_le (UInt64.le_of_eq done.symm)

def sampleSettings : Settings where
  control := Vector.replicate _ 0xAF
  shared := 0x01
  periods := ⟨28, 31, 57, 114⟩
  held := false

theorem catchUp_catchUp_sample :
    let s := (create 1789773 44100 false).catchUp 10 sampleSettings
    s.generator.noise.InRange ∧ s.done = 10 ∧ (40 : UInt64) ≤ 131111 ∧
      (s.catchUp 40 sampleSettings).catchUp 131111 sampleSettings =
        s.catchUp 131111 sampleSettings := by
  have inRange := (Reached.create 1789773 44100 false).catchUp 10 sampleSettings |>.inRange
  exact ⟨inRange, rfl, by decide, catchUp_catchUp inRange (by decide) sampleSettings⟩

end Atari800XL.Pokey.Sound
