import Atari800XL.Cpu.Bench

namespace Atari800XL.Cpu

variable {β : Type} [TimedBus β] {cpu cpu' : Cpu} {bus bus' : β} {a b target : UInt64}

inductive Runs (target : UInt64) : Cpu → β → Cpu → β → Prop
  | done {cpu : Cpu} {bus : β} : ¬cpu.total < target → Runs target cpu bus cpu bus
  | move {cpu cpu' : Cpu} {bus bus' : β} : cpu.total < target →
      Runs target (cpu.move bus target).1 (cpu.move bus target).2 cpu' bus' →
      Runs target cpu bus cpu' bus'

def Halts (cpu : Cpu) (bus : β) (target : UInt64) : Prop :=
  ∃ cpu' bus', Runs target cpu bus cpu' bus'

theorem run_of_not_lt (h : ¬cpu.total < target) : cpu.run bus target = (cpu, bus) := by
  rw [run, if_neg h]

theorem run_of_lt (h : cpu.total < target) :
    cpu.run bus target = (cpu.move bus target).1.run (cpu.move bus target).2 target := by
  rw [run, if_pos h]

theorem Runs.run_eq (h : Runs target cpu bus cpu' bus') : cpu.run bus target = (cpu', bus') := by
  induction h with
  | done h => exact run_of_not_lt h
  | move h _ ih => rw [run_of_lt h, ih]

theorem Runs.reaches (h : Runs target cpu bus cpu' bus') : target ≤ cpu'.total := by
  induction h with
  | done h => exact UInt64.not_lt.1 h
  | move _ _ ih => exact ih

theorem Halts.runs (h : Halts cpu bus target) :
    Runs target cpu bus (cpu.run bus target).1 (cpu.run bus target).2 := by
  obtain ⟨cpu', bus', h⟩ := h
  rw [h.run_eq]
  exact h

theorem move_halted (hn : ¬TimedBus.nextEvent bus ≤ cpu.total)
    (hs : TimedBus.stallUntil bus > cpu.total) :
    cpu.move bus target =
      ({ cpu with
         total := min (min (TimedBus.stallUntil bus) (TimedBus.nextEvent bus)) target }, bus) := by
  rw [move, if_neg hn]
  exact if_pos hs

theorem move_due (h : TimedBus.nextEvent bus ≤ cpu.total) :
    cpu.move bus target = TimedBus.serviceEvents cpu bus := by
  rw [move, if_pos h]

theorem move_started (hn : ¬TimedBus.nextEvent bus ≤ cpu.total)
    (hs : ¬TimedBus.stallUntil bus > cpu.total) : cpu.move bus target = cpu.stepHooked bus := by
  rw [move, if_neg hn]
  exact if_neg hs

theorem move_target
    (h : TimedBus.nextEvent bus ≤ cpu.total ∨ ¬TimedBus.stallUntil bus > cpu.total) :
    cpu.move bus a = cpu.move bus b := by
  by_cases hn : TimedBus.nextEvent bus ≤ cpu.total
  · rw [move_due hn, move_due hn]
  · have hs := h.resolve_left hn
    rw [move_started hn hs, move_started hn hs]

theorem move_cut (cpu : Cpu) (bus : β) (hab : a ≤ b) :
    cpu.move bus a = cpu.move bus b ∨
      cpu.move bus a = ({ cpu with total := a }, bus) ∧
        Cpu.move { cpu with total := a } bus b = cpu.move bus b := by
  by_cases hn : TimedBus.nextEvent bus ≤ cpu.total
  · exact .inl (move_target (.inl hn))
  by_cases hs : TimedBus.stallUntil bus > cpu.total
  · by_cases hf : min (TimedBus.stallUntil bus) (TimedBus.nextEvent bus) ≤ a
    · left
      rw [move_halted hn hs, move_halted hn hs, Std.min_eq_if (b := a), Std.min_eq_if (b := b),
        if_pos hf, if_pos (UInt64.le_trans hf hab)]
    · right
      obtain ⟨hsa, hna⟩ := not_or.1 (mt Std.min_le.2 hf)
      rw [move_halted hn hs, move_halted hn hs, move_halted hna (UInt64.not_le.1 hsa),
        Std.min_eq_if (b := a), if_neg hf]
      exact ⟨rfl, rfl⟩
  · exact .inl (move_target (.inr hs))

theorem Runs.cut (hab : a ≤ b) (h : Runs b cpu bus cpu' bus') :
    ∃ cpu₁ bus₁, Runs a cpu bus cpu₁ bus₁ ∧ Runs b cpu₁ bus₁ cpu' bus' := by
  by_cases heq : a = b
  · subst heq
    exact ⟨cpu', bus', h, .done (UInt64.not_lt.2 h.reaches)⟩
  have hlt : a < b := UInt64.lt_of_le_of_ne hab heq
  induction h with
  | done h => exact ⟨_, _, .done (mt (UInt64.lt_of_lt_of_le · hab) h), .done h⟩
  | @move cpu cpu' bus bus' hb h ih =>
    by_cases ha : cpu.total < a
    · rcases move_cut cpu bus hab with same | ⟨stopped, resumed⟩
      · obtain ⟨cpu₁, bus₁, h₁, h₂⟩ := ih
        rw [← same] at h₁
        exact ⟨cpu₁, bus₁, .move ha h₁, h₂⟩
      -- The halt that is cut at `a` leads where it would have led.
      · refine ⟨{ cpu with total := a }, bus, .move ha ?_, .move hlt ?_⟩
        · rw [stopped]
          exact .done (UInt64.lt_irrefl a)
        · rw [resumed]
          exact h
    · exact ⟨cpu, bus, .done ha, .move hb h⟩

/-- Running to `a` and then to `b` is running to `b`: the same processor and the same bus, whether
`a` lies inside a halt, inside an instruction, on a deadline or inside the cost of a hook. -/
theorem run_run (hab : a ≤ b) (h : Halts cpu bus b) :
    Halts cpu bus a ∧ Halts (cpu.run bus a).1 (cpu.run bus a).2 b ∧
      (cpu.run bus a).1.run (cpu.run bus a).2 b = cpu.run bus b := by
  obtain ⟨cpu', bus', h⟩ := h
  obtain ⟨cpu₁, bus₁, h₁, h₂⟩ := h.cut hab
  rw [h₁.run_eq, h₂.run_eq, h.run_eq]
  exact ⟨⟨cpu₁, bus₁, h₁⟩, ⟨cpu', bus', h₂⟩, rfl⟩

theorem run_run_halted :
    let bench : Bench := { ram := Ram.filled 0, stallUntil := 100 }
    (40 : UInt64) ≤ 70 ∧ Halts ({} : Cpu) bench 70 ∧
      (Cpu.run {} bench 40).1.run (Cpu.run {} bench 40).2 70 = Cpu.run {} bench 70 := by
  intro bench
  have first : Cpu.move {} bench 70 = ({ total := 70 }, bench) := rfl
  have halts : Halts ({} : Cpu) bench 70 := by
    refine ⟨{ total := 70 }, bench, .move (by decide) ?_⟩
    rw [first]
    exact .done (by decide)
  exact ⟨by decide, halts, (run_run (by decide) halts).2.2⟩

end Atari800XL.Cpu
