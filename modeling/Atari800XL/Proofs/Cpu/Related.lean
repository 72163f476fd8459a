import Atari800XL.Proofs.Cpu.Morphism

namespace Atari800XL

namespace Bus

variable {β γ : Type} [Bus β] [Bus γ]

/-- A relation between buses that reads and writes keep, and under which reads answer alike. -/
structure Related (R : β → γ → Prop) : Prop where
  read : ∀ {x y} address, R x y →
    (read x address).1 = (read y address).1 ∧ R (read x address).2 (read y address).2
  write : ∀ {x y} address value, R x y → R (write x address value) (write y address value)

structure Enters (R : β → γ → Prop) : Prop where
  push : ∀ {x y} (r : Cpu.Registers) value, R x y →
    R (write x r.stackAddress value) (write y r.stackAddress value)
  vector : ∀ {x y} address, Cpu.nmiVector ≤ address → R x y →
    (read x address).1 = (read y address).1 ∧ R (read x address).2 (read y address).2

end Bus

structure Tapped (β : Type) where
  bus : β
  reads : List (UInt16 × UInt8) := []

namespace Tapped

variable {β : Type} [Bus β]

instance : Bus (Tapped β) where
  read t address :=
    let (value, bus) := Bus.read t.bus address
    (value, { bus, reads := (address, value) :: t.reads })
  write t address value := { t with bus := Bus.write t.bus address value }

end Tapped

namespace Cpu

open Bus

variable {β γ : Type} [Bus β] [Bus γ] {R : β → γ → Prop} {x : β} {y : γ}

@[reducible]
def busOfPairs (hR : Related R) : Bus { p : β × γ // R p.1 p.2 } where
  read p address :=
    ((read p.1.1 address).1, ⟨((read p.1.1 address).2, (read p.1.2 address).2),
      (hR.read address p.2).2⟩)
  write p address value :=
    ⟨(write p.1.1 address value, write p.1.2 address value), hR.write address value p.2⟩

theorem step_related (hR : Related R) (cpu : Cpu) (h : R x y) :
    (cpu.step x).1 = (cpu.step y).1 ∧ R (cpu.step x).2 (cpu.step y).2 := by
  let _ := busOfPairs hR
  have left : Morphism fun p : { p : β × γ // R p.1 p.2 } => p.1.1 :=
    ⟨fun _ _ => rfl, fun _ _ _ => rfl⟩
  have right : Morphism fun p : { p : β × γ // R p.1 p.2 } => p.1.2 :=
    ⟨fun p address => Prod.ext (hR.read address p.2).1.symm rfl, fun _ _ _ => rfl⟩
  have first := step_map left cpu ⟨(x, y), h⟩
  have second := step_map right cpu ⟨(x, y), h⟩
  dsimp only at first second
  rw [first, second]
  exact ⟨rfl, (cpu.step (⟨(x, y), h⟩ : { p : β × γ // R p.1 p.2 })).2.2⟩

section

variable (hR : Enters R) (h : R x y)
include hR h

theorem push_related (r : Registers) (value : UInt8) :
    (r.push x value).1 = (r.push y value).1 ∧ R (r.push x value).2 (r.push y value).2 :=
  ⟨rfl, hR.push r value h⟩

theorem pushWord_related (r : Registers) (value : UInt16) :
    (r.pushWord x value).1 = (r.pushWord y value).1 ∧
      R (r.pushWord x value).2 (r.pushWord y value).2 :=
  push_related hR (push_related hR h r _).2 _ _

theorem enter_related (r : Registers) (pushed : UInt8) (vector : UInt16)
    (low : nmiVector ≤ vector) (high : nmiVector ≤ vector + 1) :
    (r.enter x pushed vector).1 = (r.enter y pushed vector).1 ∧
      R (r.enter x pushed vector).2 (r.enter y pushed vector).2 := by
  have word := (pushWord_related hR h r r.pc).2
  have status := (push_related hR word (r.pushWord x r.pc).1 pushed).2
  obtain ⟨first, between⟩ := hR.vector vector low status
  obtain ⟨second, after⟩ := hR.vector (vector + 1) high between
  have registers : (r.pushWord x r.pc).1 = (r.pushWord y r.pc).1 := rfl
  simp only [Registers.enter, readWord, readPair]
  rw [registers] at first second after ⊢
  refine ⟨?_, after⟩
  rw [first, second]
  rfl

theorem enterInterrupt_related (cpu : Cpu) (vector : UInt16) (low : nmiVector ≤ vector)
    (high : nmiVector ≤ vector + 1) :
    (cpu.enterInterrupt x vector).1 = (cpu.enterInterrupt y vector).1 ∧
      R (cpu.enterInterrupt x vector).2 (cpu.enterInterrupt y vector).2 := by
  obtain ⟨regs, bus⟩ := enter_related hR h cpu.regs cpu.regs.hardwareStatus vector low high
  exact ⟨congrArg (fun regs => { cpu with regs }) regs, bus⟩

theorem nmi_related (cpu : Cpu) :
    (cpu.nmi x).1 = (cpu.nmi y).1 ∧ R (cpu.nmi x).2 (cpu.nmi y).2 := by
  obtain ⟨entered, bus⟩ :=
    enterInterrupt_related hR h cpu nmiVector (by decide) (by decide)
  exact ⟨congrArg (·.advance interruptCycles) entered, bus⟩

theorem irq_related (cpu : Cpu) :
    (cpu.irq x).1 = (cpu.irq y).1 ∧ R (cpu.irq x).2 (cpu.irq y).2 := by
  obtain ⟨entered, bus⟩ :=
    enterInterrupt_related hR h cpu irqVector (by decide) (by decide)
  unfold irq
  split
  · exact ⟨rfl, h⟩
  · exact ⟨congrArg (·.advance interruptCycles) entered, bus⟩

end

end Cpu

structure TimedBus.Related {β γ : Type} [TimedBus β] [TimedBus γ] (R : β → γ → Prop) : Prop
    extends Bus.Related R where
  takeHook : ∀ {x y} hook cpu, R x y →
    (takeHook hook cpu x).1 = (takeHook hook cpu y).1 ∧
      (takeHook hook cpu x).2.1 = (takeHook hook cpu y).2.1 ∧
        R (takeHook hook cpu x).2.2 (takeHook hook cpu y).2.2

namespace Cpu

variable {β γ : Type} [TimedBus β] [TimedBus γ] {R : β → γ → Prop} {x : β} {y : γ}

theorem stepHooked_related (hR : TimedBus.Related R) (cpu : Cpu)
    (h : R (TimedBus.syncClock cpu.total x) (TimedBus.syncClock cpu.total y)) :
    (cpu.stepHooked x).1 = (cpu.stepHooked y).1 ∧ R (cpu.stepHooked x).2 (cpu.stepHooked y).2 := by
  unfold stepHooked
  dsimp only
  split
  · exact step_related hR.toRelated cpu h
  · rename_i hook _
    obtain ⟨taken, same, kept⟩ := hR.takeHook hook cpu h
    rw [taken, same]
    split
    · exact ⟨rfl, kept⟩
    · exact step_related hR.toRelated _ kept

theorem move_related (hR : TimedBus.Related R) (cpu : Cpu) (h : R x y)
    (sync : R (TimedBus.syncClock cpu.total x) (TimedBus.syncClock cpu.total y))
    (next : TimedBus.nextEvent x = TimedBus.nextEvent y)
    (stall : TimedBus.stallUntil x = TimedBus.stallUntil y)
    (waits : ¬TimedBus.nextEvent x ≤ cpu.total) (target : UInt64) :
    (cpu.move x target).1 = (cpu.move y target).1 ∧
      R (cpu.move x target).2 (cpu.move y target).2 := by
  unfold move
  rw [← next, ← stall, if_neg waits, if_neg waits]
  dsimp only
  split
  · exact ⟨rfl, h⟩
  · exact stepHooked_related hR cpu sync

theorem stepHooked_keeps {P : β → Prop} (bus : Bus.Keeps P)
    (hook : ∀ hook cpu x, P x → P (TimedBus.takeHook hook cpu x).2.2) {cpu : Cpu}
    (h : P (TimedBus.syncClock cpu.total x)) : P (cpu.stepHooked x).2 := by
  unfold stepHooked
  dsimp only
  split
  · exact step_keeps bus cpu h
  · rename_i service _
    have called := hook service cpu _ h
    split
    · exact called
    · exact step_keeps bus _ called

end Cpu

end Atari800XL
