import Atari800XL.Proofs.Cpu.Runs
import Atari800XL.Proofs.Cpu.Time

/-! Interrupt requests are neither lost nor made up: each of them has been entered or still waits. A
history counts the requests and keeps the entries, wherever a processor is stepped, run and
interrupted. -/

namespace Atari800XL.Cpu

structure Entry where
  before : Cpu
  after : Cpu

/-- A processor with the number of requests that have been made and with the entries, the latest
first. -/
structure Watched where
  cpu : Cpu
  requests : Nat := 0
  entries : List Entry := []

namespace Watched

section

variable {β : Type} [Bus β]

def enter (w : Watched) (bus : β) : Watched × β :=
  let (cpu, bus) := w.cpu.enterInterrupt bus irqVector
  ({ w with cpu, entries := { before := w.cpu, after := cpu } :: w.entries }, bus)

def requestIrq (w : Watched) : Watched :=
  { w with cpu := w.cpu.requestIrq, requests := w.requests + 1 }

def irq (w : Watched) (bus : β) : Watched × β :=
  if w.cpu.masked then (w.requestIrq, bus)
  else
    let (entered, bus) := enter { w with requests := w.requests + 1 } bus
    ({ entered with cpu := entered.cpu.advance interruptCycles }, bus)

def nmi (w : Watched) (bus : β) : Watched × β :=
  let (cpu, bus) := w.cpu.nmi bus
  ({ w with cpu }, bus)

def step (w : Watched) (bus : β) : Watched × β :=
  if w.cpu.irqPending > 0 && !w.cpu.masked then
    let taken := { w.cpu with irqPending := w.cpu.irqPending - 1 }
    let (entered, bus) := enter { w with cpu := taken } bus
    ({ entered with cpu := entered.cpu.charge interruptCycles }, bus)
  else
    let (cpu, bus) := w.cpu.executeNext bus
    ({ w with cpu }, bus)

/-! Watching changes nothing. -/

theorem irq_cpu (w : Watched) (bus : β) :
    ((w.irq bus).1.cpu, (w.irq bus).2) = w.cpu.irq bus := by
  unfold irq Cpu.irq
  split <;> rfl

theorem step_cpu (w : Watched) (bus : β) :
    ((w.step bus).1.cpu, (w.step bus).2) = w.cpu.step bus := by
  unfold step Cpu.step
  split <;> rfl

end

inductive Disturbs (β : Type) [Bus β] : Watched → Watched → Prop
  | done {w : Watched} : Disturbs β w w
  | irq {w w' : Watched} (bus : β) : Disturbs β (w.irq bus).1 w' → Disturbs β w w'
  | nmi {w w' : Watched} (bus : β) : Disturbs β (w.nmi bus).1 w' → Disturbs β w w'
  | requestIrq {w w' : Watched} : Disturbs β w.requestIrq w' → Disturbs β w w'
  | other {w w' : Watched} {cpu : Cpu} : cpu.irqPending = w.cpu.irqPending →
      Disturbs β { w with cpu } w' → Disturbs β w w'

section

variable {β : Type} [TimedBus β] {w w' w'' : Watched} {bus bus' : β} {target : UInt64}

inductive Moves (target : UInt64) (w : Watched) (bus : β) : Watched → β → Prop
  | service {w' : Watched} : TimedBus.nextEvent bus ≤ w.cpu.total → Disturbs β w w' →
      w'.cpu = (TimedBus.serviceEvents w.cpu bus).1 →
      Moves target w bus w' (TimedBus.serviceEvents w.cpu bus).2
  | halt : ¬TimedBus.nextEvent bus ≤ w.cpu.total → TimedBus.stallUntil bus > w.cpu.total →
      Moves target w bus { w with cpu := (w.cpu.move bus target).1 } bus
  | step : ¬TimedBus.nextEvent bus ≤ w.cpu.total → ¬TimedBus.stallUntil bus > w.cpu.total →
      w.cpu.hookAt w.cpu.regs.pc = none →
      Moves target w bus (w.step (TimedBus.syncClock w.cpu.total bus)).1
        (w.step (TimedBus.syncClock w.cpu.total bus)).2
  | hook {hook : Hook} {taken : Bool} {w' : Watched} {bus' : β} :
      ¬TimedBus.nextEvent bus ≤ w.cpu.total → ¬TimedBus.stallUntil bus > w.cpu.total →
      w.cpu.hookAt w.cpu.regs.pc = some hook →
      TimedBus.takeHook hook w.cpu (TimedBus.syncClock w.cpu.total bus) =
        (taken, w'.cpu, bus') → Disturbs β w w' →
      Moves target w bus (if taken then (w', bus') else w'.step bus').1
        (if taken then (w', bus') else w'.step bus').2

inductive Runs (target : UInt64) : Watched → β → Watched → β → Prop
  | done {w : Watched} {bus : β} : ¬w.cpu.total < target → Runs target w bus w bus
  | move {w w₁ w' : Watched} {bus bus₁ bus' : β} : w.cpu.total < target →
      Moves target w bus w₁ bus₁ → Runs target w₁ bus₁ w' bus' → Runs target w bus w' bus'

theorem Moves.move_eq (h : Moves target w bus w' bus') :
    w.cpu.move bus target = (w'.cpu, bus') := by
  cases h with
  | service due _ same =>
    rw [move_due due, same]
  | halt next stall =>
    rw [move_halted next stall]
  | step next stall none =>
    rw [move_started next stall, stepHooked, none]
    exact (step_cpu w _).symm
  | @hook hook taken w' bus' next stall hooked called _ =>
    rw [move_started next stall, stepHooked, hooked]
    dsimp only
    rw [called]
    cases taken with
    | true => rfl
    | false => exact (step_cpu w' bus').symm

theorem Runs.runs (h : Runs target w bus w' bus') :
    Cpu.Runs target w.cpu bus w'.cpu bus' := by
  induction h with
  | done after => exact .done after
  | move before moves _ ih =>
    refine .move before ?_
    rw [moves.move_eq]
    exact ih

theorem Disturbs.trans (h : Disturbs β w w') (h' : Disturbs β w' w'') : Disturbs β w w'' := by
  induction h with
  | done => exact h'
  | irq bus _ ih => exact .irq bus (ih h')
  | nmi bus _ ih => exact .nmi bus (ih h')
  | requestIrq _ ih => exact .requestIrq (ih h')
  | other same _ ih => exact .other same (ih h')

def Disturbed (β : Type) [Bus β] (cpu cpu' : Cpu) : Prop :=
  ∀ w : Watched, w.cpu = cpu → ∃ w', Disturbs β w w' ∧ w'.cpu = cpu'

theorem disturbed_of_irqPending_eq {cpu cpu' : Cpu} (same : cpu'.irqPending = cpu.irqPending) :
    Disturbed β cpu cpu' := by
  rintro w rfl
  exact ⟨_, .other same .done, rfl⟩

theorem disturbed_irq (cpu : Cpu) (bus : β) : Disturbed β cpu (cpu.irq bus).1 := by
  rintro w rfl
  exact ⟨_, .irq bus .done, congrArg Prod.fst (irq_cpu w bus)⟩

theorem disturbed_nmi (cpu : Cpu) (bus : β) : Disturbed β cpu (cpu.nmi bus).1 := by
  rintro w rfl
  exact ⟨_, .nmi bus .done, rfl⟩

theorem Disturbed.trans {cpu cpu' cpu'' : Cpu} (h : Disturbed β cpu cpu')
    (h' : Disturbed β cpu' cpu'') : Disturbed β cpu cpu'' := by
  intro w same
  obtain ⟨w', disturbs, same'⟩ := h w same
  obtain ⟨w'', disturbs', same''⟩ := h' w' same'
  exact ⟨w'', disturbs.trans disturbs', same''⟩

theorem exists_moves (w : Watched) (bus : β) (target : UInt64)
    (service : TimedBus.nextEvent bus ≤ w.cpu.total →
      Disturbed β w.cpu (TimedBus.serviceEvents w.cpu bus).1)
    (hooks : ∀ hook cpu (bus : β), Disturbed β cpu (TimedBus.takeHook hook cpu bus).2.1) :
    ∃ w', w'.cpu = (w.cpu.move bus target).1 ∧
      Moves target w bus w' (w.cpu.move bus target).2 := by
  suffices found : ∃ w' bus', Moves target w bus w' bus' by
    obtain ⟨w', bus', moves⟩ := found
    rw [moves.move_eq]
    exact ⟨w', rfl, moves⟩
  by_cases next : TimedBus.nextEvent bus ≤ w.cpu.total
  · obtain ⟨w', disturbs, same⟩ := service next w rfl
    exact ⟨w', _, .service next disturbs same⟩
  by_cases stall : TimedBus.stallUntil bus > w.cpu.total
  · exact ⟨_, _, .halt next stall⟩
  cases hooked : w.cpu.hookAt w.cpu.regs.pc with
  | none => exact ⟨_, _, .step next stall hooked⟩
  | some hook =>
    obtain ⟨w', disturbs, same⟩ :=
      hooks hook w.cpu (TimedBus.syncClock w.cpu.total bus) w rfl
    generalize called : TimedBus.takeHook hook w.cpu (TimedBus.syncClock w.cpu.total bus) =
      answer at same
    obtain ⟨taken, cpu, bus'⟩ := answer
    replace same : w'.cpu = cpu := same
    rw [← same] at called
    exact ⟨_, _, .hook next stall hooked called disturbs⟩

/-- A bus of which neither the events nor the hooks disturb the processor any further. -/
structure Considerate (β : Type) [TimedBus β] : Prop where
  service : ∀ cpu (bus : β), Disturbed β cpu (TimedBus.serviceEvents cpu bus).1
  hooks : ∀ hook cpu (bus : β), Disturbed β cpu (TimedBus.takeHook hook cpu bus).2.1

theorem Considerate.exists_runs (h : Considerate β) {cpu cpu' : Cpu}
    (runs : Cpu.Runs target cpu bus cpu' bus') (w : Watched) (same : w.cpu = cpu) :
    ∃ w', w'.cpu = cpu' ∧ Runs target w bus w' bus' := by
  induction runs generalizing w with
  | done after => exact ⟨w, same, .done (same ▸ after)⟩
  | @move cpu cpu' bus bus' before _ ih =>
    subst same
    obtain ⟨w₁, same₁, moves⟩ :=
      exists_moves w bus target (fun _ => h.service w.cpu bus) h.hooks
    obtain ⟨w', same', rest⟩ := ih w₁ same₁
    exact ⟨w', same', .move before moves rest⟩

theorem considerate_bench : Considerate Bench where
  service cpu b := by
    have deliver (count : Nat) (cpu : Cpu) (b : Bench) :
        Disturbed Bench cpu (Bench.deliverDue count cpu b).1 := by
      induction count generalizing cpu b with
      | zero => exact disturbed_of_irqPending_eq rfl
      | succ count ih =>
        unfold Bench.deliverDue
        dsimp only
        split
        · exact disturbed_of_irqPending_eq rfl
        · split
          · exact disturbed_of_irqPending_eq rfl
          · rename_i signal _
            refine Disturbed.trans ?_ (ih _ _)
            cases signal.2 with
            | irq => exact disturbed_irq cpu _
            | nmi => exact disturbed_nmi cpu _
            | stall => exact disturbed_of_irqPending_eq rfl
            | silent => exact disturbed_of_irqPending_eq rfl
    exact deliver b.signals.length cpu b
  hooks hook cpu b := by
    cases hook <;> exact disturbed_of_irqPending_eq rfl

end

structure Balanced (w : Watched) : Prop where
  requests : w.requests = w.entries.length + w.cpu.irqPending
  entered : ∀ e ∈ w.entries, e.before.masked = false ∧ e.after.masked = true

section

variable {β : Type} [Bus β] {w w' : Watched}

theorem Balanced.of_irqPending_eq (h : w.Balanced) {cpu : Cpu}
    (same : cpu.irqPending = w.cpu.irqPending) : Balanced { w with cpu } where
  requests := by
    show w.requests = w.entries.length + cpu.irqPending
    rw [same]
    exact h.requests
  entered := h.entered

theorem Balanced.requestIrq (h : w.Balanced) : w.requestIrq.Balanced where
  requests := congrArg (· + 1) h.requests
  entered := h.entered

theorem balanced_enter (requests : w.requests = w.entries.length + 1 + w.cpu.irqPending)
    (entered : ∀ e ∈ w.entries, e.before.masked = false ∧ e.after.masked = true)
    (masked : w.cpu.masked = false) (bus : β) : (w.enter bus).1.Balanced where
  requests := requests
  entered e mem := by
    rcases List.mem_cons.1 mem with rfl | mem
    · exact ⟨masked, masked_enterInterrupt w.cpu bus irqVector⟩
    · exact entered e mem

theorem Balanced.irq (h : w.Balanced) (bus : β) : (w.irq bus).1.Balanced := by
  unfold Watched.irq
  split
  · exact h.requestIrq
  · rename_i masked
    have requests : w.requests + 1 = w.entries.length + 1 + w.cpu.irqPending := by
      rw [h.requests, Nat.add_right_comm]
    have entered := balanced_enter (w := { w with requests := w.requests + 1 }) requests
      h.entered (Bool.eq_false_iff.2 masked) bus
    exact entered.of_irqPending_eq rfl

theorem Balanced.step (h : w.Balanced) (bus : β) : (w.step bus).1.Balanced := by
  unfold Watched.step
  split
  · rename_i due
    obtain ⟨waits, masked⟩ := Bool.and_eq_true_iff.1 due
    have waits : 0 < w.cpu.irqPending := of_decide_eq_true waits
    have requests : w.requests = w.entries.length + 1 + (w.cpu.irqPending - 1) := by
      have balance := h.requests
      omega
    have masked : w.cpu.masked = false := by rwa [Bool.not_eq_true'] at masked
    have entered := balanced_enter
      (w := { w with cpu := { w.cpu with irqPending := w.cpu.irqPending - 1 } }) requests
      h.entered masked bus
    exact entered.of_irqPending_eq rfl
  · exact h.of_irqPending_eq rfl

theorem Disturbs.balanced (h : Disturbs β w w') (balanced : w.Balanced) : w'.Balanced := by
  induction h with
  | done => exact balanced
  | irq bus _ ih => exact ih (balanced.irq bus)
  | nmi bus _ ih => exact ih (balanced.of_irqPending_eq rfl)
  | requestIrq _ ih => exact ih balanced.requestIrq
  | other same _ ih => exact ih (balanced.of_irqPending_eq same)

end

section

variable {β : Type} [TimedBus β] {w w' : Watched} {bus bus' : β} {target : UInt64}

theorem Moves.balanced (h : Moves target w bus w' bus') (balanced : w.Balanced) :
    w'.Balanced := by
  cases h with
  | service _ disturbs _ => exact disturbs.balanced balanced
  | halt next stall =>
    refine balanced.of_irqPending_eq ?_
    rw [move_halted next stall]
  | step _ _ _ => exact balanced.step _
  | @hook _ taken w' bus' _ _ _ _ disturbs =>
    have after := disturbs.balanced balanced
    cases taken with
    | true => exact after
    | false => exact after.step bus'

theorem Runs.balanced (h : Runs target w bus w' bus') (balanced : w.Balanced) : w'.Balanced := by
  induction h with
  | done _ => exact balanced
  | move _ moves _ ih => exact ih (moves.balanced balanced)

/-- What can have happened to a processor that no request waited for at first. -/
inductive History : Watched → β → Prop
  | start {cpu : Cpu} (bus : β) : cpu.irqPending = 0 → History { cpu } bus
  | step {w : Watched} {bus : β} : History w bus → History (w.step bus).1 (w.step bus).2
  | run {w w' : Watched} {bus bus' : β} {target : UInt64} : History w bus →
      Runs target w bus w' bus' → History w' bus'
  | irq {w : Watched} {bus : β} : History w bus → History (w.irq bus).1 (w.irq bus).2
  | requestIrq {w : Watched} {bus : β} : History w bus → History w.requestIrq bus
  | nmi {w : Watched} {bus : β} : History w bus → History (w.nmi bus).1 (w.nmi bus).2
  /-- Others may change what the bus leads to. -/
  | host {w : Watched} {bus : β} (bus' : β) : History w bus → History w bus'

theorem History.balanced (h : History w bus) : w.Balanced := by
  induction h with
  | start _ none => exact ⟨by rw [none]; rfl, by intro e mem; cases mem⟩
  | @step w bus _ ih => exact ih.step bus
  | run _ runs ih => exact runs.balanced ih
  | @irq w bus _ ih => exact ih.irq bus
  | requestIrq _ ih => exact ih.requestIrq
  | nmi _ ih => exact ih.of_irqPending_eq rfl
  | host _ _ ih => exact ih

end

section

variable {β : Type} [Bus β] {w : Watched}

theorem irq_of_masked (masked : w.cpu.masked = true) (bus : β) :
    w.irq bus = (w.requestIrq, bus) := by
  rw [irq, if_pos masked]

theorem irq_of_not_masked (masked : w.cpu.masked = false) (bus : β) :
    w.irq bus =
      let (entered, bus) := enter { w with requests := w.requests + 1 } bus
      ({ entered with cpu := entered.cpu.advance interruptCycles }, bus) := by
  rw [irq, if_neg (Bool.eq_false_iff.1 masked)]

end

end Watched

end Atari800XL.Cpu
