import Mathlib.Logic.Relation
import Atari800XL.FileDevice.Basic
import Atari800XL.Proofs.Cpu.Departures
import Atari800XL.Proofs.Cpu.Morphism
import Atari800XL.Proofs.Cpu.Runs

namespace Atari800XL.Cpu

namespace Registers

/-- Bit 5 is set, and bit 4 is clear. -/
structure FixedBits (r : Registers) : Prop where
  unused : r.flag Flag.unused = true
  brk : r.flag Flag.brk = false

variable {r r' : Registers} {t : Targets}

theorem AgreeBut.flag_eq (h : r.AgreeBut r' t) {mask : UInt8} (apart : t.flags &&& mask = 0) :
    r'.flag mask = r.flag mask := by
  have beside (status : UInt8) : status &&& ~~~t.flags &&& mask = status &&& mask :=
    withBit_and_of_apart apart status false
  rw [flag, hasBit, ← beside, h.flags, beside]
  rfl

theorem FixedBits.of_agreeBut (h : r.FixedBits) (agree : r.AgreeBut r' t)
    (apart : t.flags &&& Flag.unused = 0 ∧ t.flags &&& Flag.brk = 0) : r'.FixedBits where
  unused := (agree.flag_eq apart.1).trans h.unused
  brk := (agree.flag_eq apart.2).trans h.brk

theorem fixedBits_restoreStatus (r : Registers) (pulled : UInt8) :
    (r.restoreStatus pulled).FixedBits where
  unused := by
    have restored : (r.restoreStatus pulled).flag Flag.unused =
        hasBit (withBit (withBit pulled Flag.unused true) Flag.brk false) Flag.unused := rfl
    rw [restored, hasBit_withBit_of_apart (by decide)]
    exact hasBit_withBit _ (by decide) true
  brk := hasBit_withBit (withBit pulled Flag.unused true) (by decide) false

theorem FixedBits.result (h : r.FixedBits) (value : UInt8) : (r.result value).FixedBits := by
  have agree : r.AgreeBut (r.result value) { flags := Targets.nz } := by
    constructor <;> simp (disch := decide) [Registers.result, withResult, withBit_and_of_apart]
  exact h.of_agreeBut agree ⟨rfl, rfl⟩

end Registers

open Registers

def Instruction.pullsStatus : Instruction → Bool
  | .plp | .rti => true
  | _ => false

theorem Instruction.targets_apart (i : Instruction) (h : i.pullsStatus = false) :
    i.targets.flags &&& Flag.unused = 0 ∧ i.targets.flags &&& Flag.brk = 0 := by
  cases i with
  | load op _ | storeHigh op _ | modify op _ | modifyA op | transfer op =>
    cases op <;>
      simp only [targets, Load.targets, StoreHigh.targets, Modify.targets, Transfer.targets] <;>
      decide
  | plp | rti => cases h
  | _ =>
    simp only [targets]
    decide

section

variable {β : Type} [Bus β] {r : Registers}

theorem fixedBits_execute (h : r.FixedBits) (i : Instruction) (bus : β) :
    (i.execute r.behindOpcode bus).regs.FixedBits := by
  cases pulls : i.pullsStatus with
  | false =>
    have behind : (r.behind i).FixedBits := ⟨h.unused, h.brk⟩
    exact behind.of_agreeBut (i.agreeBut_execute r bus) (i.targets_apart pulls)
  | true =>
    cases i with
    | plp =>
      let pulled := r.behindOpcode.pull bus
      exact pulled.2.1.fixedBits_restoreStatus pulled.1
    | rti =>
      let pulled := r.behindOpcode.pull bus
      have restored := pulled.2.1.fixedBits_restoreStatus pulled.1
      exact ⟨restored.unused, restored.brk⟩
    | _ => cases pulls

theorem fixedBits_enter (h : r.FixedBits) (bus : β) (pushed : UInt8) (vector : UInt16) :
    (r.enter bus pushed vector).1.FixedBits :=
  h.of_agreeBut (r.agreeBut_enter bus pushed vector) ⟨rfl, rfl⟩

variable {cpu : Cpu}

theorem fixedBits_step (h : cpu.regs.FixedBits) (bus : β) : (cpu.step bus).1.regs.FixedBits := by
  unfold step
  split
  · exact fixedBits_enter h bus _ _
  · exact fixedBits_execute h _ _

theorem fixedBits_irq (h : cpu.regs.FixedBits) (bus : β) : (cpu.irq bus).1.regs.FixedBits := by
  unfold irq
  split
  · exact h
  · exact fixedBits_enter h bus _ _

theorem fixedBits_reset (cpu : Cpu) (bus : β) : (cpu.reset bus).1.regs.FixedBits := by
  let cleared := withBit (withBit cpu.regs.status Flag.decimal false) Flag.brk false
  have both : ~~~(Flag.decimal ||| Flag.brk) = ~~~Flag.decimal &&& ~~~Flag.brk := by decide
  have left : cpu.regs.status &&& ~~~(Flag.decimal ||| Flag.brk) = cleared := by
    rw [both, ← UInt8.and_assoc]
    rfl
  have set : (cpu.reset bus).1.regs.status =
      withBit (withBit cleared Flag.interruptDisable true) Flag.unused true := by
    rw [← left]
    rfl
  constructor
  · rw [flag, set]
    exact hasBit_withBit _ (by decide) true
  · rw [flag, set, hasBit_withBit_of_apart (by decide), hasBit_withBit_of_apart (by decide)]
    exact hasBit_withBit _ (by decide) false

end

theorem fixedBits_finish {cpu : Cpu} (h : cpu.regs.FixedBits) (i : FileDevice.ChannelIndex)
    (reply : FileDevice.Reply) : (FileDevice.finish cpu i reply).cpu.regs.FixedBits := by
  have reported := h.result reply.status.code
  exact ⟨reported.unused, reported.brk⟩

theorem fixedBits_call {cpu : Cpu} (h : cpu.regs.FixedBits) (d : FileDevice) (m : Memory) :
    (d.call cpu m).cpu.regs.FixedBits := by
  unfold FileDevice.call
  split
  · exact h
  · dsimp only
    split
    · exact fixedBits_finish h _ _
    · exact h

theorem fixedBits_putByte {cpu : Cpu} (h : cpu.regs.FixedBits) (d : FileDevice) (m : Memory) :
    (d.putByte cpu m).cpu.regs.FixedBits := by
  unfold FileDevice.putByte
  dsimp only
  split
  · exact fixedBits_finish h _ _
  · split <;> exact fixedBits_finish h _ _

inductive Operation (cpu : Cpu) : Cpu → Prop
  | step {β : Type} [Bus β] (bus : β) : Operation cpu (cpu.step bus).1
  | irq {β : Type} [Bus β] (bus : β) : Operation cpu (cpu.irq bus).1
  | requestIrq : Operation cpu cpu.requestIrq
  | nmi {β : Type} [Bus β] (bus : β) : Operation cpu (cpu.nmi bus).1
  | reset {β : Type} [Bus β] (bus : β) : Operation cpu (cpu.reset bus).1
  | returnFromCall {β : Type} [Bus β] (bus : β) : Operation cpu (cpu.returnFromCall bus).1
  | deviceCall (d : FileDevice) (m : Memory) : Operation cpu (d.call cpu m).cpu
  | putByte (d : FileDevice) (m : Memory) : Operation cpu (d.putByte cpu m).cpu
  | host {cpu' : Cpu} : cpu'.regs.status = cpu.regs.status → Operation cpu cpu'

theorem Operation.fixedBits {cpu cpu' : Cpu} (h : Operation cpu cpu')
    (fixed : cpu.regs.FixedBits) : cpu'.regs.FixedBits := by
  cases h with
  | step bus => exact fixedBits_step fixed bus
  | irq bus => exact fixedBits_irq fixed bus
  | requestIrq => exact fixed
  | nmi bus => exact fixedBits_enter fixed bus _ _
  | reset bus => exact fixedBits_reset cpu bus
  | returnFromCall bus => exact ⟨fixed.unused, fixed.brk⟩
  | deviceCall d m => exact fixedBits_call fixed d m
  | putByte d m => exact fixedBits_putByte fixed d m
  | host same => exact ⟨(congrArg (hasBit · _) same).trans fixed.unused,
      (congrArg (hasBit · _) same).trans fixed.brk⟩

def Operated : Cpu → Cpu → Prop := Relation.ReflTransGen Operation

theorem Operated.fixedBits {cpu cpu' : Cpu} (h : Operated cpu cpu')
    (fixed : cpu.regs.FixedBits) : cpu'.regs.FixedBits := by
  induction h with
  | refl => exact fixed
  | tail _ last ih => exact last.fixedBits ih

section

variable {β : Type} [TimedBus β] {cpu cpu' : Cpu} {bus bus' : β} {target : UInt64}

structure OnlyOperates (cpu : Cpu) (bus : β) : Prop where
  service : TimedBus.nextEvent bus ≤ cpu.total →
    Operated cpu (TimedBus.serviceEvents cpu bus).1
  hook : ∀ hook, cpu.hookAt cpu.regs.pc = some hook →
    Operated cpu (TimedBus.takeHook hook cpu (TimedBus.syncClock cpu.total bus)).2.1

theorem OnlyOperates.stepHooked (h : OnlyOperates cpu bus) :
    Operated cpu (cpu.stepHooked bus).1 := by
  unfold Cpu.stepHooked
  dsimp only
  split
  · exact .single (.step _)
  · rename_i hook hooked
    have called := h.hook hook hooked
    split
    · exact called
    · exact .tail called (.step _)

theorem OnlyOperates.move (h : OnlyOperates cpu bus) (target : UInt64) :
    Operated cpu (cpu.move bus target).1 := by
  by_cases next : TimedBus.nextEvent bus ≤ cpu.total
  · rw [move_due next]
    exact h.service next
  by_cases stall : TimedBus.stallUntil bus > cpu.total
  · rw [move_halted next stall]
    exact .single (.host rfl)
  · rw [move_started next stall]
    exact h.stepHooked

inductive Running (target : UInt64) (cpu : Cpu) (bus : β) : Cpu → β → Prop
  | start : Running target cpu bus cpu bus
  | move {cpu' : Cpu} {bus' : β} : Running target cpu bus cpu' bus' → cpu'.total < target →
      OnlyOperates cpu' bus' →
      Running target cpu bus (cpu'.move bus' target).1 (cpu'.move bus' target).2

theorem Running.head (before : cpu.total < target) (only : OnlyOperates cpu bus)
    (h : Running target (cpu.move bus target).1 (cpu.move bus target).2 cpu' bus') :
    Running target cpu bus cpu' bus' := by
  induction h with
  | start => exact .move .start before only
  | move _ before only ih => exact .move ih before only

theorem Running.operated (h : Running target cpu bus cpu' bus') : Operated cpu cpu' := by
  induction h with
  | start => exact .refl
  | move _ _ only ih => exact ih.trans (only.move target)

theorem Running.run_eq (h : Running target cpu bus cpu' bus') :
    cpu.run bus target = cpu'.run bus' target := by
  induction h with
  | start => rfl
  | move _ before _ ih => rw [ih, run_of_lt before]

end

/-- What a new processor can come to, wherever it is run and whatever is done to it. -/
inductive Reachable : Cpu → Prop
  | new : Reachable {}
  | operation {cpu cpu' : Cpu} : Reachable cpu → Operation cpu cpu' → Reachable cpu'
  | run {β : Type} [TimedBus β] {target : UInt64} {cpu cpu' : Cpu} {bus bus' : β} :
      Reachable cpu → Running target cpu bus cpu' bus' → Reachable cpu'

theorem Reachable.run_of_not_lt {β : Type} [TimedBus β] {target : UInt64} {cpu cpu' : Cpu}
    {bus bus' : β} (h : Reachable cpu) (running : Running target cpu bus cpu' bus')
    (ended : ¬cpu'.total < target) : Reachable (cpu.run bus target).1 := by
  rw [running.run_eq, Cpu.run_of_not_lt ended]
  exact h.run running

theorem Reachable.operated {cpu cpu' : Cpu} (h : Reachable cpu) (operated : Operated cpu cpu') :
    Reachable cpu' := by
  induction operated with
  | refl => exact h
  | tail _ last ih => exact .operation ih last

theorem Reachable.fixedBits {cpu : Cpu} (h : Reachable cpu) : cpu.regs.FixedBits := by
  induction h with
  | new => exact ⟨by decide, by decide⟩
  | operation _ operation ih => exact operation.fixedBits ih
  | run _ running ih => exact running.operated.fixedBits ih

structure Noted (β : Type) where
  bus : β
  writes : List (UInt16 × UInt8) := []

namespace Noted

variable {β : Type} [Bus β]

instance : Bus (Noted β) where
  read noted address :=
    let (value, bus) := Bus.read noted.bus address
    (value, { noted with bus })
  write noted address value :=
    { bus := Bus.write noted.bus address value, writes := (address, value) :: noted.writes }

theorem morphism_bus : Bus.Morphism (Noted.bus : Noted β → β) :=
  ⟨fun _ _ => rfl, fun _ _ _ => rfl⟩

def OnTop (noted : Noted β) (r : Registers) (byte : UInt8) : Prop :=
  noted.writes.head? = some (word (r.sp + 1) 0x01, byte)

theorem onTop_push (r : Registers) (noted : Noted β) (value : UInt8) :
    (r.push noted value).2.OnTop (r.push noted value).1 value := by
  have back : r.sp - 1 + 1 = r.sp := UInt8.sub_add_cancel r.sp 1
  show some (word r.sp 0x01, value) = some (word (r.sp - 1 + 1) 0x01, value)
  rw [back]

theorem onTop_enter (r : Registers) (noted : Noted β) (pushed : UInt8) (vector : UInt16) :
    (r.enter noted pushed vector).2.OnTop (r.enter noted pushed vector).1 pushed :=
  let left := r.pushWord noted r.pc
  onTop_push left.1 left.2 pushed

end Noted

inductive StatusPush
  | php
  | brk
  | line
  | request
  | nmi
  deriving DecidableEq, Repr

namespace StatusPush

def byProgram : StatusPush → Bool
  | .php | .brk => true
  | .line | .request | .nmi => false

section

variable {β : Type} [Bus β]

def Occurs (p : StatusPush) (cpu : Cpu) (bus : β) : Prop :=
  match p with
  | .php => cpu.interrupted = false ∧ (Bus.read bus cpu.regs.pc).1 = 0x08
  | .brk => cpu.interrupted = false ∧ (Bus.read bus cpu.regs.pc).1 = 0x00
  | .line => cpu.masked = false
  | .request => cpu.interrupted = true
  | .nmi => True

def perform (p : StatusPush) (cpu : Cpu) (bus : β) : Cpu × β :=
  match p with
  | .php | .brk | .request => cpu.step bus
  | .line => cpu.irq bus
  | .nmi => cpu.nmi bus

structure Pushes (p : StatusPush) (cpu : Cpu) (bus : β) (byte : UInt8) : Prop where
  /-- To note what is written changes nothing. -/
  noted : let after := p.perform cpu { bus : Noted β }
    p.perform cpu bus = (after.1, after.2.bus)
  onTop : let after := p.perform cpu { bus : Noted β }
    after.2.OnTop after.1.regs byte

def byte (p : StatusPush) (r : Registers) : UInt8 :=
  if p.byProgram then r.softwareStatus else r.hardwareStatus

variable {p : StatusPush} {cpu : Cpu} {bus : β}

theorem perform_noted (p : StatusPush) (cpu : Cpu) (bus : β) :
    let after := p.perform cpu { bus : Noted β }
    p.perform cpu bus = (after.1, after.2.bus) := by
  cases p with
  | php | brk | request => exact step_map Noted.morphism_bus cpu { bus }
  | line => exact irq_map Noted.morphism_bus cpu { bus }
  | nmi => exact nmi_map Noted.morphism_bus cpu { bus }

theorem onTop_perform (occurs : p.Occurs cpu bus) :
    let after := p.perform cpu { bus : Noted β }
    after.2.OnTop after.1.regs (p.byte cpu.regs) := by
  intro after
  let noted : Noted β := { bus }
  cases p with
  | php =>
    have php : decode (Bus.read noted cpu.regs.pc).1 = .php := congrArg decode occurs.2
    obtain ⟨regs, written⟩ := step_of_read noted occurs.1 php
    show (cpu.step noted).2.OnTop (cpu.step noted).1.regs cpu.regs.softwareStatus
    rw [regs, written]
    exact Noted.onTop_push _ _ _
  | brk =>
    have brk : decode (Bus.read noted cpu.regs.pc).1 = .brk := congrArg decode occurs.2
    obtain ⟨regs, written⟩ := step_of_read noted occurs.1 brk
    show (cpu.step noted).2.OnTop (cpu.step noted).1.regs cpu.regs.softwareStatus
    rw [regs, written]
    exact Noted.onTop_enter _ _ _ _
  | line =>
    have taken : ¬cpu.masked = true := Bool.eq_false_iff.1 occurs
    show (cpu.irq noted).2.OnTop (cpu.irq noted).1.regs cpu.regs.hardwareStatus
    rw [irq, if_neg taken]
    exact Noted.onTop_enter cpu.regs noted _ _
  | request =>
    have taken : (decide (cpu.irqPending > 0) && !cpu.masked) = true := occurs
    show (cpu.step noted).2.OnTop (cpu.step noted).1.regs cpu.regs.hardwareStatus
    rw [step, if_pos taken]
    exact Noted.onTop_enter cpu.regs noted _ _
  | nmi => exact Noted.onTop_enter cpu.regs noted _ _

theorem pushes_byte (occurs : p.Occurs cpu bus) : p.Pushes cpu bus (p.byte cpu.regs) :=
  ⟨p.perform_noted cpu bus, onTop_perform occurs⟩

end

theorem hasBit_byte (p : StatusPush) (r : Registers) :
    hasBit (p.byte r) Flag.unused = true ∧ hasBit (p.byte r) Flag.brk = p.byProgram := by
  unfold byte
  cases p.byProgram with
  | true =>
    have set : r.softwareStatus = withBit (withBit r.status Flag.brk true) Flag.unused true := rfl
    rw [if_pos rfl, set]
    refine ⟨hasBit_withBit _ (by decide) true, ?_⟩
    rw [hasBit_withBit_of_apart (by decide)]
    exact hasBit_withBit _ (by decide) true
  | false =>
    -- A chip pushes what would be restored from the status byte itself.
    have fixed := r.fixedBits_restoreStatus r.status
    exact ⟨fixed.unused, fixed.brk⟩

end StatusPush

/-- Whatever has happened to a processor, on whatever buses and with whatever pulled from their
stacks: bit 5 of its status byte is set and bit 4 is clear, and each status byte that is pushed next
has bit 5 set, and bit 4 just if an instruction pushes it. -/
theorem statusBits_of_reachable {cpu : Cpu} (h : Reachable cpu) :
    cpu.regs.FixedBits ∧
      ∀ {β : Type} [Bus β] (p : StatusPush) (bus : β), p.Occurs cpu bus →
        let byte := p.byte cpu.regs
        p.Pushes cpu bus byte ∧ hasBit byte Flag.unused = true ∧
          hasBit byte Flag.brk = p.byProgram := by
  refine ⟨h.fixedBits, ?_⟩
  intro β _ p bus occurs byte
  exact ⟨p.pushes_byte occurs, p.hasBit_byte cpu.regs⟩

theorem statusBits_plp_php :
    let ram := ((Ram.filled 0x28).write 0x01FE 0x10).write 0x0001 0x08
    let cpu := (Cpu.step {} ram).1
    ram.read 0x01FE = 0x10 ∧ Reachable cpu ∧ cpu.regs.status = 0x20 ∧ cpu.regs.FixedBits ∧
      StatusPush.php.Occurs cpu ram ∧ StatusPush.php.Pushes cpu ram 0x30 ∧
      hasBit 0x30 Flag.unused = true ∧ hasBit 0x30 Flag.brk = true := by
  intro ram cpu
  have opcode : ram.read 0x0000 = 0x28 := by simp [ram, Ram.read_filled]
  have left : ram.read 0x01FE = 0x10 := by simp [ram]
  have next : ram.read 0x0001 = 0x08 := by simp [ram]
  have calm : ({} : Cpu).interrupted = false := rfl
  have plp : decode (Bus.read ram ({} : Cpu).regs.pc).1 = .plp := by
    show decode (ram.read 0x0000) = .plp
    rw [opcode]
    rfl
  have regs : cpu.regs = { sp := 0xFE, pc := 0x0001, status := 0x20 } := by
    refine (step_of_read ram calm plp).1.trans ?_
    show Registers.restoreStatus { sp := 0xFE, pc := 0x0001 } (ram.read 0x01FE) = _
    rw [left]
    rfl
  have occurs : StatusPush.php.Occurs cpu ram := by
    refine ⟨rfl, ?_⟩
    rw [regs]
    exact next
  have reachable : Reachable cpu := .operation .new (.step ram)
  obtain ⟨fixed, pushes⟩ := statusBits_of_reachable reachable
  have byte : StatusPush.php.byte cpu.regs = 0x30 := by
    rw [regs]
    rfl
  have pushed := pushes .php ram occurs
  rw [byte] at pushed
  exact ⟨left, reachable, congrArg Registers.status regs, fixed, occurs, pushed⟩

end Atari800XL.Cpu
