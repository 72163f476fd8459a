import Atari800XL.Proofs.Machine.Tapped
import Atari800XL.Proofs.Pokey.Silence

namespace Atari800XL

def Setup.silent (s : Setup) : Setup := { s with audio := false, sampleRate := 0 }

namespace Board

variable {b b' : Board} {now : UInt64}

def silent (b : Board) : Board := { b with setup := b.setup.silent, pokey := b.pokey.silent }

@[simp] theorem silent_silent (b : Board) : b.silent.silent = b.silent := by
  rw [silent, silent, Pokey.silent_silent]
  rfl

abbrev Tuned (b : Board) (now : UInt64) : Prop := b.pokey.sound.Tuned now

section

variable (same : b.silent = b'.silent)
include same

theorem eq_of_silent {α : Type} (f : Board → α) (deaf : ∀ b : Board, f b.silent = f b) :
    f b = f b' := by
  rw [← deaf b, same, deaf]

theorem memory_eq : b.memory = b'.memory := eq_of_silent same Board.memory fun _ => rfl

theorem clock_eq : b.clock = b'.clock := eq_of_silent same Board.clock fun _ => rfl

theorem schedule_eq : b.schedule = b'.schedule := eq_of_silent same Board.schedule fun _ => rfl

theorem antic_eq : b.antic = b'.antic := eq_of_silent same Board.antic fun _ => rfl

theorem frames_eq : b.frames = b'.frames := eq_of_silent same Board.frames fun _ => rfl

end

theorem read_silent (tuned : b.Tuned b.clock) (address : UInt16) :
    (b.silent.read address).1 = (b.read address).1 := by
  have access : b.silent.memory.accessAt address = b.memory.accessAt address := rfl
  unfold Board.read
  rw [access]
  split
  case h_4 => exact Pokey.read_silent tuned (lowByte address)
  all_goals rfl

theorem silent_read (tuned : b.Tuned b.clock) (address : UInt16) :
    (b.read address).2.silent = b.silent := by
  unfold Board.read
  split
  case h_4 =>
    have same := Pokey.silent_read tuned.cyclic (lowByte address) b.clock
    dsimp only [silent]
    rw [same]
  all_goals rfl

theorem tuned_read (tuned : b.Tuned now) (le : now ≤ b.clock) (address : UInt16) :
    (b.read address).2.Tuned b.clock := by
  unfold Board.read
  split
  case h_4 => exact Pokey.tuned_read (tuned.mono le) (lowByte address)
  all_goals exact tuned.mono le

theorem expectReply_silent (b : Board) (now : UInt64) :
    b.silent.expectReply now = (b.expectReply now).silent := by
  have expected : (b.silent.schedule.serialInReady != never) =
      (b.schedule.serialInReady != never) := rfl
  have delay : b.silent.sio.nextDelay = b.sio.nextDelay := rfl
  unfold expectReply
  rw [expected, delay]
  split
  · rfl
  · split <;> rfl

theorem sendToDrives_silent (b : Board) (byte : UInt8) :
    b.silent.sendToDrives byte = (b.sendToDrives byte).silent := by
  let step := b.sio.putByte b.rack byte
  let schedule := if step.renewed then b.schedule.clear .serialInReady else b.schedule
  exact expectReply_silent
    ({ b with sio := step.sio, rack := step.rack, schedule }.tell step.notices) b.clock

theorem writePokey_silent (tuned : b.Tuned b.clock) (register value : UInt8) :
    (b.silent.writePokey register value).silent = (b.writePokey register value).silent := by
  obtain ⟨schedule, pokey⟩ := Pokey.write_silent tuned register value b.schedule
  have written : { b.silent with
        pokey := (b.silent.pokey.write register value b.clock b.schedule).1
        schedule := (b.silent.pokey.write register value b.clock b.schedule).2 }.silent =
      { b with
        pokey := (b.pokey.write register value b.clock b.schedule).1
        schedule := (b.pokey.write register value b.clock b.schedule).2 }.silent := by
    simp only [silent] at schedule pokey ⊢
    rw [schedule, pokey]
    rfl
  unfold writePokey
  dsimp only
  split
  · rw [← sendToDrives_silent, ← sendToDrives_silent]
    exact congrArg (·.sendToDrives value) written
  · exact written

theorem write_silent (tuned : b.Tuned b.clock) (address : UInt16) (value : UInt8) :
    (b.silent.write address value).silent = (b.write address value).silent := by
  have access : b.silent.memory.accessAt address = b.memory.accessAt address := rfl
  unfold Board.write
  rw [access]
  split
  case h_2 => exact b.silent_silent
  case h_4 => exact writePokey_silent tuned _ value
  all_goals
    simp only [silent, applyPorts, Pokey.silent_silent]
    rfl

theorem tuned_write (tuned : b.Tuned b.clock) (address : UInt16) (value : UInt8) :
    (b.write address value).Tuned b.clock := by
  unfold Board.write
  split
  case h_4 =>
    have written := Pokey.tuned_write tuned (lowByte address) value b.schedule
    unfold writePokey
    dsimp only
    split
    · rw [Board.Tuned, sendToDrives, pokey_expectReply]
      exact written
    · exact written
  all_goals exact tuned

theorem takeHook_silent (hook : Hook) (cpu : Cpu) (b : Board) :
    takeHook hook cpu b.silent =
      ((takeHook hook cpu b).1, (takeHook hook cpu b).2.1, (takeHook hook cpu b).2.2.silent) := by
  cases hook <;> rfl

theorem expectNext_silent (b : Board) (deadline : UInt64) :
    b.silent.expectNext deadline = (b.expectNext deadline).silent := by
  have delay : b.silent.sio.nextDelay = b.sio.nextDelay := rfl
  unfold Board.expectNext
  rw [delay]
  split <;> rfl

theorem powered_silent (b : Board) (memory : Memory) :
    (b.silent.powered memory).silent = (b.powered memory).silent := by
  have pokey : (b.pokey.silent.reset 0).silent = (b.pokey.reset 0).silent :=
    b.pokey.reset_silent 0
  simp only [powered, silent, pokey]
  rfl

theorem settle_timer_silent (b : Board) (t : Pokey.Timer) (deadline : UInt64) :
    (b.silent.settle t.event deadline).silent = (b.settle t.event deadline).silent := by
  cases t
  all_goals
    simp only [settle, Pokey.Timer.event, silent, Pokey.timerDue_silent, Pokey.silent_silent]
    rfl

theorem settle_silent (cyclic : b.pokey.sound.generator.noise.Cyclic) (event : Event)
    (deadline : UInt64) :
    (b.silent.settle event deadline).silent = (b.settle event deadline).silent := by
  cases event with
  | lineFetch =>
    have caught : (b.pokey.silent.catchUp deadline).silent =
        (b.pokey.catchUp deadline).silent := by
      rw [Pokey.silent_catchUp cyclic, Pokey.silent_catchUp (Pokey.cyclic_silent cyclic),
        Pokey.silent_silent]
    simp only [settle, drawLine, tell, silent] at caught ⊢
    rw [caught]
    rfl
  | displayListInterrupt =>
    simp only [settle, silent, Pokey.silent_silent]
    rfl
  | timer1 => exact settle_timer_silent b .one deadline
  | timer2 => exact settle_timer_silent b .two deadline
  | timer4 => exact settle_timer_silent b .four deadline
  | serialOutNeeded =>
    simp only [settle, silent, Pokey.serialOutNeeded_silent, Pokey.silent_silent]
    rfl
  | serialOutDone =>
    simp only [settle, silent, Pokey.serialOutDone_silent, Pokey.silent_silent]
    rfl
  | serialInReady =>
    unfold settle
    dsimp only [silent]
    split
    · simp only [Pokey.silent_silent]
      rfl
    · rename_i byte sio _
      rw [Pokey.receive_silent]
      let arrived : Board :=
        { b with
          clock := deadline
          schedule := b.schedule.clear .serialInReady
          pokey := (b.pokey.receive byte).2
          sio }
      exact (congrArg silent (arrived.expectNext_silent deadline)).trans (silent_silent _)

theorem Tuned.of_sound_eq (tuned : b.Tuned now) (same : b'.pokey.sound = b.pokey.sound) :
    b'.Tuned now := by
  rw [Board.Tuned, same]
  exact tuned

theorem tuned_settle {deadline : UInt64} (tuned : b.Tuned now) (le : deadline ≤ now)
    (event : Event) : (b.settle event deadline).Tuned now := by
  cases event with
  | lineFetch => exact Pokey.Sound.Tuned.catchUp_of_le tuned le b.pokey.settings
  | displayListInterrupt => exact tuned
  | timer1 => exact tuned.of_sound_eq (Pokey.sound_timerDue b.pokey .one deadline b.schedule)
  | timer2 => exact tuned.of_sound_eq (Pokey.sound_timerDue b.pokey .two deadline b.schedule)
  | timer4 => exact tuned.of_sound_eq (Pokey.sound_timerDue b.pokey .four deadline b.schedule)
  | serialOutNeeded => exact tuned.of_sound_eq (Pokey.sound_raise b.pokey _)
  | serialOutDone => exact tuned
  | serialInReady =>
    unfold settle
    dsimp only
    split
    · exact tuned
    · refine tuned.of_sound_eq ?_
      rw [pokey_expectNext]
      exact Pokey.sound_raise _ _

theorem asks_silent (b : Board) (event : Event) (deadline : UInt64) :
    b.silent.asks event deadline = b.asks event deadline := by
  cases event with
  | lineFetch => rfl
  | displayListInterrupt => rfl
  | timer1 => simp only [asks, silent, Pokey.timerDue_silent]
  | timer2 => simp only [asks, silent, Pokey.timerDue_silent]
  | timer4 => simp only [asks, silent, Pokey.timerDue_silent]
  | serialOutNeeded => simp only [asks, silent, Pokey.serialOutNeeded_silent]
  | serialOutDone => rfl
  | serialInReady => simp only [asks, silent, Pokey.receive_silent]

structure Alike (now : UInt64) (b b' : Board) : Prop where
  silent : b.silent = b'.silent
  left : b.Tuned now
  right : b'.Tuned now

namespace Alike

variable (h : Alike now b b')
include h

theorem mono {later : UInt64} (le : now ≤ later) : Alike later b b' :=
  ⟨h.silent, h.left.mono le, h.right.mono le⟩

theorem symm : Alike now b' b := ⟨h.silent.symm, h.right, h.left⟩

theorem mapped (mapped : b.Mapped) : b'.Mapped := mapped.of_memory_eq (memory_eq h.silent).symm

theorem tell (notices : List Notice) : Alike now (b.tell notices) (b'.tell notices) :=
  ⟨congrArg (·.tell notices) h.silent, h.left, h.right⟩

theorem start : Alike now { b with clock := now } { b' with clock := now } := by
  refine ⟨?_, h.left, h.right⟩
  exact congrArg (fun b : Board => { b with clock := now }) h.silent

theorem poke (address : UInt16) (value : UInt8) :
    Alike now { b with memory := b.memory.poke address value }
      { b' with memory := b'.memory.poke address value } := by
  refine ⟨?_, h.left, h.right⟩
  exact congrArg (fun b : Board => { b with memory := b.memory.poke address value }) h.silent

theorem takeHook (hook : Hook) (cpu : Cpu) :
    (takeHook hook cpu b).1 = (takeHook hook cpu b').1 ∧
      (takeHook hook cpu b).2.1 = (takeHook hook cpu b').2.1 ∧
        Alike now (takeHook hook cpu b).2.2 (takeHook hook cpu b').2.2 := by
  have taken := takeHook_silent hook cpu b
  have taken' := takeHook_silent hook cpu b'
  rw [h.silent, taken', Prod.mk.injEq, Prod.mk.injEq] at taken
  have kept (b : Board) : (Board.takeHook hook cpu b).2.2.pokey = b.pokey := by
    cases hook <;> rfl
  exact ⟨taken.1.symm, taken.2.1.symm, taken.2.2.symm,
    h.left.of_sound_eq (congrArg Pokey.sound (kept b)),
    h.right.of_sound_eq (congrArg Pokey.sound (kept b'))⟩

theorem settle {deadline : UInt64} (le : deadline ≤ now) (event : Event) :
    Alike now (b.settle event deadline) (b'.settle event deadline) := by
  refine ⟨?_, tuned_settle h.left le event, tuned_settle h.right le event⟩
  rw [← settle_silent h.left.cyclic, ← settle_silent h.right.cyclic, h.silent]

theorem asks (event : Event) (deadline : UInt64) :
    b.asks event deadline = b'.asks event deadline := by
  rw [← asks_silent, h.silent, asks_silent]

end Alike

section

variable (h : Alike b.clock b b')
include h

theorem Alike.tuned_right : b'.Tuned b'.clock := clock_eq h.silent ▸ h.right

theorem Alike.read (address : UInt16) :
    (b.read address).1 = (b'.read address).1 ∧
      Alike b.clock (b.read address).2 (b'.read address).2 := by
  have right := h.tuned_right
  refine ⟨?_, ?_, tuned_read h.left (UInt64.le_refl _) address, ?_⟩
  · rw [← read_silent h.left, h.silent, read_silent right]
  · rw [silent_read h.left, h.silent, silent_read right]
  · rw [clock_eq h.silent]
    exact tuned_read right (UInt64.le_refl _) address

theorem Alike.write (address : UInt16) (value : UInt8) :
    Alike b.clock (b.write address value) (b'.write address value) := by
  have right := h.tuned_right
  refine ⟨?_, tuned_write h.left address value, ?_⟩
  · rw [← write_silent h.left, h.silent, write_silent right]
  · rw [clock_eq h.silent]
    exact tuned_write right address value

end

end Board

end Atari800XL
