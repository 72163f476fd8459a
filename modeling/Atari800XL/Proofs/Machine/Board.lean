import Atari800XL.Machine.Events
import Atari800XL.Proofs.Antic.Fetching
import Atari800XL.Proofs.Disk.Answers
import Atari800XL.Proofs.FileDevice.Footprint
import Atari800XL.Proofs.Pokey.Timing

/-! What reads, writes, hooks and events do to the board, in as much as other parts of it depend on
it. An event has work of its own, `Board.settle`, and may then enter an interrupt, which pushes
bytes and nothing else. -/

namespace Atari800XL

namespace Board

open Schedule

variable {b b' b'' : Board} {cpu : Cpu}

@[simp] theorem bus_read (b : Board) (address : UInt16) : Bus.read b address = b.read address := rfl

@[simp] theorem bus_write (b : Board) (address : UInt16) (value : UInt8) :
    Bus.write b address value = b.write address value := rfl

structure Pushed (b b' : Board) : Prop where
  memory : b.memory.Pokes b'.memory
  rest : ∃ sound, b' =
    { b with memory := b'.memory, pokey := { b.pokey with sound }, journal := b'.journal }

namespace Pushed

theorem refl (b : Board) : b.Pushed b := ⟨.refl, b.pokey.sound, rfl⟩

theorem trans (h : b.Pushed b') (h' : b'.Pushed b'') : b.Pushed b'' := by
  obtain ⟨memory, sound, rest⟩ := h
  obtain ⟨memory', sound', rest'⟩ := h'
  refine ⟨memory.trans memory', sound', ?_⟩
  rw [rest', rest]

theorem low (h : b.Pushed b') (low : b.memory.LowIsRam) : b'.memory.LowIsRam :=
  h.memory.lowIsRam low

variable (h : b.Pushed b')
include h

theorem schedule : b'.schedule = b.schedule := by
  obtain ⟨-, sound, rest⟩ := h
  rw [rest]

theorem sio : b'.sio = b.sio := by
  obtain ⟨-, sound, rest⟩ := h
  rw [rest]

theorem clock : b'.clock = b.clock := by
  obtain ⟨-, sound, rest⟩ := h
  rw [rest]

theorem serialInput : b'.pokey.serialInput = b.pokey.serialInput := by
  obtain ⟨-, sound, rest⟩ := h
  rw [rest]

theorem antic : b'.antic = b.antic := by
  obtain ⟨-, sound, rest⟩ := h
  rw [rest]

theorem timing : b'.pokey.timing = b.pokey.timing := by
  obtain ⟨-, sound, rest⟩ := h
  rw [rest]
  rfl

end Pushed

theorem pushed_tell (b : Board) (notices : List Notice) : b.Pushed (b.tell notices) :=
  ⟨.refl, b.pokey.sound, rfl⟩

theorem pokey_read (p : Pokey) (register : UInt8) (now : UInt64) :
    ∃ sound, (p.read register now).2 = { p with sound } := by
  unfold Pokey.read
  dsimp only
  split
  case h_3 =>
    split
    · exact ⟨p.sound, rfl⟩
    · exact ⟨_, rfl⟩
  all_goals exact ⟨p.sound, rfl⟩

theorem pushed_read (b : Board) (address : UInt16) : b.Pushed (b.read address).2 := by
  unfold Board.read
  split
  case h_4 =>
    obtain ⟨sound, read⟩ := pokey_read b.pokey (lowByte address) b.clock
    refine ⟨.refl, sound, ?_⟩
    dsimp only
    rw [read]
  all_goals exact .refl b

theorem stackAddress_low (r : Cpu.Registers) : r.stackAddress.toNat < Memory.lowEnd := by
  have low : r.stackAddress.toNat < 2 ^ 9 := by
    rw [Cpu.Registers.stackAddress, UInt16.toNat_or]
    exact Nat.or_lt_two_pow (by decide) (Nat.lt_trans r.sp.toNat_lt (by decide))
  exact Nat.lt_trans low (by decide)

theorem write_stack (low : b.memory.LowIsRam) (r : Cpu.Registers) (value : UInt8) :
    b.write r.stackAddress value = { b with memory := b.memory.poke r.stackAddress value } := by
  have ram := low _ (stackAddress_low r)
  simp only [Board.write, ram]

theorem pushed_push (low : b.memory.LowIsRam) (r : Cpu.Registers) (value : UInt8) :
    b.Pushed (r.push b value).2 := by
  have pushed : (r.push b value).2 = { b with memory := b.memory.poke r.stackAddress value } :=
    write_stack low r value
  rw [pushed]
  exact ⟨.poke _ _ .refl, b.pokey.sound, rfl⟩

theorem pushed_pushWord (low : b.memory.LowIsRam) (r : Cpu.Registers) (value : UInt16) :
    b.Pushed (r.pushWord b value).2 :=
  have high := pushed_push low r (highByte value)
  high.trans (pushed_push (high.low low) (r.push b (highByte value)).1 (lowByte value))

theorem pushed_enter (low : b.memory.LowIsRam) (r : Cpu.Registers) (pushed : UInt8)
    (vector : UInt16) : b.Pushed (r.enter b pushed vector).2 := by
  have word := pushed_pushWord low r r.pc
  have status := word.trans (pushed_push (word.low low) (r.pushWord b r.pc).1 pushed)
  simp only [Cpu.Registers.enter, Bus.readWord, Bus.readPair, bus_read]
  exact (status.trans (pushed_read _ vector)).trans (pushed_read _ (vector + 1))

theorem pushed_nmi (low : b.memory.LowIsRam) : b.Pushed (cpu.nmi b).2 := by
  simp only [Cpu.nmi, Cpu.enterInterrupt]
  exact pushed_enter low cpu.regs _ _

theorem pushed_irq (low : b.memory.LowIsRam) : b.Pushed (cpu.irq b).2 := by
  unfold Cpu.irq
  split
  · exact .refl b
  · simp only [Cpu.enterInterrupt]
    exact pushed_enter low cpu.regs _ _

theorem pushed_raiseNmi (low : b.memory.LowIsRam) (source : String) (cycle : UInt64) :
    b.Pushed (raiseNmi cpu b source cycle).2 :=
  (pushed_tell b _).trans (pushed_nmi low)

theorem pushed_raiseIf (low : b.memory.LowIsRam) (asked : Bool) (source : String) :
    b.Pushed (raiseIf asked cpu b source).2 := by
  unfold raiseIf
  split
  · exact (pushed_tell b _).trans (pushed_irq low)
  · exact .refl b

def asksToWait (b : Board) (address : UInt16) : Bool :=
  b.memory.accessAt address == .antic && lowByte address &&& 0x0F == 0x0A

def sends (b : Board) (address : UInt16) : Bool :=
  b.memory.accessAt address == .pokey && lowByte address &&& 0x0F == serialOutput

def ofPokey : Event → Bool
  | .serialOutNeeded | .serialOutDone | .timer1 | .timer2 | .timer4 => true
  | .lineFetch | .displayListInterrupt | .serialInReady => false

theorem ofPokey_timer (t : Pokey.Timer) : ofPokey t.event := by
  cases t <;> rfl

section

variable (p : Pokey) (s : Schedule)

theorem sets_setTimer (now : UInt64) (t : Pokey.Timer) :
    s.Sets (ofPokey ·) (p.setTimer now s t) := by
  unfold Pokey.setTimer
  split
  · exact .one (ofPokey_timer t) _
  · exact .one (ofPokey_timer t) _

theorem sets_setTimers (now : UInt64) (timers : List Pokey.Timer) :
    s.Sets (ofPokey ·) (timers.foldl (p.setTimer now) s) := by
  induction timers generalizing s with
  | nil => exact .refl
  | cons t timers ih => exact (sets_setTimer p s now t).trans (ih _)

theorem sets_timerDue (t : Pokey.Timer) (deadline : UInt64) :
    s.Sets (· = t.event) (p.timerDue t deadline s).2.2 := by
  unfold Pokey.timerDue
  split
  · exact .own s t.event never
  · exact .own s t.event _

theorem sets_send (now : UInt64) : s.Sets (ofPokey ·) (p.send now s).2 := by
  let needed := now + Pokey.byteCycles
  show s.Sets (ofPokey ·)
    ((s.set .serialOutNeeded needed).set .serialOutDone (needed + Pokey.drainCycles))
  refine .set _ (.one ?_ _) ?_
  · rfl
  · rfl

theorem sets_pokey_write (register value : UInt8) (now : UInt64) :
    s.Sets (ofPokey ·) (p.write register value now s).2 := by
  unfold Pokey.write
  dsimp only
  split
  case h_9 => exact sets_setTimers _ s now _
  case h_10 => exact sets_setTimers _ s now _
  case h_13 => exact sets_send _ s now
  case h_14 => exact sets_setTimers _ s now _
  case h_15 =>
    unfold Pokey.setSerialControl
    dsimp only
    split
    · exact sets_setTimers _ s now _
    · split
      · exact sets_setTimers _ s now _
      · exact .refl
  all_goals exact .refl

end

theorem sets_expectReply {s : Schedule} {p : Event → Prop} (hp : p .serialInReady)
    (h : s.Sets p b.schedule) (now : UInt64) : s.Sets p (b.expectReply now).schedule := by
  unfold expectReply
  split
  · exact h
  · split
    · exact h
    · exact .set _ h hp

theorem sets_sendToDrives {s : Schedule} {p : Event → Prop} (hp : p .serialInReady)
    (h : s.Sets p b.schedule) (byte : UInt8) : s.Sets p (b.sendToDrives byte).schedule := by
  have cleared : s.Sets p
      (if (b.sio.putByte b.rack byte).renewed then b.schedule.clear .serialInReady
        else b.schedule) := by
    split
    · exact .set never h hp
    · exact h
  exact sets_expectReply hp cleared b.clock

def ofWrites (e : Event) : Prop := e ≠ .lineFetch ∧ e ≠ .displayListInterrupt

theorem ofWrites_of_ofPokey (e : Event) (h : ofPokey e) : ofWrites e := by
  cases e <;> simp_all [ofPokey, ofWrites]

theorem sets_writePokey (b : Board) (register value : UInt8) :
    b.schedule.Sets ofWrites (b.writePokey register value).schedule := by
  have written :=
    (sets_pokey_write b.pokey b.schedule register value b.clock).mono ofWrites_of_ofPokey
  unfold writePokey
  dsimp only
  split
  · exact sets_sendToDrives ⟨nofun, nofun⟩ written value
  · exact written

theorem antic_write_of_ne (a : Antic) (register value : UInt8) (s : Schedule)
    (h : register &&& 0x0F ≠ 0x0A) : (a.write register value s).2 = s := by
  unfold Antic.write
  split
  case h_9 same => exact absurd (UInt8.toNat_inj.1 same) h
  all_goals rfl

theorem antic_write (a : Antic) (register value : UInt8) (s : Schedule) :
    (a.write register value s).2 = s ∨ (a.write register value s).2 = Antic.waitForLine s := by
  unfold Antic.write
  split
  case h_9 => exact .inr rfl
  all_goals exact .inl rfl

theorem serialInReady_waitForLine (s : Schedule) :
    (Antic.waitForLine s).serialInReady = s.serialInReady := by
  unfold Antic.waitForLine
  split
  · rfl
  · exact deadline_stallTo s s.lineFetch .serialInReady

@[simp] theorem schedule_applyPorts (b : Board) : b.applyPorts.schedule = b.schedule := by
  unfold applyPorts
  rfl

@[simp] theorem antic_applyPorts (b : Board) : b.applyPorts.antic = b.antic := by
  unfold applyPorts
  rfl

@[simp] theorem pokey_applyPorts (b : Board) : b.applyPorts.pokey = b.pokey := by
  unfold applyPorts
  rfl

@[simp] theorem clock_applyPorts (b : Board) : b.applyPorts.clock = b.clock := by
  unfold applyPorts
  rfl

theorem sets_write {b : Board} {address : UInt16} (h : b.asksToWait address = false)
    (value : UInt8) : b.schedule.Sets ofWrites (b.write address value).schedule := by
  unfold Board.write
  split
  case h_4 => exact sets_writePokey b _ value
  case h_6 antic =>
    simp only [asksToWait, antic, beq_self_eq_true, Bool.true_and, beq_eq_false_iff_ne] at h
    dsimp only
    rw [antic_write_of_ne _ _ _ _ h]
    exact .refl
  case h_5 =>
    rw [schedule_applyPorts]
    exact .refl
  all_goals exact .refl

theorem write_of_asksToWait {b : Board} {address : UInt16} (h : b.asksToWait address = true)
    (value : UInt8) :
    b.write address value = { b with schedule := Antic.waitForLine b.schedule } := by
  rw [asksToWait, Bool.and_eq_true, beq_iff_eq, beq_iff_eq] at h
  have antic : b.antic.write (lowByte address) value b.schedule =
      (b.antic, Antic.waitForLine b.schedule) := by
    simp only [Antic.write, h.2]
    rfl
  simp only [Board.write, h.1, antic]

theorem expectReply_eq (b : Board) (now : UInt64) :
    b.expectReply now = { b with schedule := (b.expectReply now).schedule } := by
  unfold expectReply
  split
  · rfl
  · split <;> rfl

theorem clock_expectReply (b : Board) (now : UInt64) : (b.expectReply now).clock = b.clock := by
  rw [expectReply_eq]

theorem sio_expectReply (b : Board) (now : UInt64) : (b.expectReply now).sio = b.sio := by
  rw [expectReply_eq]

theorem antic_expectReply (b : Board) (now : UInt64) : (b.expectReply now).antic = b.antic := by
  rw [expectReply_eq]

theorem pokey_expectReply (b : Board) (now : UInt64) : (b.expectReply now).pokey = b.pokey := by
  rw [expectReply_eq]

theorem memory_expectReply (b : Board) (now : UInt64) : (b.expectReply now).memory = b.memory := by
  rw [expectReply_eq]

theorem clock_write (b : Board) (address : UInt16) (value : UInt8) :
    (b.write address value).clock = b.clock := by
  unfold Board.write
  split
  case h_4 =>
    unfold writePokey
    dsimp only
    split
    · exact clock_expectReply _ _
    · rfl
  case h_5 => exact clock_applyPorts _
  all_goals rfl

theorem place_write (b : Board) (address : UInt16) (value : UInt8) :
    (b.write address value).antic.place = b.antic.place := by
  unfold Board.write
  split
  case h_4 =>
    unfold writePokey
    dsimp only
    split
    · exact congrArg Antic.place (antic_expectReply _ _)
    · rfl
  case h_5 => exact congrArg Antic.place (antic_applyPorts _)
  case h_6 => exact b.antic.place_write _ value b.schedule
  all_goals rfl

theorem memory_write (b : Board) (address : UInt16) (value : UInt8) :
    b.memory.Pokes (b.write address value).memory ∨
      ∃ pins, (b.write address value).memory = b.memory.applyPortB pins := by
  unfold Board.write
  split
  case h_1 => exact .inl (.poke _ _ .refl)
  case h_4 =>
    unfold writePokey
    dsimp only
    split
    · rw [sendToDrives, memory_expectReply]
      exact .inl .refl
    · exact .inl .refl
  case h_5 => exact .inr ⟨_, rfl⟩
  all_goals exact .inl .refl

theorem low_write {b : Board} (low : b.memory.LowIsRam) (address : UInt16) (value : UInt8) :
    (b.write address value).memory.LowIsRam := by
  rcases b.memory_write address value with pokes | ⟨pins, switched⟩
  · exact pokes.lowIsRam low
  · rw [switched]
    exact low.applyPortB pins

abbrev replyDeadline (b : Board) : UInt64 := b.schedule.serialInReady

theorem sio_sendToDrives (b : Board) (byte : UInt8) :
    (b.sendToDrives byte).sio = (b.sio.putByte b.rack byte).sio := sio_expectReply _ _

theorem expectReply_of_expected {b : Board} (h : b.replyDeadline ≠ never) (now : UInt64) :
    b.expectReply now = b := by
  rw [expectReply, if_pos]
  simpa using h

theorem expectReply_of_silent {b : Board} (h : b.sio.replies = []) (now : UInt64) :
    b.expectReply now = b := by
  have none : b.sio.nextDelay = none := by
    rw [Disk.Sio.nextDelay, h, List.head?_nil, Option.map_none]
  rw [expectReply, none]
  simp

theorem replyDeadline_expectReply {b : Board} (h : b.replyDeadline = never) {r : Disk.Reply}
    {rest : List Disk.Reply} (next : b.sio.replies = r :: rest) (now : UInt64) :
    (b.expectReply now).replyDeadline = now + r.delay := by
  have delay : b.sio.nextDelay = some r.delay := by
    rw [Disk.Sio.nextDelay, next, List.head?_cons, Option.map_some]
  have expected : (b.schedule.serialInReady != never) = false := by simpa using h
  rw [expectReply, expected, delay]
  rfl

theorem replyDeadline_sendToDrives_of_renewed {b : Board} {byte : UInt8}
    (h : (b.sio.putByte b.rack byte).renewed = true) {r : Disk.Reply} {rest : List Disk.Reply}
    (next : (b.sio.putByte b.rack byte).sio.replies = r :: rest) :
    (b.sendToDrives byte).replyDeadline = b.clock + r.delay := by
  unfold sendToDrives
  apply replyDeadline_expectReply
  · rw [h]
    rfl
  · exact next

theorem replyDeadline_sendToDrives_of_kept {b : Board} {byte : UInt8}
    (h : (b.sio.putByte b.rack byte).renewed = false)
    (armed : b.replyDeadline = never → b.sio.replies = []) :
    (b.sendToDrives byte).replyDeadline = b.replyDeadline := by
  unfold sendToDrives
  dsimp only
  by_cases expected : b.replyDeadline = never
  · rw [expectReply_of_silent]
    · simp [h, tell]
    · rw [tell, (Disk.Sio.answers_putByte _ _ _).kept h, armed expected]
  · rw [expectReply_of_expected]
    · simp [h, tell]
    · simpa [h, tell] using expected

theorem write_of_sends {b : Board} {address : UInt16} (h : b.sends address = true) (value : UInt8) :
    ∃ pokey schedule, b.schedule.Sets (ofPokey ·) schedule ∧
      b.write address value = { b with pokey, schedule }.sendToDrives value := by
  rw [sends, Bool.and_eq_true, beq_iff_eq] at h
  let written := b.pokey.write (lowByte address) value b.clock b.schedule
  refine ⟨written.1, written.2, sets_pokey_write _ _ _ _ _, ?_⟩
  simp only [Board.write, h.1, writePokey, h.2, if_true, written]

theorem replies_write_of_not_sends {b : Board} {address : UInt16} (h : b.sends address = false)
    (value : UInt8) :
    (b.write address value).sio.replies = b.sio.replies ∧
      (b.write address value).replyDeadline = b.replyDeadline := by
  unfold Board.write
  split
  case h_4 pokey =>
    rw [sends, pokey, beq_self_eq_true, Bool.true_and] at h
    have kept := sets_pokey_write b.pokey b.schedule (lowByte address) value b.clock
    simp only [writePokey, h, Bool.false_eq_true, if_false]
    exact ⟨trivial, kept.deadline (e := .serialInReady) Bool.false_ne_true⟩
  case h_5 =>
    refine ⟨Disk.Sio.replies_setCommandLine _ _, ?_⟩
    rw [replyDeadline, schedule_applyPorts]
  case h_6 =>
    refine ⟨rfl, ?_⟩
    rcases antic_write b.antic (lowByte address) value b.schedule with same | waits
    · exact congrArg Schedule.serialInReady same
    · exact (congrArg Schedule.serialInReady waits).trans (serialInReady_waitForLine b.schedule)
  all_goals exact ⟨rfl, rfl⟩

def settle (b : Board) (event : Event) (deadline : UInt64) : Board :=
  let b := { b with clock := deadline }
  let timer (t : Pokey.Timer) : Board :=
    let (_, pokey, schedule) := b.pokey.timerDue t deadline b.schedule
    { b with pokey, schedule }
  match event with
  | .lineFetch => (b.drawLine deadline).2
  | .displayListInterrupt =>
    { b with
      antic := b.antic.fireListInterrupt.2
      schedule := b.schedule.clear .displayListInterrupt }
  | .timer1 => timer .one
  | .timer2 => timer .two
  | .timer4 => timer .four
  | .serialOutNeeded =>
    let (_, pokey, schedule) := b.pokey.serialOutNeeded b.schedule
    { b with pokey, schedule }
  | .serialOutDone =>
    let (_, pokey, schedule) := b.pokey.serialOutDone b.schedule
    { b with pokey, schedule }
  | .serialInReady =>
    let b := { b with schedule := b.schedule.clear .serialInReady }
    match b.sio.pop with
    | none => b
    | some (byte, sio) => { b with pokey := (b.pokey.receive byte).2, sio }.expectNext deadline

theorem Pushed.expectNext (h : b.Pushed b') (deadline : UInt64) :
    (b.expectNext deadline).Pushed (b'.expectNext deadline) := by
  unfold Board.expectNext
  rw [h.sio]
  split
  · exact h
  · obtain ⟨memory, sound, rest⟩ := h
    refine ⟨memory, sound, ?_⟩
    rw [rest]

theorem expectNext_eq (b : Board) (deadline : UInt64) :
    b.expectNext deadline = { b with schedule := (b.expectNext deadline).schedule } := by
  unfold Board.expectNext
  split <;> rfl

theorem memory_expectNext (b : Board) (deadline : UInt64) :
    (b.expectNext deadline).memory = b.memory := by
  rw [expectNext_eq]

theorem clock_expectNext (b : Board) (deadline : UInt64) :
    (b.expectNext deadline).clock = b.clock := by
  rw [expectNext_eq]

theorem antic_expectNext (b : Board) (deadline : UInt64) :
    (b.expectNext deadline).antic = b.antic := by
  rw [expectNext_eq]

theorem pokey_expectNext (b : Board) (deadline : UInt64) :
    (b.expectNext deadline).pokey = b.pokey := by
  rw [expectNext_eq]

theorem memory_settle (b : Board) (event : Event) (deadline : UInt64) :
    (b.settle event deadline).memory = b.memory := by
  cases event
  case serialInReady =>
    unfold settle
    dsimp only
    split
    · rfl
    · exact memory_expectNext _ _
  all_goals rfl

theorem pushed_handle (low : b.memory.LowIsRam) (cpu : Cpu) (event : Event) (deadline : UInt64) :
    (b.settle event deadline).Pushed (handle cpu b event deadline).2 := by
  have settled : (b.settle event deadline).memory.LowIsRam := by rwa [memory_settle]
  cases event
  case lineFetch =>
    unfold handle lineFetch
    dsimp only
    split
    · exact pushed_raiseNmi settled _ _
    · exact .refl _
  case displayListInterrupt =>
    unfold handle listInterrupt
    dsimp only
    split
    · exact pushed_raiseNmi settled _ _
    · exact .refl _
  case serialInReady =>
    unfold handle serialInReady settle
    dsimp only
    cases b.sio.pop with
    | none => exact .refl _
    | some popped =>
      refine Pushed.expectNext ?_ deadline
      apply pushed_raiseIf
      exact low
  all_goals exact pushed_raiseIf settled _ _

theorem clock_settle (b : Board) (event : Event) (deadline : UInt64) :
    (b.settle event deadline).clock = deadline := by
  cases event
  case serialInReady =>
    unfold settle
    dsimp only
    split
    · rfl
    · exact clock_expectNext _ _
  all_goals rfl

theorem place_settle {event : Event} (h : event ≠ .lineFetch) (b : Board) (deadline : UInt64) :
    (b.settle event deadline).antic.place = b.antic.place := by
  cases event
  case lineFetch => exact absurd rfl h
  case serialInReady =>
    unfold settle
    dsimp only
    split
    · rfl
    · exact congrArg Antic.place (antic_expectNext _ _)
  all_goals rfl

theorem linesPerFrame_settle (b : Board) (event : Event) (deadline : UInt64) :
    (b.settle event deadline).antic.linesPerFrame = b.antic.linesPerFrame := by
  by_cases line : event = .lineFetch
  · subst line
    exact b.antic.linesPerFrame_processLine b.memory b.gtia deadline b.schedule
  · exact congrArg Antic.Place.linesPerFrame (place_settle line b deadline)

theorem sets_expectNext {s : Schedule} (h : s.Sets (· = .serialInReady) b.schedule)
    (deadline : UInt64) : s.Sets (· = .serialInReady) (b.expectNext deadline).schedule := by
  unfold Board.expectNext
  split
  · exact h
  · exact .set _ h rfl

theorem sets_settle {event : Event} (h : event ≠ .lineFetch) (b : Board) (deadline : UInt64) :
    b.schedule.Sets (· = event) (b.settle event deadline).schedule := by
  cases event with
  | lineFetch => exact absurd rfl h
  | displayListInterrupt => exact .own _ _ _
  | serialOutNeeded => exact .own _ _ _
  | serialOutDone => exact .own _ _ _
  | timer1 => exact sets_timerDue _ _ .one deadline
  | timer2 => exact sets_timerDue _ _ .two deadline
  | timer4 => exact sets_timerDue _ _ .four deadline
  | serialInReady =>
    have cleared : b.schedule.Sets (· = .serialInReady) (b.schedule.clear .serialInReady) :=
      .own _ _ _
    unfold settle
    dsimp only
    split
    · exact cleared
    · exact sets_expectNext cleared deadline

theorem sio_settle {event : Event} (h : event ≠ .serialInReady) (b : Board) (deadline : UInt64) :
    (b.settle event deadline).sio = b.sio := by
  cases event
  case serialInReady => exact absurd rfl h
  all_goals rfl

theorem settle_serialInReady {b : Board} {r : Disk.Reply} {rest : List Disk.Reply}
    (h : b.sio.replies = r :: rest) (deadline : UInt64) :
    let b' := b.settle .serialInReady deadline
    b'.sio.replies = rest ∧ b'.pokey.serialInput = r.byte ∧
      b'.replyDeadline = rest.head?.elim never (deadline + ·.delay) := by
  have pop : b.sio.pop = some (r.byte, { b.sio with replies := rest }) := by rw [Disk.Sio.pop, h]
  have byte : (b.pokey.receive r.byte).2.serialInput = r.byte := by
    unfold Pokey.receive Pokey.raise
    split <;> rfl
  unfold settle
  dsimp only
  rw [pop]
  cases rest with
  | nil => exact ⟨rfl, byte, rfl⟩
  | cons next rest => exact ⟨rfl, byte, rfl⟩

def lineCycles (b : Board) (deadline : UInt64) : Nat := (b.drawLine deadline).1.cycles

theorem lineCycles_le (b : Board) (deadline : UInt64) : b.lineCycles deadline ≤ Antic.maxCycles :=
  Nat.min_le_right _ _

theorem sets_fetchInstruction (a : Antic) (m : Memory) (line : Nat) (start : UInt64)
    (s : Schedule) :
    s.Sets (· = .displayListInterrupt) (a.fetchInstruction m line start s).schedule := by
  unfold Antic.fetchInstruction
  dsimp only
  split
  · exact .own s _ _
  · exact .refl

theorem sets_display {s : Schedule} {l : Antic.LineState} (h : l.schedule = s) (m : Memory)
    (line : Nat) (start : UInt64) :
    s.Sets (· = .displayListInterrupt) (l.display m line start).schedule := by
  have list : s.Sets (· = .displayListInterrupt)
      ((l.fetchObjects m line).followList m line start).schedule := by
    subst h
    unfold Antic.LineState.followList
    split
    · exact .refl
    · split
      · exact sets_fetchInstruction _ m line start l.schedule
      · exact .refl
  show s.Sets _ (((l.fetchObjects m line).followList m line start).drawPlayfield m line).schedule
  rw [Antic.LineState.schedule_drawPlayfield]
  exact list

theorem sets_processLine (a : Antic) (m : Memory) (g : Gtia) (start : UInt64) (s : Schedule) :
    s.Sets (· = .displayListInterrupt) (a.processLine m g start s).schedule := by
  unfold Antic.processLine
  dsimp only
  split
  · apply sets_display
    rfl
  · exact .refl

theorem schedule_settle_lineFetch (b : Board) (deadline : UInt64) :
    ∃ s, b.schedule.Sets (· = .displayListInterrupt) s ∧
      (b.settle .lineFetch deadline).schedule =
        (s.stallTo (deadline + UInt64.ofNat (b.lineCycles deadline))).set
          .lineFetch (deadline + Display.cyclesPerLine) :=
  ⟨_, sets_processLine b.antic b.memory b.gtia deadline b.schedule, rfl⟩

theorem deadline_settle {event other : Event} (ne : other ≠ event)
    (list : event = .lineFetch → other ≠ .displayListInterrupt) (b : Board) (deadline : UInt64) :
    (b.settle event deadline).schedule.deadline other = b.schedule.deadline other := by
  by_cases line : event = .lineFetch
  · obtain ⟨s, sets, settled⟩ := schedule_settle_lineFetch b deadline
    rw [line] at ne ⊢
    rw [settled, deadline_set, if_neg ne.symm, deadline_stallTo]
    exact sets.deadline (list line)
  · exact (sets_settle line b deadline).deadline ne

end Board

end Atari800XL
