import Atari800XL.Proofs.Cpu.Targets
import Atari800XL.Proofs.FileDevice.Effect
import Atari800XL.Proofs.FileDevice.Time

/-! What a call may change for its caller. A call that is taken reports its status, returns, and
writes its results to its own control block and, if it gets bytes, to the buffer, as far as the
caller has said that it reaches. A call that is left alone changes nothing. -/

namespace Atari800XL.FileDevice

open Cpu

inductive Direction
  | toProgram
  | toChannel
  | nowhere

namespace Task

def direction : Task → Direction
  | .central .getRecord | .central .getBytes => .toProgram
  | .central .putRecord | .central .putBytes | .putByte => .toChannel
  | _ => .nowhere

def results : Task → List UInt16
  | .central .opening => [0, 1, 6, 7]
  | .central .close => [0]
  | .central .getRecord | .central .getBytes => [8, 9]
  | .central .note => [12, 13, 14]
  | _ => []

def inAccumulator (t : Task) (m : Memory) (i : ChannelIndex) (status : Status) : Bool :=
  match t with
  | .central .getBytes => (Iocb.ofChannel i).bufferLength m == 0 && status == .success
  | _ => false

end Task

namespace Iocb

/-- All of a memory is as before, but for these fields of a control block and so many bytes of its
buffer. -/
structure Changes (b : Iocb) (fields : List UInt16) (delivered : Nat) (m m' : Memory) : Prop where
  elsewhere : ∀ a, (∀ field ∈ fields, a ≠ b.base + field) →
    (∀ k < delivered, a ≠ b.bufferAddress m + UInt16.ofNat k) → m'.peek a = m.peek a
  rest : m' = { m with visible := m'.visible }

variable {b : Iocb} {fields : List UInt16} {delivered : Nat} {m m' : Memory}

theorem Changes.none : b.Changes fields delivered m m := ⟨fun _ _ _ => rfl, rfl⟩

theorem Changes.poke (changes : b.Changes fields delivered m m') {field : UInt16}
    (here : field ∈ fields) (value : UInt8) :
    b.Changes fields delivered m (m'.poke (b.base + field) value) where
  elsewhere a apart outside := by
    rw [Memory.peek_poke_of_ne (apart field here).symm, changes.elsewhere a apart outside]
  rest := by rw [Memory.poke_eq, changes.rest]

theorem Changes.cons (changes : b.Changes fields delivered m m') (field : UInt16) :
    b.Changes (field :: fields) delivered m m' where
  elsewhere a apart := changes.elsewhere a (List.forall_mem_cons.1 apart).2
  rest := changes.rest

theorem Changes.setHandlerId (changes : b.Changes fields delivered m m') (here : 0 ∈ fields)
    (id : UInt8) : b.Changes fields delivered m (b.setHandlerId m' id) := by
  have poked := changes.poke here id
  rwa [UInt16.add_zero] at poked

theorem changes_claim (b : Iocb) (m : Memory) (unit : UInt8) :
    b.Changes [0, 1, 6, 7] 0 m (b.claim m unit) :=
  (((Changes.none.setHandlerId (by decide) ownId).poke (by decide) unit).poke (by decide) _).poke
    (by decide) _

theorem changes_setOffset (b : Iocb) (m : Memory) (offset : Nat) :
    b.Changes [12, 13, 14] 0 m (b.setOffset m offset) :=
  ((Changes.none.poke (by decide) _).poke (by decide) _).poke (by decide) _

theorem exists_toByteArray (bytes : ByteArray) : ∃ list : List UInt8, bytes = list.toByteArray :=
  ⟨bytes.data.toList, ByteArray.ext (by rw [List.data_toByteArray, Array.toArray_toList])⟩

theorem changes_deliver (b : Iocb) (m : Memory) (bytes : ByteArray) :
    b.Changes [8, 9] bytes.size m (b.deliver m bytes) := by
  obtain ⟨list, rfl⟩ := exists_toByteArray bytes
  have buffer : b.Changes [8, 9] list.length m (m.pokeAll (b.bufferAddress m) list) :=
    ⟨fun _ _ outside => Memory.peek_pokeAll_of_apart outside,
      (Memory.pokes_pokeAll m _ list).eq_of_visible⟩
  rw [deliver_eq, List.size_toByteArray]
  exact (buffer.poke (by decide) _).poke (by decide) _

theorem bufferLength_deliver {i : ChannelIndex} (inRam : (ofChannel i).InRam m)
    (bytes : ByteArray) :
    (ofChannel i).bufferLength ((ofChannel i).deliver m bytes) = UInt16.ofNat bytes.size := by
  obtain ⟨list, rfl⟩ := exists_toByteArray bytes
  rw [deliver_eq, List.size_toByteArray]
  exact bufferLength_setBufferLength (inRam.congr (Memory.pokes_pokeAll m _ list))

end Iocb

structure Received (i : ChannelIndex) (m m' : Memory) (status : Status) (single : Bool)
    (delivered moved : Nat) : Prop where
  room : delivered ≤ ((Iocb.ofChannel i).bufferLength m).toNat
  moved : moved = delivered + if single then 1 else 0
  told : status = .writeOnly ∧ delivered = 0 ∨
    ((Iocb.ofChannel i).InRam m →
      (Iocb.ofChannel i).bufferLength m' = UInt16.ofNat delivered)

def position (d : FileDevice) (i : ChannelIndex) : Nat := (d.channel i).elim 0 Channel.position

def Task.Moves (t : Task) (d d' : FileDevice) (i : ChannelIndex) (m m' : Memory) (status : Status)
    (delivered moved : Nat) : Prop :=
  match t.direction with
  | .toProgram => Received i m m' status (t.inAccumulator m i status) delivered moved
  | .toChannel => delivered = 0 ∧ d'.position i = d.position i + moved
  | .nowhere => delivered = 0 ∧ moved = 0

/-- A reply within the bounds of its task. -/
structure Task.Bounds (t : Task) (d : FileDevice) (m : Memory) (i : ChannelIndex) (r : Reply)
    (delivered : Nat) : Prop where
  changes : (Iocb.ofChannel i).Changes t.results delivered m r.memory
  accumulator : r.accumulator.isSome = t.inAccumulator m i r.status
  moves : t.Moves d r.device i m r.memory r.status delivered r.transferred

section

variable {t : Task} {d : FileDevice} {m : Memory} {i : ChannelIndex} {r : Reply}

theorem Task.accumulator_of_direction (other : t.direction ≠ .toProgram)
    (empty : r.accumulator = none) : r.accumulator.isSome = t.inAccumulator m i r.status := by
  rw [empty]
  unfold inAccumulator
  split
  · exact absurd rfl other
  · rfl

theorem Task.Bounds.of_nowhere (direction : t.direction = .nowhere)
    (changes : (Iocb.ofChannel i).Changes t.results 0 m r.memory) (moved : r.transferred = 0)
    (accumulator : r.accumulator = none) : t.Bounds d m i r 0 where
  changes := changes
  accumulator := t.accumulator_of_direction (direction ▸ nofun) accumulator
  moves := by
    rw [Moves, direction]
    exact ⟨rfl, moved⟩

theorem Task.Bounds.of_toChannel (direction : t.direction = .toChannel) (memory : r.memory = m)
    (accumulator : r.accumulator = none)
    (moved : r.device.position i = d.position i + r.transferred) : t.Bounds d m i r 0 where
  changes := memory ▸ .none
  accumulator := t.accumulator_of_direction (direction ▸ nofun) accumulator
  moves := by
    rw [Moves, direction]
    exact ⟨rfl, moved⟩

theorem Task.Bounds.of_toProgram (direction : t.direction = .toProgram) (memory : r.memory = m)
    (reason : r.status = .writeOnly ∨ (Iocb.ofChannel i).bufferLength m = 0)
    (accumulator : r.accumulator.isSome = t.inAccumulator m i r.status)
    (moved : r.transferred = if r.accumulator.isSome then 1 else 0) : t.Bounds d m i r 0 where
  changes := memory ▸ .none
  accumulator := accumulator
  moves := by
    rw [Moves, direction]
    refine ⟨Nat.zero_le _, ?_, ?_⟩
    · rw [moved, accumulator, Nat.zero_add]
    · rcases reason with refused | single
      · exact .inl ⟨refused, rfl⟩
      · exact .inr fun _ => memory ▸ single

theorem Task.Bounds.of_deliver {bytes : ByteArray} (direction : t.direction = .toProgram)
    (results : t.results = [8, 9]) (memory : r.memory = (Iocb.ofChannel i).deliver m bytes)
    (fits : bytes.size ≤ ((Iocb.ofChannel i).bufferLength m).toNat)
    (inBuffer : t.inAccumulator m i r.status = false) (accumulator : r.accumulator = none)
    (moved : r.transferred = bytes.size) : t.Bounds d m i r bytes.size where
  changes := by
    rw [results, memory]
    exact Iocb.changes_deliver _ m bytes
  accumulator := by
    rw [accumulator, inBuffer]
    rfl
  moves := by
    rw [Moves, direction]
    refine ⟨fits, ?_, .inr fun inRam => ?_⟩
    · rw [moved, inBuffer]
      rfl
    · rw [memory]
      exact Iocb.bufferLength_deliver inRam bytes

end

section

variable (d : FileDevice) (m : Memory) (i : ChannelIndex) {c : Channel}

theorem bounds_opening : (Task.central .opening).Bounds d m i (d.opening m i) 0 := by
  unfold opening
  dsimp only
  split
  · exact .of_nowhere rfl .none rfl rfl
  · split
    · exact .of_nowhere rfl .none rfl rfl
    · exact .of_nowhere rfl (Iocb.changes_claim _ m _) rfl rfl

theorem bounds_close (c : Channel) : (Task.central .close).Bounds d m i (d.close m i c) 0 :=
  .of_nowhere rfl (Iocb.Changes.none.setHandlerId (by decide) _) rfl rfl

theorem bounds_getRecord (c : Channel) :
    ∃ delivered, (Task.central .getRecord).Bounds d m i (d.getRecord m i c) delivered := by
  have fits := c.size_getRecord_le ((Iocb.ofChannel i).bufferLength m).toNat
  unfold getRecord
  dsimp only
  split
  · exact ⟨0, .of_toProgram rfl rfl (.inl rfl) rfl rfl⟩
  · exact ⟨_, .of_deliver rfl rfl rfl fits rfl rfl rfl⟩

theorem bounds_getBytes (c : Channel) :
    ∃ delivered, (Task.central .getBytes).Bounds d m i (d.getBytes m i c) delivered := by
  have fits := c.size_getBytes_le ((Iocb.ofChannel i).bufferLength m).toNat
  unfold getBytes
  dsimp only
  split
  · exact ⟨0, .of_toProgram rfl rfl (.inl rfl) (Bool.and_false _).symm rfl⟩
  · split
    · have single : (Iocb.ofChannel i).bufferLength m = 0 := UInt16.toNat_inj.1 ‹_›
      have zero : ((Iocb.ofChannel i).bufferLength m == 0) = true := beq_iff_eq.2 single
      split
      · exact ⟨0, .of_toProgram rfl rfl (.inr single) (Bool.and_false _).symm rfl⟩
      · exact ⟨0, .of_toProgram rfl rfl (.inr single) ((Bool.and_true _).trans zero).symm rfl⟩
    · have many : ((Iocb.ofChannel i).bufferLength m == 0) = false :=
        beq_false_of_ne fun single => ‹¬_› (congrArg UInt16.toNat single)
      have inBuffer (status : Status) :
          (Task.central .getBytes).inAccumulator m i status = false := by
        rw [Task.inAccumulator, many, Bool.false_and]
      generalize c.getBytes _ = got at fits ⊢
      exact ⟨_, .of_deliver rfl rfl rfl fits (inBuffer _) rfl rfl⟩

theorem position_put (c : Channel) (byte : UInt8) : (c.put byte).position = c.position + 1 := by
  unfold Channel.put
  split
  split <;> rfl

theorem position_putFrom (record : Bool) (c : Channel) (address : UInt16) (written n : Nat) :
    (putFrom m record c address written n).1.position + written =
      c.position + (putFrom m record c address written n).2.1 := by
  induction n generalizing c address written with
  | zero => rfl
  | succ n ih =>
    rw [putFrom]
    split
    · show (c.put _).position + written = c.position + (written + 1)
      rw [position_put]
      omega
    · have rest := ih (c.put (m.peek address)) (address + 1) (written + 1)
      rw [position_put] at rest
      omega

theorem position_setChannel (d : FileDevice) (i : ChannelIndex) (c : Channel) :
    (d.setChannel i (some c)).position i = c.position := by
  rw [position, channel_setChannel, Option.elim_some]

theorem bounds_putData {t : Task} (direction : t.direction = .toChannel)
    (recorded : d.channel i = some c) (a : UInt8) (record : Bool) :
    t.Bounds d m i (d.putData m i c a record) 0 := by
  have start : d.position i = c.position := by rw [position, recorded, Option.elim_some]
  unfold putData
  dsimp only
  split
  · exact .of_toChannel direction rfl rfl rfl
  · split
    · refine .of_toChannel direction rfl rfl ?_
      rw [setChannel_setChannel, position_setChannel, position_put, start]
    · have gone := position_putFrom m record c ((Iocb.ofChannel i).bufferAddress m) 0
        ((Iocb.ofChannel i).bufferLength m).toNat
      refine .of_toChannel direction rfl rfl ?_
      rw [setChannel_setChannel, position_setChannel, start]
      generalize putFrom m record c _ 0 _ = put at gone ⊢
      obtain ⟨c', written, ended⟩ := put
      dsimp only at gone ⊢
      split
      · rw [position_put]
        omega
      · exact gone

theorem bounds_putReply (a : UInt8) : Task.putByte.Bounds d m i (d.putReply m i a) 0 := by
  unfold putReply
  split
  · exact .of_toChannel rfl rfl rfl rfl
  · split
    · exact .of_toChannel rfl rfl rfl rfl
    · refine .of_toChannel rfl rfl rfl ?_
      rw [position_setChannel, position, ‹d.channel i = _›, position_put]
      rfl

theorem bounds_onTarget {t : Task} (direction : t.direction = .nowhere)
    (f : List Char → Status × Files.Store) : t.Bounds d m i (d.onTarget m i f) 0 := by
  unfold onTarget
  split <;> exact .of_nowhere direction .none rfl rfl

theorem bounds_point (c : Channel) : (Task.central .point).Bounds d m i (d.point m i c) 0 := by
  unfold point
  split
  · exact .of_nowhere rfl .none rfl rfl
  · split <;> exact .of_nowhere rfl .none rfl rfl

theorem bounds_note (c : Channel) : (Task.central .note).Bounds d m i (d.note m i c) 0 := by
  unfold note
  split
  · exact .of_nowhere rfl .none rfl rfl
  · exact .of_nowhere rfl (Iocb.changes_setOffset _ m _) rfl rfl

theorem bounds_carryOut (a : UInt8) (command : Command)
    (claimed : d.claims m i command = true) :
    ∃ delivered, (Task.central command).Bounds d m i (d.carryOut m i a command) delivered := by
  unfold carryOut
  cases recorded : d.channel i with
  | some c =>
    cases command with
    | opening => exact ⟨0, d.bounds_opening m i⟩
    | close => exact ⟨0, d.bounds_close m i c⟩
    | getRecord => exact d.bounds_getRecord m i c
    | getBytes => exact d.bounds_getBytes m i c
    | putRecord => exact ⟨0, d.bounds_putData m i rfl recorded a true⟩
    | putBytes => exact ⟨0, d.bounds_putData m i rfl recorded a false⟩
    | status => exact ⟨0, .of_nowhere rfl .none rfl rfl⟩
    | point => exact ⟨0, d.bounds_point m i c⟩
    | note => exact ⟨0, d.bounds_note m i c⟩
    | file command => exact ⟨0, d.bounds_onTarget m i rfl _⟩
    | unknown => exact ⟨0, .of_nowhere rfl .none rfl rfl⟩
  | none =>
    -- Without a channel the device is asked for nothing but to open or by a name.
    simp only [claims, recorded] at claimed
    cases command with
    | opening => exact ⟨0, d.bounds_opening m i⟩
    | file command => exact ⟨0, d.bounds_onTarget m i rfl _⟩
    | status => exact ⟨0, d.bounds_onTarget m i rfl _⟩
    | _ => cases claimed

theorem bounds_reply {e : Entry} {t : Task} (taken : e.task? d = some (i, t)) :
    ∃ delivered, t.Bounds d e.memory i (t.reply d e.memory i e.cpu.regs.a) delivered := by
  cases e with
  | central cpu memory =>
    obtain ⟨-, claimed, rfl⟩ := Entry.claims_of_task taken
    exact d.bounds_carryOut memory i cpu.regs.a _ claimed
  | put cpu memory =>
    cases taken
    exact ⟨0, d.bounds_putReply memory _ cpu.regs.a⟩

end

/-- The processor behind a call: the status is in `y` and in the flags of a result, and the caller
goes on behind the word that is on the stack now. -/
structure Called.Returns (c : Called) (cpu : Cpu) (status : Status) (single : Bool) (moved : Nat) :
    Prop where
  y : c.cpu.regs.y = status.code
  zero : c.cpu.regs.flag Flag.zero = (status.code == 0)
  negative : c.cpu.regs.flag Flag.negative = hasBit status.code 0x80
  sp : c.cpu.regs.sp = cpu.regs.sp + 2
  pc : c.cpu.regs.pc =
    word (c.memory.peek (word (cpu.regs.sp + 1) 0x01)) (c.memory.peek (word (cpu.regs.sp + 2) 0x01))
      + 1
  others : cpu.regs.AgreeBut c.cpu.regs
    { a := single, y := true, sp := true, pc := true, flags := Targets.nz }
  total : c.cpu.total = cpu.total + (200 + UInt64.ofNat moved * 10)
  rest : c.cpu = { cpu with regs := c.cpu.regs, total := c.cpu.total }

theorem returns_finish (cpu : Cpu) (i : ChannelIndex) (r : Reply) :
    (finish cpu i r).Returns cpu r.status r.accumulator.isSome r.transferred where
  y := rfl
  zero := by
    have kept : (finish cpu i r).cpu.regs.status &&& Flag.zero =
        withBit cpu.regs.status Flag.zero (r.status.code == 0) &&& Flag.zero :=
      withBit_and_of_apart (by decide) _ _
    rw [Registers.flag, hasBit, kept]
    exact hasBit_withBit _ (by decide) _
  negative := hasBit_withBit _ (by decide) _
  sp := UInt8.add_assoc cpu.regs.sp 1 1
  pc := by
    rw [← show cpu.regs.sp + 1 + 1 = cpu.regs.sp + 2 from UInt8.add_assoc cpu.regs.sp 1 1]
    rfl
  others :=
    { a none := by
        have empty : r.accumulator = .none := by simpa using none
        show r.accumulator.getD cpu.regs.a = cpu.regs.a
        rw [empty, Option.getD_none]
      x _ := rfl
      y := nofun
      sp := nofun
      pc := nofun
      flags := by
        have negative : Flag.negative &&& ~~~Targets.nz = 0 := by decide
        have zero : Flag.zero &&& ~~~Targets.nz = 0 := by decide
        exact (withBit_and_of_apart negative _ _).trans (withBit_and_of_apart zero _ _) }
  total := rfl
  rest := rfl

/-- A call that has been taken for a task of a channel and has kept within its bounds. -/
structure Called.Conforms (c : Called) (e : Entry) (d : FileDevice) (i : ChannelIndex) (t : Task)
    (status : Status) (delivered moved : Nat) : Prop where
  handled : c.handled = true
  returns : c.Returns e.cpu status (t.inAccumulator e.memory i status) moved
  reported : e.memory.accessAt ((Iocb.ofChannel i).base + 3) = .ram →
    c.memory.peek ((Iocb.ofChannel i).base + 3) = status.code
  changes : (Iocb.ofChannel i).Changes (3 :: t.results) delivered e.memory c.memory
  moves : t.Moves d c.device i e.memory c.memory status delivered moved
  channels : ∀ j, j ≠ i → c.device.channel j = d.channel j

namespace Entry

variable {e : Entry} {d : FileDevice} {i : ChannelIndex} {t : Task}

theorem conforms_serve (taken : e.task? d = some (i, t)) :
    ∃ status delivered moved, (e.serve d).Conforms e d i t status delivered moved := by
  obtain ⟨delivered, bounds⟩ := d.bounds_reply i taken
  obtain ⟨notices, served⟩ := serve_eq_finish taken
  obtain ⟨c, device, -⟩ := serves_serve taken
  have others (j : ChannelIndex) (ne : j ≠ i) : (e.serve d).device.channel j = d.channel j := by
    rw [device]
    exact channel_setChannel_of_ne d ne c
  rw [served] at others ⊢
  generalize t.reply d e.memory i e.cpu.regs.a = r at bounds others ⊢
  have returns := returns_finish e.cpu i { r with notices }
  refine ⟨r.status, delivered, r.transferred, rfl, ?_, ?_, ?_, ?_, others⟩
  · rw [← bounds.accumulator]
    exact returns
  · intro ram
    have still : r.memory.accessAt ((Iocb.ofChannel i).base + 3) = .ram := by
      rw [bounds.changes.rest]
      exact ram
    exact Memory.peek_poke_self still _
  · exact (bounds.changes.cons 3).poke (List.mem_cons_self) _
  · have moves := bounds.moves
    unfold Task.Moves at moves ⊢
    cases direction : t.direction with
    | toProgram =>
      rw [direction] at moves
      refine ⟨moves.room, moves.moved, moves.told.imp_right fun told inRam => ?_⟩
      rw [← told inRam]
      exact Iocb.bufferLength_setStatus
    | toChannel | nowhere =>
      rw [direction] at moves
      exact moves

/-- A call that is not taken leaves the processor, the memory, the files and the channels as they
were. One that is taken is for a task of one channel: it returns to its caller with the status, and
changes nothing in memory but the status, the results of the task and, where bytes are got, a
beginning of the buffer that is no longer than the caller has said. -/
theorem serve_convention (e : Entry) (d : FileDevice) :
    ((e.serve d).handled = false → (e.serve d).LeftAlone d e.cpu e.memory) ∧
      ((e.serve d).handled = true → ∃ i t, e.task? d = some (i, t) ∧
        ∃ status delivered moved, (e.serve d).Conforms e d i t status delivered moved) := by
  cases taken : e.task? d with
  | none =>
    have left := leftAlone_serve taken
    refine ⟨fun _ => left, fun handled => ?_⟩
    rw [left.handled] at handled
    cases handled
  | some task =>
    obtain ⟨i, t⟩ := task
    obtain ⟨status, delivered, moved, conforms⟩ := conforms_serve taken
    refine ⟨fun left => ?_, fun _ => ⟨i, t, rfl, status, delivered, moved, conforms⟩⟩
    rw [conforms.handled] at left
    cases left

end Entry

end Atari800XL.FileDevice
