import Atari800XL.Proofs.FileDevice.Stream
import Atari800XL.Proofs.Files.Order

namespace Atari800XL.FileDevice

open Files

/-- What the device is asked for: by the central entry, or by the entry that puts a byte. -/
inductive Task
  | central (command : Command)
  | putByte

def putReply (d : FileDevice) (m : Memory) (i : ChannelIndex) (a : UInt8) : Reply :=
  match d.channel i with
  | none => { device := d, memory := m, status := .notOpen }
  | some c =>
    if !c.mode.writable then { device := d, memory := m, status := .readOnly }
    else
      { device := d.setChannel i (some (c.put a)), memory := m, status := .success,
        transferred := 1 }

theorem putChannel_lt (x : UInt8) : x.toNat / 16 % Iocb.count < Iocb.count :=
  Nat.mod_lt _ (by decide)

def putChannel (x : UInt8) : ChannelIndex := ⟨x.toNat / 16 % Iocb.count, putChannel_lt x⟩

theorem putByte_eq_finish (d : FileDevice) (cpu : Cpu) (m : Memory) :
    d.putByte cpu m =
      finish cpu (putChannel cpu.regs.x) (d.putReply m (putChannel cpu.regs.x) cpu.regs.a) := by
  have channel : Fin.ofNat Iocb.count (cpu.regs.x.toNat / 16) = putChannel cpu.regs.x := rfl
  unfold putByte putReply
  dsimp only
  rw [channel]
  cases d.channel (putChannel cpu.regs.x) with
  | none => rfl
  | some c =>
    dsimp only
    split
    · rfl
    · rw [setChannel_setChannel]

def Task.reply (t : Task) (d : FileDevice) (m : Memory) (i : ChannelIndex) (a : UInt8) : Reply :=
  match t with
  | .central command => d.carryOut m i a command
  | .putByte => d.putReply m i a

inductive Entry
  | central (cpu : Cpu) (memory : Memory)
  | put (cpu : Cpu) (memory : Memory)

namespace Entry

def cpu : Entry → Cpu
  | .central cpu _ => cpu
  | .put cpu _ => cpu

def memory : Entry → Memory
  | .central _ memory => memory
  | .put _ memory => memory

def serve (e : Entry) (d : FileDevice) : Called :=
  match e with
  | .central cpu memory => d.call cpu memory
  | .put cpu memory => d.putByte cpu memory

/-- What the device takes a call for, and on which channel; nothing if it leaves the call alone. -/
def task? (e : Entry) (d : FileDevice) : Option (ChannelIndex × Task) :=
  match e with
  | .central cpu memory =>
    (channelOf? cpu.regs.x).bind fun i =>
      let command := Command.ofByte ((Iocb.ofChannel i).command memory)
      if d.claims memory i command then some (i, .central command) else none
  | .put cpu _ => some (putChannel cpu.regs.x, .putByte)

variable {e : Entry} {d : FileDevice} {i : ChannelIndex} {t : Task}

theorem claims_of_task {cpu : Cpu} {memory : Memory}
    (taken : (central cpu memory).task? d = some (i, t)) :
    let command := Command.ofByte ((Iocb.ofChannel i).command memory)
    channelOf? cpu.regs.x = some i ∧ d.claims memory i command = true ∧ t = .central command := by
  obtain ⟨i', channel, task⟩ := Option.bind_eq_some_iff.1 taken
  dsimp only at task
  split at task
  · cases task
    exact ⟨channel, ‹_›, rfl⟩
  · cases task

theorem serve_eq_finish (taken : e.task? d = some (i, t)) :
    ∃ notices, e.serve d =
      finish e.cpu i { t.reply d e.memory i e.cpu.regs.a with notices } := by
  cases e with
  | central cpu memory =>
    obtain ⟨channel, claimed, rfl⟩ := claims_of_task taken
    let byte := (Iocb.ofChannel i).command memory
    let reply := d.carryOut memory i cpu.regs.a (.ofByte byte)
    refine ⟨reply.notices ++ [.deviceCall i.val byte reply.status.code], ?_⟩
    show d.call cpu memory = _
    rw [call, channel]
    simp only [claimed, if_true]
    rfl
  | put cpu memory =>
    cases taken
    exact ⟨_, putByte_eq_finish d cpu memory⟩

theorem reports_serve (taken : e.task? d = some (i, t)) :
    (e.serve d).Reports e.cpu i (t.reply d e.memory i e.cpu.regs.a) := by
  obtain ⟨notices, served⟩ := serve_eq_finish taken
  rw [served]
  exact ⟨rfl, rfl, rfl, rfl, rfl⟩

theorem leftAlone_serve (left : e.task? d = none) : (e.serve d).LeftAlone d e.cpu e.memory := by
  cases e with
  | central cpu memory =>
    cases channel : channelOf? cpu.regs.x with
    | none =>
      show (d.call cpu memory).LeftAlone d cpu memory
      rw [call, channel]
      exact ⟨rfl, rfl, rfl, rfl⟩
    | some i =>
      simp only [task?, channel, Option.bind_some] at left
      split at left
      · cases left
      · exact call_of_not_claims channel (Bool.eq_false_iff.2 ‹_›)
  | put cpu memory => cases left

end Entry

namespace Request

variable {i : ChannelIndex} {command : Command}

def entry (r : Request i command) : Entry := .central r.cpu r.memory

@[simp] theorem memory_entry (r : Request i command) : r.entry.memory = r.memory := rfl

theorem task?_entry (r : Request i command) {d : FileDevice}
    (claimed : d.claims r.memory i command = true) :
    r.entry.task? d = some (i, .central command) := by
  obtain ⟨cpu, memory, x, rfl⟩ := r
  have channel := channelOf?_eq_some_iff.2 x
  simp only [entry, Entry.task?, channel, Option.bind_some, claimed, if_true]

end Request

def serveAll (d : FileDevice) (calls : List Entry) : FileDevice :=
  calls.foldl (fun d e => (e.serve d).device) d

namespace Channel

def label (c : Channel) : String × OpenMode := (c.name, c.mode)

def holding (c : Channel) : (String × OpenMode) × ByteArray := (c.label, c.content)

theorem holding_nextByte {c c' : Channel} {byte : UInt8} (next : c.nextByte = some (byte, c')) :
    c'.holding = c.holding := by
  unfold nextByte at next
  split at next
  · cases next
    rfl
  · cases next

theorem holding_getRecord (c : Channel) (max : Nat) : (c.getRecord max).2.holding = c.holding := by
  unfold getRecord
  dsimp only
  split <;> rfl

theorem holding_seek {c c' : Channel} {offset : Nat} (moved : c.seek offset = some c') :
    c'.holding = c.holding := by
  unfold seek at moved
  split at moved
  · cases moved
    rfl
  · cases moved

theorem label_put (c : Channel) (byte : UInt8) : (c.put byte).label = c.label := by
  unfold put
  split
  split <;> rfl

theorem label_putFrom (m : Memory) (record : Bool) (c : Channel) (address : UInt16)
    (written n : Nat) : (putFrom m record c address written n).1.label = c.label := by
  induction n generalizing c address written with
  | zero => rfl
  | succ n ih =>
    rw [putFrom]
    split
    · exact c.label_put _
    · rw [ih, label_put]

end Channel

def Turns (d d' : FileDevice) (i : ChannelIndex) (own : Option Channel → Prop) : Prop :=
  ∃ c, d' = d.setChannel i c ∧ own c

theorem Turns.still {d : FileDevice} {i : ChannelIndex} {own : Option Channel → Prop}
    (same : own (d.channel i)) : d.Turns d i own :=
  ⟨d.channel i, (d.setChannel_channel i).symm, same⟩

def Opened (s : Files.Store) (c : Channel) : Prop :=
  ∃ target code unit, prepare s target code = .ok (unit, c)

section

variable (d : FileDevice) (m : Memory) (i : ChannelIndex) {c : Channel}

theorem opening_of_open (busy : (Iocb.ofChannel i).handlerId m ≠ Iocb.closedId) :
    (d.opening m i).device = d := by
  unfold opening
  dsimp only
  rw [if_pos (by simpa using busy)]

theorem turns_opening :
    d.Turns (d.opening m i).device i fun c =>
      (Iocb.ofChannel i).handlerId m ≠ Iocb.closedId ∧ c = d.channel i ∨
        ∀ c' ∈ c, Opened d.store c' := by
  unfold opening
  dsimp only
  split
  · rename_i busy
    exact .still (.inl ⟨by simpa using busy, rfl⟩)
  · split
    · exact ⟨none, rfl, .inr nofun⟩
    · rename_i unit c prepared
      refine ⟨some c, setChannel_setChannel d i none _, .inr ?_⟩
      rintro c' ⟨⟩
      exact ⟨_, _, unit, prepared⟩

theorem turns_getRecord (recorded : d.channel i = some c) :
    d.Turns (d.getRecord m i c).device i
      (·.map Channel.holding = (d.channel i).map Channel.holding) := by
  unfold getRecord
  dsimp only
  split
  · exact .still rfl
  · refine ⟨_, rfl, ?_⟩
    rw [recorded]
    exact congrArg some (c.holding_getRecord _)

theorem turns_getBytes (recorded : d.channel i = some c) :
    d.Turns (d.getBytes m i c).device i
      (·.map Channel.holding = (d.channel i).map Channel.holding) := by
  unfold getBytes
  dsimp only
  split
  · exact .still rfl
  · split
    · split
      · exact .still rfl
      · refine ⟨_, rfl, ?_⟩
        rw [recorded]
        exact congrArg some (Channel.holding_nextByte ‹_›)
    · refine ⟨_, rfl, ?_⟩
      rw [recorded]
      rfl

theorem turns_putData (recorded : d.channel i = some c) (a : UInt8) (record : Bool) :
    d.Turns (d.putData m i c a record).device i
      (·.map Channel.label = (d.channel i).map Channel.label) := by
  unfold putData
  dsimp only
  split
  · exact .still rfl
  · split
    · refine ⟨_, setChannel_setChannel d i none _, ?_⟩
      rw [recorded]
      exact congrArg some (c.label_put a)
    · refine ⟨_, setChannel_setChannel d i none _, ?_⟩
      rw [recorded]
      refine congrArg some ?_
      split
      · exact (Channel.label_put _ _).trans (Channel.label_putFrom _ _ _ _ _ _)
      · exact Channel.label_putFrom _ _ _ _ _ _

theorem turns_putReply (a : UInt8) :
    d.Turns (d.putReply m i a).device i
      (·.map Channel.label = (d.channel i).map Channel.label) := by
  unfold putReply
  split
  · exact .still rfl
  · rename_i c recorded
    split
    · exact .still rfl
    · refine ⟨_, rfl, ?_⟩
      rw [recorded]
      exact congrArg some (c.label_put a)

theorem turns_point (recorded : d.channel i = some c) :
    d.Turns (d.point m i c).device i
      (·.map Channel.holding = (d.channel i).map Channel.holding) := by
  unfold point
  split
  · exact .still rfl
  · split
    · exact .still rfl
    · refine ⟨_, rfl, ?_⟩
      rw [recorded]
      exact congrArg some (Channel.holding_seek ‹_›)

theorem note_device : (d.note m i c).device = d := by
  unfold note
  split <;> rfl

end

inductive Effect
  | keep
  | flush (c : Channel)
  | apply (command : FileCommand) (text : List Char)

def Effect.on (s : Store) : Effect → Store
  | .keep => s
  | .flush c => (FileDevice.flush s c).1
  | .apply command text => (applyFile s command text).2

def targetText (m : Memory) (i : ChannelIndex) : Option (List Char) :=
  (splitDevice ((Iocb.ofChannel i).target m)).map (·.2)

theorem onTarget_device (d : FileDevice) (m : Memory) (i : ChannelIndex)
    (f : List Char → Status × Store) :
    (d.onTarget m i f).device =
      { d with store := (targetText m i).elim d.store fun text => (f text).2 } := by
  unfold onTarget targetText
  cases splitDevice ((Iocb.ofChannel i).target m) <;> rfl

namespace Task

def effect (t : Task) (d : FileDevice) (m : Memory) (i : ChannelIndex) : Effect :=
  match t with
  | .central .close => (d.channel i).elim .keep .flush
  | .central (.file command) => (targetText m i).elim .keep (.apply command)
  | _ => .keep

def Leaves (t : Task) (d : FileDevice) (m : Memory) (i : ChannelIndex) (c : Option Channel) :
    Prop :=
  match t with
  | .central .opening =>
    (Iocb.ofChannel i).handlerId m ≠ Iocb.closedId ∧ c = d.channel i ∨
      ∀ c' ∈ c, Opened d.store c'
  | .central .close => c = none
  | .central .putRecord | .central .putBytes | .putByte =>
    c.map Channel.label = (d.channel i).map Channel.label
  | _ => c.map Channel.holding = (d.channel i).map Channel.holding

def Serves (t : Task) (d d' : FileDevice) (m : Memory) (i : ChannelIndex) : Prop :=
  ∃ c, d' = { d.setChannel i c with store := (t.effect d m i).on d.store } ∧ t.Leaves d m i c

theorem Serves.of_turns {t : Task} {d d' : FileDevice} {m : Memory} {i : ChannelIndex}
    (turns : d.Turns d' i (t.Leaves d m i)) (keep : t.effect d m i = .keep) : t.Serves d d' m i := by
  obtain ⟨c, device, own⟩ := turns
  refine ⟨c, ?_, own⟩
  rw [keep]
  exact device

theorem serves_file (d : FileDevice) (m : Memory) (i : ChannelIndex) (command : FileCommand) :
    (central (.file command)).Serves d (d.onTarget m i (applyFile d.store command)).device m i := by
  refine ⟨d.channel i, ?_, rfl⟩
  rw [onTarget_device, setChannel_channel]
  unfold effect
  cases targetText m i <;> rfl

theorem serves_carryOut (d : FileDevice) (m : Memory) (i : ChannelIndex) (a : UInt8)
    (command : Command) : (central command).Serves d (d.carryOut m i a command).device m i := by
  unfold carryOut
  cases recorded : d.channel i with
  | some c =>
    cases command with
    | opening => exact .of_turns (d.turns_opening m i) rfl
    | close =>
      refine ⟨none, ?_, rfl⟩
      unfold effect
      rw [recorded]
      rfl
    | getRecord => exact .of_turns (d.turns_getRecord m i recorded) rfl
    | getBytes => exact .of_turns (d.turns_getBytes m i recorded) rfl
    | putRecord => exact .of_turns (d.turns_putData m i recorded a true) rfl
    | putBytes => exact .of_turns (d.turns_putData m i recorded a false) rfl
    | status => exact .of_turns (.still rfl) rfl
    | point => exact .of_turns (d.turns_point m i recorded) rfl
    | note =>
      refine .of_turns ?_ rfl
      show d.Turns (d.note m i c).device i _
      rw [note_device]
      exact .still rfl
    | file command => exact serves_file d m i command
    | unknown => exact .of_turns (.still rfl) rfl
  | none =>
    have asked : (d.onTarget m i fun rest => (fileStatus d.store rest, d.store)).device = d := by
      rw [onTarget_device]
      cases targetText m i <;> rfl
    cases command with
    | opening => exact .of_turns (d.turns_opening m i) rfl
    | file command => exact serves_file d m i command
    | close =>
      refine ⟨none, asked.trans ?_, rfl⟩
      unfold effect
      rw [recorded]
      exact (recorded ▸ d.setChannel_channel i).symm
    | _ =>
      refine .of_turns ?_ rfl
      dsimp only
      rw [asked]
      exact .still rfl

theorem serves_reply (t : Task) (d : FileDevice) (m : Memory) (i : ChannelIndex) (a : UInt8) :
    t.Serves d (t.reply d m i a).device m i := by
  cases t with
  | central command => exact serves_carryOut d m i a command
  | putByte => exact .of_turns (d.turns_putReply m i a) rfl

end Task

namespace Entry

variable {e : Entry} {d : FileDevice} {i : ChannelIndex} {t : Task}

def effect (e : Entry) (d : FileDevice) : Effect :=
  (e.task? d).elim .keep fun x => x.2.effect d e.memory x.1

theorem effect_of_task (taken : e.task? d = some (i, t)) : e.effect d = t.effect d e.memory i := by
  rw [effect, taken, Option.elim_some]

theorem serves_serve (taken : e.task? d = some (i, t)) :
    t.Serves d (e.serve d).device e.memory i := by
  rw [(reports_serve taken).device]
  exact t.serves_reply d e.memory i e.cpu.regs.a

theorem store_serve (e : Entry) (d : FileDevice) :
    (e.serve d).device.store = (e.effect d).on d.store := by
  cases taken : e.task? d with
  | none =>
    rw [(leftAlone_serve taken).device, effect, taken]
    rfl
  | some task =>
    obtain ⟨c, device, -⟩ := serves_serve taken
    rw [device, effect_of_task taken]

end Entry

end Atari800XL.FileDevice
