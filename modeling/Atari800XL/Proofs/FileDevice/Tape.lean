import Atari800XL.Proofs.FileDevice.Block
import Atari800XL.Proofs.FileDevice.Reading

/-! An open file as bytes with a cursor. Reading starts at the cursor; what is put goes over the byte
at the cursor or behind the last one; the cursor never leaves the bytes and the place behind them.
What a channel does with its contents and its position is this and nothing else. -/

namespace Atari800XL.FileDevice

/-- Bytes, and a place among them or right behind them. -/
@[ext]
structure Tape where
  array : List UInt8
  cursor : Nat
  inside : cursor ≤ array.length

namespace Tape

variable (t : Tape)

def rest : List UInt8 := t.array.drop t.cursor

theorem inside_skip (n : Nat) : t.cursor + min n t.rest.length ≤ t.array.length := by
  have := t.inside
  have length : t.rest.length = t.array.length - t.cursor := List.length_drop
  omega

def skip (n : Nat) : Tape where
  array := t.array
  cursor := t.cursor + min n t.rest.length
  inside := t.inside_skip n

def written (byte : UInt8) : List UInt8 :=
  if t.cursor < t.array.length then t.array.set t.cursor byte else t.array ++ [byte]

theorem inside_written (byte : UInt8) : t.cursor + 1 ≤ (t.written byte).length := by
  have := t.inside
  unfold written
  split
  · rw [List.length_set]
    omega
  · rw [List.length_append, List.length_singleton]
    omega

def putByte (byte : UInt8) : Tape where
  array := t.written byte
  cursor := t.cursor + 1
  inside := t.inside_written byte

def put (bytes : List UInt8) : Tape := bytes.foldl putByte t

def seek (offset : Nat) : Option Tape :=
  if inside : offset ≤ t.array.length then some { array := t.array, cursor := offset, inside }
  else none

def atStart (array : List UInt8) : Tape := { array, cursor := 0, inside := Nat.zero_le _ }

def atEnd (array : List UInt8) : Tape := { array, cursor := array.length, inside := Nat.le_refl _ }

theorem putByte_atEnd (array : List UInt8) (byte : UInt8) :
    (atEnd array).putByte byte = atEnd (array ++ [byte]) := by
  have written : (atEnd array).written byte = array ++ [byte] := if_neg (Nat.lt_irrefl _)
  have behind : array.length + 1 = (array ++ [byte]).length := by
    rw [List.length_append, List.length_singleton]
  exact Tape.ext written behind

theorem put_atEnd (array bytes : List UInt8) :
    (atEnd array).put bytes = atEnd (array ++ bytes) := by
  induction bytes generalizing array with
  | nil => rw [List.append_nil]; rfl
  | cons byte bytes ih =>
    rw [put, List.foldl_cons, putByte_atEnd]
    exact (ih _).trans (by rw [List.append_assoc]; rfl)

def channel (name : String) (mode : OpenMode) : Channel where
  name
  mode
  content := t.array.toByteArray
  position := t.cursor

variable {name : String} {mode : OpenMode}

@[simp] theorem rest_channel : (t.channel name mode).rest = t.rest := by
  rw [Channel.rest, channel, List.data_toByteArray]
  rfl

theorem nextByte_channel :
    (t.channel name mode).nextByte =
      t.rest.head?.map fun byte => (byte, (t.skip 1).channel name mode) := by
  rw [Channel.nextByte_eq, rest_channel]
  cases left : t.rest with
  | nil => rfl
  | cons byte rest =>
    have one : t.cursor + min 1 t.rest.length = t.cursor + 1 := by
      rw [left, List.length_cons]
      omega
    have next : (t.skip 1).channel name mode =
        { t.channel name mode with position := t.cursor + 1 } :=
      congrArg (fun position => { t.channel name mode with position }) one
    rw [next]
    rfl

theorem getBytes_channel (count : Nat) :
    (t.channel name mode).getBytes count =
      ({ bytes := (t.rest.take count).toByteArray
         status := if count ≤ t.rest.length then .success else .endOfFile },
        (t.skip count).channel name mode) := by
  rw [Channel.getBytes_eq, rest_channel]
  rfl

theorem getRecord_channel (max : Nat) :
    (t.channel name mode).getRecord max =
      ({ bytes := (recordPart t.rest max).toByteArray, status := recordStatus t.rest max },
        (t.skip (nextRecord t.rest).length).channel name mode) := by
  rw [Channel.getRecord_eq, rest_channel]
  rfl

theorem put_channel (byte : UInt8) :
    (t.channel name mode).put byte = (t.putByte byte).channel name mode := by
  have size : t.array.toByteArray.size = t.array.length := List.size_toByteArray
  rw [Channel.put, channel]
  dsimp only
  split
  · rename_i inside
    have content : t.array.toByteArray.set t.cursor byte inside = (t.written byte).toByteArray := by
      apply ByteArray.ext
      rw [written, if_pos (size ▸ inside)]
      simp
    rw [content]
    rfl
  · rename_i outside
    have content : t.array.toByteArray.push byte = (t.written byte).toByteArray := by
      rw [written, if_neg (size ▸ outside), List.toByteArray_append,
        ByteArray.append_toByteArray_singleton]
    rw [content]
    rfl

theorem seek_channel (offset : Nat) :
    (t.channel name mode).seek offset = (t.seek offset).map (·.channel name mode) := by
  have size : (t.channel name mode).content.size = t.array.length := List.size_toByteArray
  rw [Channel.seek, size, seek]
  split <;> rfl

theorem putFrom_channel (name : String) (mode : OpenMode) (m : Memory) (address : UInt16)
    (written n : Nat) :
    putFrom m false (t.channel name mode) address written n =
      ((t.put (m.peekAll address n)).channel name mode, written + n, false) := by
  induction n generalizing t address written with
  | zero => rfl
  | succ n ih =>
    rw [putFrom, put_channel, Bool.false_and, if_neg Bool.false_ne_true, ih, Nat.add_assoc,
      Nat.add_comm 1]
    rfl

theorem putRecord_channel (name : String) (mode : OpenMode) (m : Memory) (address : UInt16)
    (written n : Nat) :
    let put := putFrom m true (t.channel name mode) address written n
    (if put.2.2 then put.1 else put.1.put eol) =
      (t.put (nextRecord (m.peekAll address n))).channel name mode := by
  induction n generalizing t address written with
  | zero => exact t.put_channel eol
  | succ n ih =>
    rw [putFrom, put_channel, Bool.true_and, Memory.peekAll]
    by_cases ends : m.peek address = eol
    · rw [if_pos (beq_iff_eq.2 ends), ends, nextRecord_eol]
      rfl
    · rw [if_neg (by simpa using ends), nextRecord_cons ends]
      exact ih _ _ _

end Tape

inductive Action
  | getByte
  | getBytes (count : Nat)
  | getRecord (max : Nat)
  | put (bytes : List UInt8)
  | note
  | point (offset : Nat)

def Action.room : Action → Nat
  | .getBytes count => count
  | .getRecord max => max
  | _ => 0

inductive Found
  | nothing
  | inAccumulator (byte : UInt8)
  | inBuffer (bytes : List UInt8)
  | inBlock (offset : Nat)

structure Answer where
  status : Status
  found : Found := .nothing

def Action.refusal (mode : OpenMode) : Action → Option Status
  | .getByte | .getBytes _ | .getRecord _ => if mode.readable then none else some .writeOnly
  | .put _ => if mode.writable then none else some .readOnly
  | .note | .point _ => none

namespace Tape

def act (t : Tape) : Action → Answer × Tape
  | .getByte =>
    match t.rest with
    | [] => ({ status := .endOfFile }, t)
    | byte :: _ => ({ status := .success, found := .inAccumulator byte }, t.skip 1)
  | .getBytes count =>
    ({ status := if count ≤ t.rest.length then .success else .endOfFile
       found := .inBuffer (t.rest.take count) }, t.skip count)
  | .getRecord max =>
    ({ status := recordStatus t.rest max, found := .inBuffer (recordPart t.rest max) },
      t.skip (nextRecord t.rest).length)
  | .put bytes => ({ status := .success }, t.put bytes)
  | .note => ({ status := .success, found := .inBlock t.cursor }, t)
  | .point offset =>
    match t.seek offset with
    | none => ({ status := .endOfFile }, t)
    | some t' => ({ status := .success }, t')

def perform (mode : OpenMode) (t : Tape) (action : Action) : Answer × Tape :=
  match action.refusal mode with
  | some status => ({ status }, t)
  | none => t.act action

def performAll (mode : OpenMode) (t : Tape) (actions : List Action) : Tape :=
  actions.foldl (fun t action => (t.perform mode action).2) t

theorem length_le_putByte (t : Tape) (byte : UInt8) :
    t.array.length ≤ (t.putByte byte).array.length := by
  show t.array.length ≤ (t.written byte).length
  unfold written
  split
  · exact (List.length_set).ge
  · rw [List.length_append]
    exact Nat.le_add_right _ _

theorem length_le_put (t : Tape) (bytes : List UInt8) :
    t.array.length ≤ (t.put bytes).array.length := by
  induction bytes generalizing t with
  | nil => exact Nat.le_refl _
  | cons byte bytes ih => exact (t.length_le_putByte byte).trans (ih (t.putByte byte))

theorem length_le_perform (t : Tape) (mode : OpenMode) (action : Action) :
    t.array.length ≤ (t.perform mode action).2.array.length := by
  unfold perform
  cases action.refusal mode with
  | some status => exact Nat.le_refl _
  | none =>
    cases action with
    | put bytes => exact t.length_le_put bytes
    | getBytes count | getRecord max | note => exact Nat.le_refl _
    | getByte =>
      dsimp only [act]
      split <;> exact Nat.le_refl _
    | point offset =>
      dsimp only [act, seek]
      split_ifs <;> exact Nat.le_refl _

theorem length_le_performAll (t : Tape) (mode : OpenMode) (actions : List Action) :
    t.array.length ≤ (t.performAll mode actions).array.length := by
  induction actions generalizing t with
  | nil => exact Nat.le_refl _
  | cons action actions ih => exact (t.length_le_perform mode action).trans (ih _)

theorem perform_point {t : Tape} {offset : Nat} (inside : offset ≤ t.array.length)
    (mode : OpenMode) :
    t.perform mode (.point offset) =
      ({ status := .success }, { array := t.array, cursor := offset, inside }) := by
  show t.act (.point offset) = _
  rw [act, seek, dif_pos inside]

theorem length_le_room {t : Tape} {mode : OpenMode} {action : Action} {bytes : List UInt8}
    (found : (t.perform mode action).1.found = .inBuffer bytes) : bytes.length ≤ action.room := by
  unfold perform at found
  cases refused : action.refusal mode with
  | some status => simp only [refused, reduceCtorEq] at found
  | none =>
    simp only [refused] at found
    cases action with
    | getBytes count =>
      cases found
      exact List.length_take_le _ _
    | getRecord max =>
      cases found
      exact length_recordPart_le _ _
    | put bytes | note => cases found
    | getByte | point offset =>
      unfold act at found
      dsimp only at found
      split at found <;> cases found

end Tape

namespace Found

def leave (b : Iocb) (m : Memory) : Found → Memory
  | .nothing | .inAccumulator _ => m
  | .inBuffer bytes => b.deliver m bytes.toByteArray
  | .inBlock offset => b.setOffset m offset

def accumulator : Found → Option UInt8
  | .inAccumulator byte => some byte
  | _ => none

end Found

structure Reply.Answers (r : Reply) (d : FileDevice) (m : Memory) (i : ChannelIndex) (name : String)
    (mode : OpenMode) (answer : Answer × Tape) : Prop where
  device : r.device = d.setChannel i (some (answer.2.channel name mode))
  memory : r.memory = answer.1.found.leave (.ofChannel i) m
  status : r.status = answer.1.status
  accumulator : r.accumulator = answer.1.found.accumulator

def outgoing (b : Iocb) (m : Memory) (a : UInt8) : List UInt8 :=
  if b.bufferLength m = 0 then [a]
  else m.peekAll (b.bufferAddress m) (b.bufferLength m).toNat

def outgoingRecord (b : Iocb) (m : Memory) (a : UInt8) : List UInt8 :=
  if b.bufferLength m = 0 then [a]
  else nextRecord (m.peekAll (b.bufferAddress m) (b.bufferLength m).toNat)

def Action.ofLength (length : UInt16) : Action :=
  if length = 0 then .getByte else .getBytes length.toNat

theorem Action.refusal_ofLength (mode : OpenMode) (length : UInt16) :
    (Action.ofLength length).refusal mode = if mode.readable then none else some .writeOnly := by
  unfold ofLength
  split <;> rfl

theorem toNat_eq_zero_iff {x : UInt16} : x.toNat = 0 ↔ x = 0 := UInt16.toNat_inj (b := 0)

section

variable {d : FileDevice} {m : Memory} {i : ChannelIndex} {t : Tape} {name : String}
  {mode : OpenMode} (recorded : d.channel i = some (t.channel name mode))
include recorded

theorem setChannel_same : d = d.setChannel i (some (t.channel name mode)) := by
  rw [← recorded, setChannel_channel]

theorem Reply.Answers.still (status : Status) :
    Reply.Answers { device := d, memory := m, status } d m i name mode ({ status }, t) :=
  ⟨setChannel_same recorded, rfl, rfl, rfl⟩

theorem Reply.Answers.guarded {action : Action} {allowed : Bool} {status : Status} {r : Reply}
    (refusal : action.refusal mode = if allowed then none else some status)
    (done : r.Answers d m i name mode (t.act action)) :
    Reply.Answers (if (!allowed) = true then { device := d, memory := m, status } else r) d m i name
      mode (t.perform mode action) := by
  rw [Tape.perform, refusal]
  cases allowed with
  | false => exact .still recorded status
  | true => exact done

theorem answers_getBytes :
    (d.getBytes m i (t.channel name mode)).Answers d m i name mode
      (t.perform mode (.ofLength ((Iocb.ofChannel i).bufferLength m))) := by
  refine .guarded recorded (Action.refusal_ofLength _ _) ?_
  rw [Action.ofLength]
  by_cases single : (Iocb.ofChannel i).bufferLength m = 0
  · rw [if_pos single, if_pos (toNat_eq_zero_iff.2 single), t.nextByte_channel, Tape.act]
    cases t.rest with
    | nil => exact .still recorded _
    | cons byte rest => exact ⟨rfl, rfl, rfl, rfl⟩
  · rw [if_neg single, if_neg (mt toNat_eq_zero_iff.1 single), t.getBytes_channel]
    exact ⟨rfl, rfl, rfl, rfl⟩

theorem answers_getRecord :
    (d.getRecord m i (t.channel name mode)).Answers d m i name mode
      (t.perform mode (.getRecord ((Iocb.ofChannel i).bufferLength m).toNat)) := by
  unfold FileDevice.getRecord
  dsimp only
  rw [t.getRecord_channel]
  exact .guarded recorded rfl ⟨rfl, rfl, rfl, rfl⟩

theorem answers_putBytes (a : UInt8) :
    (d.putData m i (t.channel name mode) a false).Answers d m i name mode
      (t.perform mode (.put (outgoing (.ofChannel i) m a))) := by
  refine .guarded recorded rfl ?_
  rw [outgoing]
  by_cases single : (Iocb.ofChannel i).bufferLength m = 0
  · rw [if_pos single, if_pos (toNat_eq_zero_iff.2 single), t.put_channel]
    exact ⟨setChannel_setChannel d i none _, rfl, rfl, rfl⟩
  · rw [if_neg single, if_neg (mt toNat_eq_zero_iff.1 single), t.putFrom_channel]
    exact ⟨setChannel_setChannel d i none _, rfl, rfl, rfl⟩

theorem answers_putRecord (a : UInt8) :
    (d.putData m i (t.channel name mode) a true).Answers d m i name mode
      (t.perform mode (.put (outgoingRecord (.ofChannel i) m a))) := by
  refine .guarded recorded rfl ?_
  rw [outgoingRecord]
  by_cases single : (Iocb.ofChannel i).bufferLength m = 0
  · rw [if_pos single, if_pos (toNat_eq_zero_iff.2 single), t.put_channel]
    exact ⟨setChannel_setChannel d i none _, rfl, rfl, rfl⟩
  · rw [if_neg single, if_neg (mt toNat_eq_zero_iff.1 single)]
    have record := t.putRecord_channel name mode m
      ((Iocb.ofChannel i).bufferAddress m) 0 ((Iocb.ofChannel i).bufferLength m).toNat
    generalize putFrom m true (t.channel name mode) _ 0 _ = put at record ⊢
    obtain ⟨c, written, ended⟩ := put
    have device := (setChannel_setChannel d i none _).trans
      (congrArg (fun c => d.setChannel i (some c)) record)
    cases ended <;> exact ⟨device, rfl, rfl, rfl⟩

theorem answers_point (file : mode ≠ .directory) :
    (d.point m i (t.channel name mode)).Answers d m i name mode
      (t.perform mode (.point ((Iocb.ofChannel i).offset m))) := by
  have kind : (t.channel name mode).mode = mode := rfl
  generalize offset : (Iocb.ofChannel i).offset m = k
  have act : t.perform mode (.point k) = t.act (.point k) := rfl
  rw [act, point, kind, if_neg file, offset, t.seek_channel, Tape.act]
  cases t.seek k with
  | none => exact .still recorded _
  | some t' => exact ⟨rfl, rfl, rfl, rfl⟩

theorem answers_note (file : mode ≠ .directory) :
    (d.note m i (t.channel name mode)).Answers d m i name mode (t.perform mode .note) := by
  have kind : (t.channel name mode).mode = mode := rfl
  rw [note, kind, if_neg file]
  exact ⟨setChannel_same recorded, rfl, rfl, rfl⟩

end

end Atari800XL.FileDevice
