import Atari800XL.Proofs.Disk.Edits

namespace Atari800XL.Disk

structure Image.Rewritten (old new : Image) (sector : UInt16) (payload : ByteArray) : Prop where
  name : new.name = old.name
  density : new.density = old.density
  writable : new.writable = old.writable
  size : new.bytes.size = old.bytes.size
  header : new.bytes.extract 0 headerSize = old.bytes.extract 0 headerSize
  written : new.readSector sector = some payload
  others : ∀ other, other ≠ sector → new.readSector other = old.readSector other

theorem Image.rewritten_overwrite {image : Image} {sector : UInt16} {start : Nat}
    {payload : ByteArray} (place : image.sector? sector = some (start, payload.size)) :
    image.Rewritten (image.overwrite start payload) sector payload where
  name := rfl
  density := rfl
  writable := rfl
  size := size_overwrite (sector?_eq_some_iff.1 place).2.2
  header := header_overwrite place
  written := readSector_overwrite place
  others := fun _ ne => readSector_overwrite_of_ne place ne

structure Rack.Target (r : Rack) where
  device : Nat
  index : Nat
  image : Image
  sector : UInt16
  length : Nat
  low : 1 ≤ device
  high : device ≤ slotCount
  drive : r.drive device = some index
  stored : r.images[index]? = some image
  writable : image.writable = true
  sectorLength : image.sectorLength sector = some length

namespace Rack

variable {r : Rack}

theorem Target.mounted (t : r.Target) : r.mounted t.device = some t.image :=
  mounted_eq_some_iff.2 ⟨t.index, t.drive, t.stored⟩

theorem Target.replace_eq (t : r.Target) (new : Image) :
    r.replace t.device new = { r with images := r.images.setIfInBounds t.index new } := by
  rw [replace, t.drive]

theorem Target.mounted_replace (t : r.Target) (new : Image) :
    (r.replace t.device new).mounted t.device = some new := by
  have inside := (Array.getElem?_eq_some_iff.1 t.stored).1
  rw [t.replace_eq]
  refine mounted_eq_some_iff.2 ⟨t.index, t.drive, ?_⟩
  exact Array.getElem?_setIfInBounds_self_of_lt inside

theorem Target.exists_place (t : r.Target) :
    ∃ start, t.image.sector? t.sector = some (start, t.length) := by
  obtain ⟨⟨start, length⟩, place, rfl⟩ := Option.map_eq_some_iff.1 t.sectorLength
  exact ⟨start, place⟩

theorem Target.answer_write (t : r.Target) {code : UInt8} {payload : ByteArray}
    (writes : code = 0x57 ∨ code = 0x50) (size : payload.size = t.length) :
    ∃ p new, Sio.answer t.image t.device (Command.ofByte? code) t.sector =
        { replies := [.ack], phase := .data p } ∧
      p.device = t.device ∧ p.length = payload.size ∧
      Sio.carryOut t.image p payload = (some new, true) ∧
      t.image.Rewritten new t.sector payload := by
  obtain ⟨start, place⟩ := t.exists_place
  rw [← size] at place
  have written := Image.writeSector_eq_overwrite t.writable place
  have rewritten := Image.rewritten_overwrite place
  rcases writes with rfl | rfl
  · refine ⟨⟨t.device, .write, t.sector, t.length⟩, _, ?_, rfl, size.symm, ?_, rewritten⟩
    · show Sio.answer t.image t.device (some (.data .write)) t.sector = _
      rw [Sio.answer, t.sectorLength]
    · rw [Sio.carryOut, written]
  · refine ⟨⟨t.device, .put, t.sector, t.length⟩, _, ?_, rfl, size.symm, ?_, rewritten⟩
    · show Sio.answer t.image t.device (some (.data .put)) t.sector = _
      rw [Sio.answer, t.sectorLength]
    · rw [Sio.carryOut, written]

end Rack

theorem Sio.answer_read {image : Image} {device : Nat} {sector : UInt16} {payload : ByteArray}
    (read : image.readSector sector = some payload) :
    answer image device (Command.ofByte? 0x52) sector =
      { replies := .ack :: .complete :: Reply.frame payload } := by
  show answer image device (some .read) sector = _
  rw [answer, read]

namespace Drives

def answer? (d : Drives) : Op → Option (List Reply)
  | .byte value =>
    let step := d.sio.putByte d.rack value
    if step.renewed then some step.sio.replies else none
  | _ => none

def answers (d : Drives) : List Op → List (List Reply)
  | [] => []
  | op :: ops => (d.answer? op).toList ++ (d.perform op).answers ops

def Op.popped (n : Nat) : Op → Nat
  | .byte _ => 0
  | .pop => n + 1
  | _ => n

def popped (ops : List Op) : Nat := ops.foldl Op.popped 0

/-- The run leads to one answer, of which it leaves what is not taken at once. -/
structure Queues (d : Drives) (ops : List Op) (answer : List Reply) : Prop where
  answers : d.answers ops = [answer]
  replies : (d.performAll ops).sio.replies = answer.drop (popped ops)

/-- The operations are those of the script, with bytes of answers taken in between. -/
def Interleaves (script ops : List Op) : Prop := ops.filter (· ≠ .pop) = script

instance (script ops : List Op) : Decidable (Interleaves script ops) :=
  inferInstanceAs (Decidable (_ = _))

def sendFrame (payload : ByteArray) : List Op := (sealed payload).data.toList.map .byte

def sendCommand (device : Nat) (code : UInt8) (sector : UInt16) : List Op :=
  .line true :: (sendFrame (commandFrame device code sector) ++ [.line false])

def taking (d : Drives) (n : Nat) : Drives :=
  { d with sio := { d.sio with replies := d.sio.replies.drop n } }

variable {d : Drives} {ops more : List Op} {payload : ByteArray}

theorem answers_append (d : Drives) (ops more : List Op) :
    d.answers (ops ++ more) = d.answers ops ++ (d.performAll ops).answers more := by
  induction ops generalizing d with
  | nil => rfl
  | cons op ops ih =>
    rw [List.cons_append, answers, answers, ih, List.append_assoc]
    rfl

theorem performAll_cons (d : Drives) (op : Op) (ops : List Op) :
    d.performAll (op :: ops) = (d.perform op).performAll ops := rfl

theorem perform_pop (d : Drives) : d.perform .pop = d.taking 1 := by
  obtain ⟨⟨line, phase, received, replies⟩, rack⟩ := d
  cases replies <;> rfl

theorem taking_taking (d : Drives) (m n : Nat) : (d.taking m).taking n = d.taking (m + n) := by
  simp only [taking, List.drop_drop]

theorem sendFrame_eq (payload : ByteArray) :
    sendFrame payload = payload.data.toList.map .byte ++ [.byte (checksum payload)] := by
  rw [sendFrame, sealed, ByteArray.data_push, Array.toList_push, List.map_append]
  rfl

theorem perform_line_taking (d : Drives) (asserted : Bool) (n : Nat) :
    (d.taking n).perform (.line asserted) = (d.perform (.line asserted)).taking n := by
  obtain ⟨⟨line, phase, received, replies⟩, rack⟩ := d
  cases asserted <;> cases line <;> rfl

theorem Interleaves.append_cases {script rest ops : List Op}
    (h : Interleaves (script ++ rest) ops) :
    ∃ before behind, ops = before ++ behind ∧ Interleaves script before ∧
      Interleaves rest behind :=
  List.filter_eq_append_iff.1 h

theorem Interleaves.mem {op : Op} {script ops : List Op} (h : Interleaves script ops)
    (mem : op ∈ script) : op ∈ ops := by
  rw [← h] at mem
  exact (List.mem_filter.1 mem).1

theorem Interleaves.cons_cases {op : Op} {script ops : List Op}
    (h : Interleaves (op :: script) ops) :
    ∃ pops behind, ops = pops ++ op :: behind ∧ Interleaves [] pops ∧
      Interleaves script behind := by
  obtain ⟨pops, behind, rfl, all, -, rest⟩ := List.filter_eq_cons_iff.1 h
  exact ⟨pops, behind, rfl, List.filter_eq_nil_iff.2 all, rest⟩

theorem performAll_pops (d : Drives) (h : Interleaves [] ops) :
    d.performAll ops = d.taking (ops.count .pop) ∧ d.answers ops = [] := by
  have all : ∀ op ∈ ops, op = .pop := by simpa using List.filter_eq_nil_iff.1 h
  clear h
  induction ops generalizing d with
  | nil => exact ⟨rfl, rfl⟩
  | cons op ops ih =>
    obtain ⟨rfl, rest⟩ := List.forall_mem_cons.1 all
    obtain ⟨after, answers⟩ := ih (d.perform .pop) rest
    rw [performAll_cons, after, perform_pop, taking_taking, List.count_cons_self, Nat.add_comm]
    exact ⟨rfl, answers⟩

theorem performAll_line (d : Drives) {asserted : Bool} (h : Interleaves [.line asserted] ops) :
    d.performAll ops = (d.perform (.line asserted)).taking (ops.count .pop) ∧
      d.answers ops = [] := by
  obtain ⟨pops, behind, rfl, before, after⟩ := h.cons_cases
  obtain ⟨taken, silent⟩ := d.performAll_pops before
  obtain ⟨taken', silent'⟩ :=
    performAll_pops ((d.taking (pops.count .pop)).perform (.line asserted)) after
  constructor
  · rw [performAll_append, performAll_cons, taken, taken', perform_line_taking, taking_taking,
      List.count_append,
      List.count_cons_of_ne (show Op.line asserted ≠ .pop from nofun)]
  · rw [answers_append, silent, taken, answers, silent']
    rfl

def collecting (d : Drives) (value : UInt8) : Drives :=
  { d with sio := { d.sio with received := d.sio.received.push value } }

theorem perform_byte_of_short {value : UInt8} (listens : d.sio.listens = true)
    (short : d.sio.received.size + 1 ≠ d.sio.frameSize) :
    d.perform (.byte value) = d.collecting value ∧ d.answer? (.byte value) = none := by
  rw [perform, answer?, Sio.putByte_of_short listens short]
  exact ⟨rfl, rfl⟩

theorem performAll_short {bytes : List UInt8} (h : Interleaves (bytes.map .byte) ops)
    (listens : d.sio.listens = true)
    (short : d.sio.received.size + bytes.length < d.sio.frameSize) :
    (∃ replies, d.performAll ops =
      { d with sio := { d.sio with received := d.sio.received ++ bytes.toByteArray, replies } }) ∧
      d.answers ops = [] := by
  induction bytes generalizing d ops with
  | nil =>
    obtain ⟨taken, silent⟩ := d.performAll_pops h
    refine ⟨⟨d.sio.replies.drop (ops.count .pop), ?_⟩, silent⟩
    rw [taken, List.toByteArray_nil, ByteArray.append_empty]
    rfl
  | cons value bytes ih =>
    obtain ⟨pops, behind, rfl, before, rest⟩ := h.cons_cases
    obtain ⟨taken, silent⟩ := d.performAll_pops before
    rw [List.length_cons] at short
    -- What is taken in between is of the answers, not of the frame.
    let e := d.taking (pops.count .pop)
    have incomplete : d.sio.received.size + 1 ≠ d.sio.frameSize := by omega
    obtain ⟨collected, none⟩ := @perform_byte_of_short e value listens incomplete
    have grown : d.sio.received ++ (value :: bytes).toByteArray =
        d.sio.received.push value ++ bytes.toByteArray := by
      rw [← ByteArray.append_toByteArray_singleton, ByteArray.append_assoc,
        ← List.toByteArray_append]
      rfl
    have further : (e.collecting value).sio.received.size + bytes.length < d.sio.frameSize := by
      change (d.sio.received.push value).size + bytes.length < d.sio.frameSize
      rw [ByteArray.size_push]
      omega
    obtain ⟨⟨replies, after⟩, silent'⟩ := @ih (e.collecting value) behind rest listens further
    constructor
    · refine ⟨replies, ?_⟩
      rw [performAll_append, taken, performAll_cons, collected, after, grown]
      rfl
    · rw [answers_append, silent, taken, answers, none, collected, silent']
      rfl

theorem foldl_popped (h : ∀ value, .byte value ∉ ops) (n : Nat) :
    ops.foldl Op.popped n = n + ops.count .pop := by
  induction ops generalizing n with
  | nil => rfl
  | cons op ops ih =>
    rw [List.foldl_cons, ih (fun value mem => h value (List.mem_cons_of_mem op mem))]
    cases op with
    | byte value => exact absurd List.mem_cons_self (h value)
    | pop =>
      rw [List.count_cons_self]
      exact Nat.add_right_comm n 1 _
    | _ => exact congrArg (n + ·) (List.count_cons_of_ne (by simp)).symm

theorem popped_append (h : ∀ value, .byte value ∉ more) :
    popped (ops ++ more) = popped ops + more.count .pop := by
  rw [popped, List.foldl_append, foldl_popped h, popped]

theorem popped_append_of_mem {value : UInt8} (h : .byte value ∈ more) :
    popped (ops ++ more) = popped more := by
  obtain ⟨before, behind, rfl⟩ := List.append_of_mem h
  rw [popped, popped, List.foldl_append, List.foldl_append, List.foldl_append]
  rfl

theorem not_mem_of_interleaves {lines : List Bool} (h : Interleaves (lines.map .line) ops)
    (value : UInt8) : .byte value ∉ ops := by
  intro mem
  have kept : Op.byte value ∈ lines.map Op.line := by
    rw [← h]
    exact List.mem_filter.2 ⟨mem, rfl⟩
  simp at kept

theorem toByteArray_data (payload : ByteArray) : payload.data.toList.toByteArray = payload := by
  apply ByteArray.ext
  rw [List.data_toByteArray]

def Finishes (d : Drives) (frame : ByteArray) (next : Drives) : Prop :=
  ∀ s : Sio, s.phase = d.sio.phase → s.commandLine = d.sio.commandLine →
    let step := s.finish d.rack frame
    step.sio = next.sio ∧ step.rack = next.rack ∧ step.renewed = true

theorem performAll_last {value : UInt8} {next : Drives} (h : Interleaves [.byte value] ops)
    (listens : d.sio.listens = true) (full : d.sio.received.size + 1 = d.sio.frameSize)
    (finishes : d.Finishes (d.sio.received.push value) next) :
    d.performAll ops = next.taking (popped ops) ∧ d.answers ops = [next.sio.replies] := by
  obtain ⟨pops, behind, rfl, before, after⟩ := h.cons_cases
  obtain ⟨taken, silent⟩ := d.performAll_pops before
  obtain ⟨taken', silent'⟩ := next.performAll_pops after
  let e := d.taking (pops.count .pop)
  obtain ⟨sio, rack, renewed⟩ := finishes e.sio rfl rfl
  have put : e.sio.putByte e.rack value = e.sio.finish d.rack (d.sio.received.push value) :=
    Sio.putByte_of_full listens full
  have done : e.perform (.byte value) = next := by
    rw [perform, put, sio, rack]
  have answered : e.answer? (.byte value) = some next.sio.replies := by
    rw [answer?, put, renewed, sio]
    rfl
  have counted : popped (pops ++ .byte value :: behind) = behind.count .pop := by
    rw [popped_append_of_mem List.mem_cons_self]
    exact (foldl_popped (@not_mem_of_interleaves behind [] after) 0).trans (Nat.zero_add _)
  constructor
  · rw [performAll_append, taken, performAll_cons, done, taken', counted]
  · rw [answers_append, silent, taken, answers, answered, done, silent']
    rfl

theorem performAll_frame {next : Drives} (h : Interleaves (sendFrame payload) ops)
    (listens : d.sio.listens = true) (empty : d.sio.received = ByteArray.empty)
    (size : payload.size + 1 = d.sio.frameSize) (finishes : d.Finishes (sealed payload) next) :
    d.performAll ops = next.taking (popped ops) ∧ d.answers ops = [next.sio.replies] := by
  -- All bytes but the checksum are collected, and that one completes the frame.
  rw [sendFrame_eq] at h
  obtain ⟨before, last, rfl, first, rest⟩ := h.append_cases
  have short : d.sio.received.size + payload.data.toList.length < d.sio.frameSize := by
    rw [empty, ByteArray.size_empty, Array.length_toList, ByteArray.size_data]
    omega
  obtain ⟨⟨replies, collected⟩, silent⟩ := performAll_short first listens short
  rw [empty, ByteArray.empty_append, toByteArray_data] at collected
  let e : Drives := { d with sio := { d.sio with received := payload, replies } }
  obtain ⟨done, answered⟩ := @performAll_last e last _ _ rest listens size finishes
  constructor
  · rw [performAll_append, collected, done,
      popped_append_of_mem (rest.mem List.mem_cons_self)]
  · rw [answers_append, silent, collected, answered]
    rfl

section

variable {device : Nat} {image : Image} {code : UInt8} {sector : UInt16} {p : Pending}

theorem finishes_command (phase : d.sio.phase = .command) (low : 1 ≤ device)
    (high : device ≤ slotCount) (mounted : d.rack.mounted device = some image) :
    let a := Sio.answer image device (Command.ofByte? code) sector
    d.Finishes (sealed (commandFrame device code sector))
      { sio := { commandLine := d.sio.commandLine, phase := a.phase, replies := a.replies }
        rack := a.image.elim d.rack (d.rack.replace device) } := by
  intro a s same line
  obtain ⟨sio, rack, renewed⟩ := Sio.finishCommand_sealed (s := s) low high mounted
  rw [Sio.finish, same, phase]
  exact ⟨by rw [sio, line], rack, renewed⟩

theorem finishes_data (phase : d.sio.phase = .data p) (size : payload.size = p.length)
    (mounted : d.rack.mounted p.device = some image) :
    let done := Sio.carryOut image p payload
    d.Finishes (sealed payload)
      { sio :=
          { commandLine := d.sio.commandLine
            replies := [.ack, if done.2 then .complete else .error] }
        rack := done.1.elim d.rack (d.rack.replace p.device) } := by
  intro done s same line
  obtain ⟨sio, rack, renewed⟩ := Sio.finishData_sealed (s := s) size mounted
  rw [Sio.finish, same, phase]
  exact ⟨by rw [sio, line], rack, renewed⟩

theorem performAll_sendCommand (released : d.sio.commandLine = false) (low : 1 ≤ device)
    (high : device ≤ slotCount) (mounted : d.rack.mounted device = some image)
    (h : Interleaves (sendCommand device code sector) ops) :
    let a := Sio.answer image device (Command.ofByte? code) sector
    d.performAll ops =
      taking
        { sio := { phase := a.phase, replies := a.replies }
          rack := a.image.elim d.rack (d.rack.replace device) }
        (popped ops) ∧
      d.answers ops = [a.replies] := by
  intro a
  have script : Interleaves
      ([.line true] ++ (sendFrame (commandFrame device code sector) ++ [.line false])) ops := h
  obtain ⟨assert, _, rfl, asserts, rest⟩ := script.append_cases
  obtain ⟨frame, release, rfl, frames, releases⟩ := rest.append_cases
  obtain ⟨asserted, silent⟩ := d.performAll_line asserts
  -- The line gives up what was being received: from here on it is not seen what was before.
  let e := (d.perform (.line true)).taking (assert.count .pop)
  have started : e.sio.commandLine = true ∧ e.sio.phase = .command ∧
      e.sio.received = ByteArray.empty := by
    simp [e, perform, taking, Sio.setCommandLine, released]
  obtain ⟨line, phase, empty⟩ := started
  have listens : e.sio.listens = true := by rw [Sio.listens, phase, line]
  have size : (commandFrame device code sector).size + 1 = e.sio.frameSize := by
    rw [Sio.frameSize, phase]
    rfl
  obtain ⟨done, answered⟩ :=
    performAll_frame frames listens empty size (finishes_command phase low high mounted)
  obtain ⟨released', silent'⟩ := performAll_line (e.performAll frame) releases
  have sent : .byte (checksum (commandFrame device code sector)) ∈ frame := by
    refine frames.mem ?_
    rw [sendFrame_eq]
    exact List.mem_append_right _ List.mem_cons_self
  have counted : popped (assert ++ (frame ++ release)) = popped frame + release.count .pop := by
    rw [popped_append_of_mem (List.mem_append_left _ sent),
      popped_append (@not_mem_of_interleaves release [false] releases)]
  constructor
  · rw [performAll_append, asserted, performAll_append, released', done, perform_line_taking,
      taking_taking, counted]
    rfl
  · rw [answers_append, silent, asserted, answers_append, answered, silent']
    rfl

theorem performAll_sendData (phase : d.sio.phase = .data p)
    (empty : d.sio.received = ByteArray.empty) (size : payload.size = p.length)
    (mounted : d.rack.mounted p.device = some image) (h : Interleaves (sendFrame payload) ops) :
    let done := Sio.carryOut image p payload
    let answer := [.ack, if done.2 then .complete else .error]
    d.performAll ops =
      taking
        { sio := { commandLine := d.sio.commandLine, replies := answer }
          rack := done.1.elim d.rack (d.rack.replace p.device) }
        (popped ops) ∧
      d.answers ops = [answer] := by
  have listens : d.sio.listens = true := by rw [Sio.listens, phase]
  have size' : payload.size + 1 = d.sio.frameSize := by rw [Sio.frameSize, phase, size]
  exact performAll_frame h listens empty size' (finishes_data phase size mounted)

end

/-- Write a sector and read it, from any state of the drives and with bytes of answers taken at any
time: each frame leads to its answer and no other, what is read is what was written, and nothing
else has changed. -/
theorem write_then_read (d : Drives) (t : d.rack.Target) (payload : ByteArray) (code : UInt8)
    (command data read : List Op) (released : d.sio.commandLine = false)
    (size : payload.size = t.length) (writes : code = 0x57 ∨ code = 0x50)
    (sendsCommand : Interleaves (sendCommand t.device code t.sector) command)
    (sendsData : Interleaves (sendFrame payload) data)
    (sendsRead : Interleaves (sendCommand t.device 0x52 t.sector) read) :
    let waiting := d.performAll command
    let written := waiting.performAll data
    let content := payload.data.toList ++ [checksum payload]
    d.Queues command [⟨0x41, 1800⟩] ∧ waiting.rack = d.rack ∧
      waiting.Queues data [⟨0x41, 1800⟩, ⟨0x43, 1500⟩] ∧
      (∃ new, t.image.Rewritten new t.sector payload ∧
        written.rack = { d.rack with images := d.rack.images.setIfInBounds t.index new }) ∧
      written.Queues read (⟨0x41, 1800⟩ :: ⟨0x43, 1500⟩ :: content.map (⟨·, 930⟩)) ∧
      (written.performAll read).rack = written.rack := by
  obtain ⟨p, new, waits, device, length, carriedOut, rewritten⟩ := t.answer_write writes size
  intro waiting written content
  obtain ⟨done, answered⟩ := performAll_sendCommand released t.low t.high t.mounted sendsCommand
  rw [waits] at done answered
  have rack : waiting.rack = d.rack := congrArg (·.rack) done
  have mounted : waiting.rack.mounted p.device = some t.image := by rw [rack, device, t.mounted]
  have phase : waiting.sio.phase = .data p := congrArg (·.sio.phase) done
  have empty : waiting.sio.received = ByteArray.empty := congrArg (·.sio.received) done
  obtain ⟨done', answered'⟩ := performAll_sendData phase empty length.symm mounted sendsData
  rw [carriedOut, device, rack, Option.elim_some] at done'
  rw [carriedOut] at answered'
  have rack' : written.rack = d.rack.replace t.device new := congrArg (·.rack) done'
  have mounted' : written.rack.mounted t.device = some new := by rw [rack', t.mounted_replace]
  have released' : written.sio.commandLine = false := by
    have line : waiting.sio.commandLine = false := congrArg (·.sio.commandLine) done
    exact (congrArg (·.sio.commandLine) done').trans line
  obtain ⟨done'', answered''⟩ :=
    performAll_sendCommand released' t.low t.high mounted' sendsRead
  rw [Sio.answer_read rewritten.written] at done'' answered''
  refine ⟨⟨answered, ?_⟩, rack, ⟨answered', ?_⟩, ⟨new, rewritten, ?_⟩, ⟨answered'', ?_⟩, ?_⟩
  · exact congrArg (·.sio.replies) done
  · exact congrArg (·.sio.replies) done'
  · rw [rack', t.replace_eq]
  · exact congrArg (·.sio.replies) done''
  · exact congrArg (·.rack) done''

def busy : Drives where
  sio :=
    { phase := .data ⟨1, .put, 7, 128⟩, received := ⟨#[0x31, 0x52]⟩, replies := [.nak] }
  rack :=
    { images := #[{ name := "A.ATR", bytes := zeros 144, density := .single, writable := true }]
      drives := #v[some 0, none, none, none, none, none, none, none] }

def busyTarget : busy.rack.Target where
  device := 1
  index := 0
  image := { name := "A.ATR", bytes := zeros 144, density := .single, writable := true }
  sector := 1
  length := 128
  low := by decide
  high := by decide
  drive := rfl
  stored := rfl
  writable := rfl
  sectorLength := by decide +kernel

theorem write_then_read_busy :
    let payload := zeros 128
    let command := .pop :: sendCommand 1 0x57 1
    let data := .pop :: sendFrame payload ++ [.pop]
    let read := sendCommand 1 0x52 1 ++ [.pop, .pop]
    busy.sio.commandLine = false ∧ payload.size = busyTarget.length ∧
      Interleaves (sendCommand 1 0x57 1) command ∧ Interleaves (sendFrame payload) data ∧
      Interleaves (sendCommand 1 0x52 1) read ∧
      ((busy.performAll command).performAll data).Queues read
        (⟨0x41, 1800⟩ :: ⟨0x43, 1500⟩ ::
          (payload.data.toList ++ [checksum payload]).map (⟨·, 930⟩)) := by
  intro payload command data read
  have size : payload.size = busyTarget.length := size_zeros 128
  have sendsCommand : Interleaves (sendCommand 1 0x57 1) command := by decide +kernel
  have sendsData : Interleaves (sendFrame payload) data := by decide +kernel
  have sendsRead : Interleaves (sendCommand 1 0x52 1) read := by decide +kernel
  have round := write_then_read busy busyTarget payload 0x57 command data read rfl size (.inl rfl)
    sendsCommand sendsData sendsRead
  exact ⟨rfl, size, sendsCommand, sendsData, sendsRead, round.2.2.2.2.1⟩

end Drives

end Atari800XL.Disk
