import Atari800XL.Proofs.FileDevice.Delivery
import Mathlib.Data.List.Forall2

namespace Atari800XL.FileDevice

section

variable {name : String} {bytes done rest record : List UInt8} {m : Memory}

theorem getRecord_reading (free : eol ∉ record) {max : Nat} (fits : record.length < max) :
    (reading name done (terminated record ++ rest)).getRecord max =
      ({ bytes := (terminated record).toByteArray, status := .success },
        reading name (done ++ terminated record) rest) := by
  have whole : (reading name done (terminated record ++ rest)).rest = record ++ eol :: rest :=
    rest_reading.trans (List.append_assoc _ _ _)
  have room : (terminated record).length ≤ max := (length_terminated record).trans_le fits
  rw [Channel.getRecord_of_ended _ free whole, List.take_of_length_le room, if_pos room]
  simp only [reading, List.append_assoc, List.length_append]

theorem getRecord_reading_nil (max : Nat) :
    (reading name done []).getRecord max =
      ({ bytes := ByteArray.empty, status := .endOfFile }, reading name done []) := by
  have left : (reading name done []).rest = [] := rest_reading
  have free : eol ∉ (reading name done []).rest := by
    rw [left]
    exact List.not_mem_nil
  rw [Channel.getRecord_of_free _ free, left]
  rfl

end

def Request.bytes {i : ChannelIndex} {command : Command} (r : Request i command) : List UInt8 :=
  r.memory.peekAll ((Iocb.ofChannel i).bufferAddress r.memory)
    ((Iocb.ofChannel i).bufferLength r.memory).toNat

/-- A call to put a record. The buffer is the record, or holds it up to an end of record with
anything behind. -/
structure RecordOutput (i : ChannelIndex) extends Request i .putRecord where
  record : List UInt8
  free : eol ∉ record
  held : toRequest.bytes = record ∧ record ≠ [] ∨
    ∃ behind, toRequest.bytes = record ++ eol :: behind

namespace RecordOutput

variable {i : ChannelIndex}

theorem outgoingRecord_eq (o : RecordOutput i) :
    outgoingRecord (.ofChannel i) o.memory o.cpu.regs.a = terminated o.record := by
  have some : (Iocb.ofChannel i).bufferLength o.memory ≠ 0 := by
    intro zero
    have held := o.held
    rw [Request.bytes, zero] at held
    obtain ⟨empty, some⟩ | ⟨behind, empty⟩ := held
    · exact some empty.symm
    · exact absurd empty (List.append_ne_nil_of_right_ne_nil _ (List.cons_ne_nil _ _)).symm
  rw [outgoingRecord, if_neg some]
  change nextRecord o.bytes = _
  obtain ⟨whole, -⟩ | ⟨behind, ended⟩ := o.held
  · rw [whole, nextRecord_of_free o.free]
  · rw [ended, nextRecord_append o.free]

theorem call_writing (o : RecordOutput i) {d : FileDevice} {name : String} {bytes : List UInt8}
    (recorded : d.channel i = some (writing name bytes)) :
    (o.call d).EndsWith .success ∧
      (o.call d).device = d.setChannel i (some (writing name (bytes ++ terminated o.record))) := by
  have reports := o.reports_call_of_channel recorded nofun
  have answers := answers_putRecord (m := o.memory) (t := .atEnd bytes) recorded o.cpu.regs.a
  have put : Tape.perform .write (.atEnd bytes) (.put (terminated o.record)) =
      ({ status := .success }, .atEnd (bytes ++ terminated o.record)) :=
    congrArg (Prod.mk _) (Tape.put_atEnd bytes _)
  rw [o.outgoingRecord_eq, put] at answers
  exact ⟨⟨reports.handled, reports.y.trans (congrArg _ answers.status)⟩,
    reports.device.trans answers.device⟩

end RecordOutput

def putRecords {i : ChannelIndex} (d : FileDevice) (puts : List (RecordOutput i)) : FileDevice :=
  puts.foldl (fun d o => (o.call d).device) d

def recordBytes {i : ChannelIndex} (puts : List (RecordOutput i)) : List UInt8 :=
  puts.flatMap fun o => terminated o.record

theorem putRecords_writing {i : ChannelIndex} (d : FileDevice) (name : String)
    (bytes : List UInt8) (puts : List (RecordOutput i)) :
    (d.setChannel i (some (writing name bytes))).putRecords puts =
      d.setChannel i (some (writing name (bytes ++ recordBytes puts))) := by
  induction puts generalizing bytes with
  | nil =>
    rw [recordBytes, List.flatMap_nil, List.append_nil]
    rfl
  | cons o puts ih =>
    obtain ⟨-, device⟩ := o.call_writing (channel_setChannel d i (some (writing name bytes)))
    rw [putRecords, List.foldl_cons, device, setChannel_setChannel]
    refine (ih (bytes ++ terminated o.record)).trans ?_
    rw [recordBytes, recordBytes, List.flatMap_cons, List.append_assoc]

/-- A call to get a record, with the buffer in RAM outside the page of the control blocks. -/
structure RecordInput (i : ChannelIndex) extends Request i .getRecord where
  inRam : (Iocb.ofChannel i).InRam memory
  buffer : ∀ k < ((Iocb.ofChannel i).bufferLength memory).toNat,
    memory.accessAt ((Iocb.ofChannel i).bufferAddress memory + UInt16.ofNat k) = .ram ∧
      ((Iocb.ofChannel i).bufferAddress memory + UInt16.ofNat k).toNat / 256 ≠ Iocb.page

namespace RecordInput

variable {i : ChannelIndex} (g : RecordInput i) {d : FileDevice}

def length : UInt16 := (Iocb.ofChannel i).bufferLength g.memory

def receipt (d : FileDevice) : Receipt :=
  let c := g.call d
  let length := (Iocb.ofChannel i).bufferLength c.memory
  { handled := c.handled
    status := c.cpu.regs.y
    length
    bytes := c.memory.peekAll ((Iocb.ofChannel i).bufferAddress g.memory) length.toNat }

theorem receipt_of_delivery {c c' : Channel} {bytes : List UInt8} {status : Status}
    (recorded : d.channel i = some c) (readable : c.mode.readable = true)
    (got : c.getRecord g.length.toNat = ({ bytes := bytes.toByteArray, status }, c'))
    (fits : bytes.length ≤ g.length.toNat) :
    g.receipt d =
        { handled := true, status := status.code, length := UInt16.ofNat bytes.length, bytes } ∧
      (g.call d).device.channel i = some c' ∧
      (g.call d).memory =
        (Iocb.ofChannel i).setStatus ((Iocb.ofChannel i).deliver g.memory bytes.toByteArray)
          status.code := by
  have reports := g.reports_call_of_channel recorded nofun
  have reply : d.getRecord g.memory i c =
      { device := d.setChannel i (some c')
        memory := (Iocb.ofChannel i).deliver g.memory bytes.toByteArray
        status
        transferred := bytes.toByteArray.size } := by
    have length : (Iocb.ofChannel i).bufferLength g.memory = g.length := rfl
    unfold FileDevice.getRecord
    rw [readable, Bool.not_true, if_neg Bool.false_ne_true]
    simp only [length, got]
  have carriedOut : d.onChannel g.memory i c g.cpu.regs.a .getRecord = _ := reply
  rw [carriedOut] at reports
  have small : bytes.length < 65536 := Nat.lt_of_le_of_lt fits g.length.toNat_lt
  obtain ⟨length, found⟩ := Iocb.delivered g.inRam
    (fun k lt => g.buffer k (Nat.lt_of_lt_of_le lt fits)) small status.code
  have size : (UInt16.ofNat bytes.length).toNat = bytes.length := UInt16.toNat_ofNat_of_lt' small
  refine ⟨?_, ?_, reports.memory⟩
  · rw [receipt, reports.handled, reports.y, reports.memory, Iocb.bufferLength_setStatus, length,
      size, found]
  · rw [reports.device]
    exact channel_setChannel _ _ _

theorem delivers {name : String} {done rest record : List UInt8} (free : eol ∉ record)
    (fits : record.length < g.length.toNat)
    (recorded : d.channel i = some (reading name done (terminated record ++ rest))) :
    g.receipt d =
        { handled := true, status := Status.success.code
          length := UInt16.ofNat (record.length + 1), bytes := terminated record } ∧
      (g.call d).device.channel i = some (reading name (done ++ terminated record) rest) := by
  have whole : (terminated record).length ≤ g.length.toNat := by
    rw [length_terminated]
    exact fits
  obtain ⟨receipt, next, -⟩ := g.receipt_of_delivery recorded readable_read
    (getRecord_reading free fits) whole
  rw [length_terminated] at receipt
  exact ⟨receipt, next⟩

theorem delivers_nothing {name : String} {done : List UInt8}
    (recorded : d.channel i = some (reading name done [])) :
    g.receipt d =
        { handled := true, status := Status.endOfFile.code, length := 0, bytes := [] } ∧
      ∀ a : UInt16, a.toNat / 256 ≠ Iocb.page → (g.call d).memory.peek a = g.memory.peek a := by
  have got : (reading name done []).getRecord g.length.toNat =
      ({ bytes := [].toByteArray, status := .endOfFile }, reading name done []) :=
    getRecord_reading_nil _
  obtain ⟨receipt, -, memory⟩ := g.receipt_of_delivery recorded readable_read got (Nat.zero_le _)
  refine ⟨receipt, fun a apart => ?_⟩
  rw [memory, Iocb.deliver_eq]
  exact Iocb.peek_reported apart

end RecordInput

def getRecords {i : ChannelIndex} (d : FileDevice) :
    List (RecordInput i) → List Receipt × FileDevice
  | [] => ([], d)
  | g :: gets =>
    let (receipts, d') := (g.call d).device.getRecords gets
    (g.receipt d :: receipts, d')

def Receipt.ofRecord (record : List UInt8) : Receipt where
  handled := true
  status := Status.success.code
  length := UInt16.ofNat (record.length + 1)
  bytes := terminated record

theorem getRecords_reading {i j : ChannelIndex} {d : FileDevice} {name : String}
    {done : List UInt8} {puts : List (RecordOutput i)} {gets : List (RecordInput j)}
    (fits : List.Forall₂ (fun o g => o.record.length < g.length.toNat) puts gets)
    (channel : d.channel j = some (reading name done (recordBytes puts))) :
    (d.getRecords gets).1 = puts.map (fun o => .ofRecord o.record) ∧
      (d.getRecords gets).2.channel j = some (reading name (done ++ recordBytes puts) []) := by
  induction fits generalizing d done with
  | nil =>
    exact ⟨rfl, channel.trans
      (congrArg some (congrArg₂ (reading name) (List.append_nil done).symm rfl))⟩
  | @cons o g puts gets fit _ ih =>
    obtain ⟨receipt, next⟩ := g.delivers o.free fit channel
    obtain ⟨receipts, last⟩ := ih next
    refine ⟨congrArg₂ List.cons receipt receipts, last.trans ?_⟩
    rw [List.append_assoc]
    rfl

/-- Records that are put one by one to a file that is opened to write are got one by one when it is
opened to read, each with one end of record, by calls whose buffers have room for it. Behind the
last one there is only the end of the file. -/
theorem put_then_get_records (d : FileDevice) (i j : ChannelIndex) (name : String)
    (unlocked : (d.store.find? name).any (·.locked) = false)
    (write : Opening i .write name) (puts : List (RecordOutput i)) (close : Request i .close)
    (read : Opening j .read name) (gets : List (RecordInput j))
    (fits : List.Forall₂ (fun o g => o.record.length < g.length.toNat) puts gets)
    (last : RecordInput j) :
    let opened := write.call d
    let closed := close.call (opened.device.putRecords puts)
    let reopened := read.call closed.device
    let got := reopened.device.getRecords gets
    opened.EndsWith .success ∧
      (∀ before o after, puts = before ++ o :: after →
        (o.call (opened.device.putRecords before)).EndsWith .success) ∧
      closed.EndsWith .success ∧
      closed.device.store.read name = some (recordBytes puts).toByteArray ∧
      reopened.EndsWith .success ∧
      got.1 = puts.map (fun o => .ofRecord o.record) ∧
      last.receipt got.2 =
        { handled := true, status := Status.endOfFile.code, length := 0, bytes := [] } ∧
      ∀ a : UInt16, a.toNat / 256 ≠ Iocb.page →
        (last.call got.2).memory.peek a = last.memory.peek a := by
  intro opened closed reopened got
  obtain ⟨openedWell, device⟩ := write.call_of_openFile nofun (write.openFile_write unlocked)
  have put (puts : List (RecordOutput i)) : opened.device.putRecords puts =
      d.setChannel i (some (writing name (recordBytes puts))) := by
    rw [device, putRecords_writing]
    rfl
  have holds (puts : List (RecordOutput i)) : (opened.device.putRecords puts).channel i =
      some (writing name (recordBytes puts)) := by
    rw [put, channel_setChannel]
  obtain ⟨closedWell, stored⟩ := close.call_close (holds puts)
  have found : closed.device.store.read name = some (recordBytes puts).toByteArray := by
    rw [stored]
    exact Files.Store.read_write _ _ _
  obtain ⟨reopenedWell, device'⟩ := read.call_of_openFile nofun (read.openFile_read found)
  obtain ⟨receipts, behind⟩ := getRecords_reading fits
    ((congrArg (·.channel j) device').trans (channel_setChannel _ _ _))
  obtain ⟨nothing, untouched⟩ := last.delivers_nothing behind
  refine ⟨openedWell, ?_, closedWell, found, reopenedWell, receipts, nothing, untouched⟩
  rintro before o after rfl
  exact (o.call_writing (holds before)).1

def recordScene (buffer : List UInt8) (fits : buffer.length ≤ 0x1000) : Scene :=
  { id := 0x7F, command := 0x09, length := UInt16.ofNat buffer.length, buffer, fits }

theorem x_sampleChannel : (16 : UInt8) = 16 * UInt8.ofNat Scene.channel.val := rfl

def sampleRecord (record buffer : List UInt8) (free : eol ∉ record)
    (held : buffer = record ∧ record ≠ [] ∨ ∃ behind, buffer = record ++ eol :: behind)
    (fits : buffer.length ≤ 0x1000) : RecordOutput Scene.channel where
  cpu := { regs := { x := 16 } }
  memory := (recordScene buffer fits).memory Scene.channel
  x := x_sampleChannel
  code := by
    rw [Scene.command_memory]
    rfl
  record
  free
  held := by
    have size : (recordScene buffer fits).length.toNat = buffer.length :=
      UInt16.toNat_ofNat_of_lt' (Nat.lt_of_le_of_lt fits (by decide))
    rw [Request.bytes, Scene.peekAll_buffer _ _ size]
    exact held

def sampleRecords : List (RecordOutput Scene.channel) :=
  [sampleRecord [0x61, 0x62] [0x61, 0x62] (by decide) (.inl (by decide)) (by decide),
    sampleRecord [0x2A] [0x2A, eol, 0x2B] (by decide) (.inr ⟨[0x2B], rfl⟩) (by decide)]

def sampleGetRecord (length : UInt16) (small : length.toNat ≤ 0x1000) :
    RecordInput Scene.channel where
  cpu := { regs := { x := 16 } }
  memory :=
    Scene.memory { id := 0x7F, command := 0x05, length, fits := fits_emptyBuffer } Scene.channel
  x := x_sampleChannel
  code := by
    rw [Scene.command_memory]
    rfl
  inRam := Iocb.inRam_of_low (Scene.low_memory _ _) Scene.channel
  buffer := Scene.buffer_memory _ Scene.channel small

def sampleGetRecords : List (RecordInput Scene.channel) :=
  [sampleGetRecord 3 (by decide), sampleGetRecord 301 (by decide)]

theorem fits_sampleRecords :
    List.Forall₂ (fun o g => o.record.length < (RecordInput.length g).toNat) sampleRecords
      sampleGetRecords := by
  have fits (o : RecordOutput Scene.channel) {length : UInt16} (small : length.toNat ≤ 0x1000)
      (less : o.record.length < length.toNat) :
      o.record.length < (sampleGetRecord length small).length.toNat := by
    rwa [RecordInput.length, sampleGetRecord, Scene.bufferLength_memory]
  exact .cons (fits _ _ (by decide)) (.cons (fits _ _ (by decide)) .nil)

theorem put_then_get_records_sample :
    ((({} : FileDevice).store.find? "A.B").any (·.locked) = false) ∧
      List.Forall₂ (fun o g => o.record.length < (RecordInput.length g).toNat) sampleRecords
        sampleGetRecords ∧
      (((sampleOpening .read).call
        (sampleClose.call (((sampleOpening .write).call {}).device.putRecords
          sampleRecords)).device).device.getRecords sampleGetRecords).1 =
        [⟨true, 1, 3, [0x61, 0x62, eol]⟩, ⟨true, 1, 2, [0x2A, eol]⟩] := by
  have unlocked : (({} : FileDevice).store.find? "A.B").any (·.locked) = false := rfl
  have round := put_then_get_records {} Scene.channel Scene.channel "A.B" unlocked
    (sampleOpening .write) sampleRecords sampleClose (sampleOpening .read) sampleGetRecords
    fits_sampleRecords (sampleGetRecord 1 (by decide))
  exact ⟨unlocked, fits_sampleRecords, round.2.2.2.2.2.1⟩

end Atari800XL.FileDevice
