import Atari800XL.Proofs.FileDevice.Convention

namespace Atari800XL.FileDevice

/-- These bytes are all that a call has written to memory, but for their number and the status in
the control block. They are found in the buffer, if that is RAM outside the page of the control
blocks. -/
structure Called.Delivers (called : Called) (i : ChannelIndex) (m : Memory) (bytes : List UInt8) :
    Prop where
  told : (Iocb.ofChannel i).InRam m →
    (Iocb.ofChannel i).bufferLength called.memory = UInt16.ofNat bytes.length
  stored :
    (Iocb.ofChannel i).InRam m →
    (∀ k < bytes.length,
      m.accessAt ((Iocb.ofChannel i).bufferAddress m + UInt16.ofNat k) = .ram ∧
        ((Iocb.ofChannel i).bufferAddress m + UInt16.ofNat k).toNat / 256 ≠ Iocb.page) →
      called.memory.peekAll ((Iocb.ofChannel i).bufferAddress m) bytes.length = bytes
  changes : (Iocb.ofChannel i).Changes [3, 8, 9] bytes.length m called.memory

theorem Called.Reports.delivers {called : Called} {cpu : Cpu} {i : ChannelIndex} {r : Reply}
    (reports : called.Reports cpu i r) {m : Memory} {bytes : List UInt8}
    (memory : r.memory = (Iocb.ofChannel i).deliver m bytes.toByteArray)
    (fits : bytes.length ≤ ((Iocb.ofChannel i).bufferLength m).toNat) :
    called.Delivers i m bytes where
  told inRam := by
    rw [reports.memory, memory, Iocb.bufferLength_setStatus, Iocb.bufferLength_deliver inRam,
      List.size_toByteArray]
  stored inRam buffer := by
    have small := Nat.lt_of_le_of_lt fits ((Iocb.ofChannel i).bufferLength m).toNat_lt
    rw [reports.memory, memory]
    exact (Iocb.delivered inRam buffer small _).2
  changes := by
    have changes := (Iocb.changes_deliver (Iocb.ofChannel i) m bytes.toByteArray).cons 3
    rw [List.size_toByteArray] at changes
    rw [reports.memory, memory]
    exact changes.poke List.mem_cons_self _

theorem getRecord_of_readable (d : FileDevice) (m : Memory) (i : ChannelIndex) {c : Channel}
    (readable : c.mode.readable = true) :
    let part := (recordPart c.rest ((Iocb.ofChannel i).bufferLength m).toNat).toByteArray
    d.getRecord m i c =
      { device := d.setChannel i (some { c with
          position := c.position + min (nextRecord c.rest).length c.rest.length })
        memory := (Iocb.ofChannel i).deliver m part
        status := recordStatus c.rest ((Iocb.ofChannel i).bufferLength m).toNat
        transferred := part.size } := by
  unfold FileDevice.getRecord
  rw [readable, Bool.not_true, if_neg Bool.false_ne_true]
  simp only [c.getRecord_eq]

theorem getLast?_nextRecord (rest : List UInt8) : (nextRecord rest).getLast? = some eol :=
  List.getLast?_concat

/-- A call to get a record from a channel that can be read, wherever the channel stands. Where
nothing is left it says so and moves nothing. Otherwise the buffer gets the beginning of the next
record, the channel goes on behind the record, and the status tells whether all of it has been
delivered, with two exceptions. They are about a last record without an end of its own: with a
buffer for nothing the call ends as if nothing were left, and with one for all but the supplied end
as if that had been delivered. -/
theorem Request.call_getRecord {i : ChannelIndex} (g : Request i .getRecord) {d : FileDevice}
    {c : Channel} (recorded : d.channel i = some c) (readable : c.mode.readable = true) :
    let called := g.call d
    let max := ((Iocb.ofChannel i).bufferLength g.memory).toNat
    let record := nextRecord c.rest
    let status : Status :=
      if eol ∉ c.rest ∧ max = 0 then .endOfFile
      else if eol ∉ c.rest ∧ max = c.rest.length then .success
      else if record.length ≤ max then .success
      else .truncated
    (c.rest = [] →
      called.EndsWith .endOfFile ∧ called.Delivers i g.memory [] ∧ called.device = d) ∧
      (c.rest ≠ [] →
        called.EndsWith status ∧
        called.Delivers i g.memory (record.take max) ∧
        called.device = d.setChannel i
          (some { c with position := c.position + min record.length c.rest.length }) ∧
        (status = .success →
          (record.take max).getLast? = some eol ∨ eol ∉ c.rest ∧ max = c.rest.length)) := by
  intro called max record status
  have reports : called.Reports g.cpu i (d.getRecord g.memory i c) :=
    g.reports_call_of_channel recorded nofun
  rw [d.getRecord_of_readable g.memory i readable] at reports
  have delivers := reports.delivers rfl (length_recordPart_le c.rest max)
  have ends : called.EndsWith (recordStatus c.rest max) := ⟨reports.handled, reports.y⟩
  refine ⟨fun empty => ?_, fun some => ?_⟩
  · have ended : recordStatus c.rest max = .endOfFile := by
      rw [recordStatus, empty, if_neg List.not_mem_nil, List.length_nil, Nat.zero_min, if_pos rfl]
    have part : recordPart c.rest max = [] := by rw [recordPart, if_pos empty]
    have stays : min (nextRecord c.rest).length c.rest.length = 0 := by
      rw [empty, List.length_nil, Nat.min_zero]
    refine ⟨ended ▸ ends, part ▸ delivers, reports.device.trans ?_⟩
    dsimp only
    rw [stays, Nat.add_zero]
    exact (congrArg (d.setChannel i) recorded.symm).trans (d.setChannel_channel i)
  · have part : recordPart c.rest max = record.take max := by rw [recordPart, if_neg some]
    have told : recordStatus c.rest max = status := recordStatus_eq some
    refine ⟨told ▸ ends, part ▸ delivers, reports.device, fun success => ?_⟩
    by_cases fits : record.length ≤ max
    · rw [List.take_of_length_le fits]
      exact .inl (getLast?_nextRecord c.rest)
    · refine .inr ?_
      by_contra other
      have differs : status ≠ .success := by
        simp only [status, if_neg other, if_neg fits]
        split <;> decide
      exact differs success

theorem fits_emptyBuffer : ([] : List UInt8).length ≤ 0x1000 := by decide

def getRecordScene (length : UInt16) : Scene :=
  { id := 0x7F, command := 0x05, length, fits := fits_emptyBuffer }

theorem code_getRecordScene (length : UInt16) :
    Command.ofByte ((Iocb.ofChannel Scene.channel).command
      ((getRecordScene length).memory Scene.channel)) = .getRecord := by
  rw [Scene.command_memory]
  rfl

def sampleRecordCall (length : UInt16) : Request Scene.channel .getRecord where
  cpu := { regs := { x := 16 } }
  memory := (getRecordScene length).memory Scene.channel
  x := Scene.x_channel
  code := code_getRecordScene length

theorem memory_sampleRecordCall (length : UInt16) :
    (sampleRecordCall length).memory = (getRecordScene length).memory Scene.channel := by
  rw [sampleRecordCall]

theorem Request.call_getRecord_unended :
    let c := reading "A.BIN" [] [0x78, 0x79]
    let d := ({} : FileDevice).setChannel Scene.channel (some c)
    let called := (sampleRecordCall 2).call d
    d.channel Scene.channel = some c ∧ c.mode.readable = true ∧
      called.EndsWith .success ∧ called.memory.peekAll 0x0600 2 = [0x78, 0x79] := by
  intro c d called
  have recorded : d.channel Scene.channel = some c := channel_setChannel _ _ _
  have left : c.rest = [0x78, 0x79] := rfl
  have length : ((Iocb.ofChannel Scene.channel).bufferLength (sampleRecordCall 2).memory).toNat =
      2 := by
    rw [memory_sampleRecordCall, Scene.bufferLength_memory]
    rfl
  have part : (nextRecord [0x78, 0x79]).take 2 = [0x78, 0x79] := by decide
  obtain ⟨ends, delivers, -, -⟩ :=
    ((sampleRecordCall 2).call_getRecord recorded readable_read).2 (by rw [left]; decide)
  rw [length, left, part, memory_sampleRecordCall] at delivers
  rw [length, left] at ends
  rw [memory_sampleRecordCall] at length
  have inRam := Iocb.inRam_of_low ((getRecordScene 2).low_memory Scene.channel) Scene.channel
  have buffer := (getRecordScene 2).buffer_memory Scene.channel (by decide)
  have found := delivers.stored inRam fun k lt => buffer k (Nat.lt_of_lt_of_eq lt length.symm)
  rw [Scene.bufferAddress_memory] at found
  exact ⟨recorded, readable_read, ends, found⟩

end Atari800XL.FileDevice
