import Atari800XL.Proofs.FileDevice.Footprint
import Atari800XL.Proofs.FileDevice.Tape
import Atari800XL.Proofs.Files.Store

namespace Atari800XL.FileDevice

def writing (name : String) (bytes : List UInt8) : Channel :=
  { name, mode := .write, content := bytes.toByteArray, position := bytes.length }

def reading (name : String) (done rest : List UInt8) : Channel :=
  { name, mode := .read, content := (done ++ rest).toByteArray, position := done.length }

theorem writable_write : OpenMode.write.writable = true := by decide

theorem readable_read : OpenMode.read.readable = true := by decide

section

variable {name : String} {bytes done rest : List UInt8} {byte : UInt8}

theorem put_writing (name : String) (bytes : List UInt8) (byte : UInt8) :
    (writing name bytes).put byte = writing name (bytes ++ [byte]) :=
  ((Tape.atEnd bytes).put_channel byte).trans
    (congrArg (Tape.channel · name .write) (Tape.put_atEnd bytes [byte]))

theorem putFrom_writing (m : Memory) (address : UInt16) (written n : Nat) :
    putFrom m false (writing name bytes) address written n =
      (writing name (bytes ++ m.peekAll address n), written + n, false) := by
  have put := (Tape.atEnd bytes).putFrom_channel name .write m address written n
  rw [Tape.put_atEnd] at put
  exact put

theorem rest_reading : (reading name done rest).rest = rest := by
  rw [Channel.rest, reading, List.data_toByteArray]
  exact List.drop_left

theorem nextByte_reading_cons :
    (reading name done (byte :: rest)).nextByte =
      some (byte, reading name (done ++ [byte]) rest) := by
  rw [Channel.nextByte_eq, rest_reading, reading, reading, List.append_assoc, List.length_append]
  rfl

theorem nextByte_reading_nil : (reading name done []).nextByte = none := by
  rw [Channel.nextByte_eq, rest_reading]
  rfl

theorem getBytes_reading (count : Nat) :
    (reading name done rest).getBytes count =
      ({ bytes := (rest.take count).toByteArray
         status := if count ≤ rest.length then .success else .endOfFile },
        reading name (done ++ rest.take count) (rest.drop count)) := by
  have content : done ++ rest.take count ++ rest.drop count = done ++ rest := by
    rw [List.append_assoc, List.take_append_drop]
  rw [Channel.getBytes_eq, rest_reading]
  simp only [reading, content, List.length_append, List.length_take]

end

namespace Iocb

variable {m : Memory} {i : ChannelIndex}

theorem foldl_poke (m : Memory) (start : UInt16) (bytes : List UInt8) :
    (bytes.foldl (fun (m, address) byte => (Memory.poke m address byte, address + 1))
      (m, start)).1 = m.pokeAll start bytes := by
  induction bytes generalizing m start with
  | nil => rfl
  | cons byte bytes ih => exact ih _ _

theorem deliver_eq (b : Iocb) (m : Memory) (bytes : List UInt8) :
    b.deliver m bytes.toByteArray =
      b.setBufferLength (m.pokeAll (b.bufferAddress m) bytes) bytes.length := by
  rw [deliver, foldl_eq_foldl_toList, List.data_toByteArray, foldl_poke, List.size_toByteArray]

variable {a : UInt16} {bytes : List UInt8} {length : Nat} {status : UInt8}

theorem field_ne {k : Nat} (lt : k < 16) (apart : a.toNat / 256 ≠ page) :
    (ofChannel i).base + UInt16.ofNat k ≠ a := by
  rintro rfl
  exact apart (page_ofChannel i k lt)

theorem peek_reported (apart : a.toNat / 256 ≠ page) :
    ((ofChannel i).setStatus ((ofChannel i).setBufferLength m length) status).peek a =
      m.peek a := by
  have low : (ofChannel i).base + 8 ≠ a := field_ne (k := 8) (by decide) apart
  have high : (ofChannel i).base + 9 ≠ a := field_ne (k := 9) (by decide) apart
  have code : (ofChannel i).base + 3 ≠ a := field_ne (k := 3) (by decide) apart
  rw [setStatus, setBufferLength, Memory.peek_poke_of_ne code, Memory.peek_poke_of_ne high,
    Memory.peek_poke_of_ne low]

theorem bufferLength_setStatus :
    (ofChannel i).bufferLength ((ofChannel i).setStatus m status) =
      (ofChannel i).bufferLength m := by
  have fields : ∀ i, (ofChannel i).base + 3 ≠ (ofChannel i).base + 8 ∧
      (ofChannel i).base + 3 ≠ (ofChannel i).base + 8 + 1 := by decide
  obtain ⟨low, high⟩ := fields i
  rw [bufferLength, Memory.peekWord, setStatus, Memory.peek_poke_of_ne low,
    Memory.peek_poke_of_ne high, bufferLength, Memory.peekWord]

theorem bufferLength_setBufferLength (inRam : (ofChannel i).InRam m) :
    (ofChannel i).bufferLength ((ofChannel i).setBufferLength m length) = UInt16.ofNat length := by
  have fields : ∀ i, (ofChannel i).base + 9 ≠ (ofChannel i).base + 8 ∧
      (ofChannel i).base + 8 + 1 = (ofChannel i).base + 9 := by decide
  obtain ⟨differ, next⟩ := fields i
  have low : m.accessAt ((ofChannel i).base + 8) = .ram := inRam 8 (by decide)
  have high : (m.poke ((ofChannel i).base + 8) (UInt8.ofNat length)).accessAt
      ((ofChannel i).base + 9) = .ram := by
    rw [Memory.accessAt_poke]
    exact inRam 9 (by decide)
  rw [bufferLength, Memory.peekWord, next, setBufferLength, Memory.peek_poke_of_ne differ,
    Memory.peek_poke_self low, Memory.peek_poke_self high, word_ofNat]

theorem delivered (inRam : (ofChannel i).InRam m)
    (buffer : ∀ k < bytes.length,
      m.accessAt ((ofChannel i).bufferAddress m + UInt16.ofNat k) = .ram ∧
        ((ofChannel i).bufferAddress m + UInt16.ofNat k).toNat / 256 ≠ page)
    (fits : bytes.length < 65536) (status : UInt8) :
    let after := (ofChannel i).deliver m bytes.toByteArray
    (ofChannel i).bufferLength after = UInt16.ofNat bytes.length ∧
      ((ofChannel i).setStatus after status).peekAll ((ofChannel i).bufferAddress m)
        bytes.length = bytes := by
  rw [deliver_eq]
  constructor
  · exact bufferLength_setBufferLength (inRam.congr (Memory.pokes_pokeAll m _ bytes))
  · apply Memory.peekAll_eq_of_peek
    intro k lt
    rw [peek_reported (buffer k lt).2,
      Memory.peek_pokeAll_of_lt (fun k lt => (buffer k lt).1) (Nat.le_of_lt fits) lt]

end Iocb

section

variable {d : FileDevice} {m : Memory} {i : ChannelIndex} {name : String}
  {bytes done rest : List UInt8}

theorem putData_writing (d : FileDevice) (m : Memory) (i : ChannelIndex) (name : String)
    (bytes : List UInt8) (a : UInt8) :
    let r := d.putData m i (writing name bytes) a false
    r.device = d.setChannel i (some (writing name (bytes ++ outgoing (.ofChannel i) m a))) ∧
      r.memory = m ∧ r.status = .success := by
  have writable : (writing name bytes).mode.writable = true := writable_write
  unfold putData outgoing
  rw [writable, Bool.not_true, if_neg Bool.false_ne_true]
  by_cases single : (Iocb.ofChannel i).bufferLength m = 0
  · have count : ((Iocb.ofChannel i).bufferLength m).toNat = 0 := congrArg UInt16.toNat single
    rw [if_pos count, if_pos single, put_writing]
    exact ⟨setChannel_setChannel d i none _, rfl, rfl⟩
  · have count : ((Iocb.ofChannel i).bufferLength m).toNat ≠ 0 :=
      fun zero => single (UInt16.toNat_inj.1 zero)
    rw [if_neg count, if_neg single, putFrom_writing]
    exact ⟨setChannel_setChannel d i none _, rfl, rfl⟩

theorem getBytes_nil (d : FileDevice) (single : (Iocb.ofChannel i).bufferLength m = 0) :
    d.getBytes m i (reading name done []) =
      { device := d, memory := m, status := .endOfFile } := by
  have readable : (reading name done []).mode.readable = true := readable_read
  have count : ((Iocb.ofChannel i).bufferLength m).toNat = 0 := congrArg UInt16.toNat single
  unfold getBytes
  rw [readable, Bool.not_true, if_neg Bool.false_ne_true, if_pos count, nextByte_reading_nil]

theorem getBytes_cons (d : FileDevice) {byte : UInt8}
    (single : (Iocb.ofChannel i).bufferLength m = 0) :
    d.getBytes m i (reading name done (byte :: rest)) =
      { device := d.setChannel i (some (reading name (done ++ [byte]) rest)), memory := m,
        status := .success, transferred := 1, accumulator := some byte } := by
  have readable : (reading name done (byte :: rest)).mode.readable = true := readable_read
  have count : ((Iocb.ofChannel i).bufferLength m).toNat = 0 := congrArg UInt16.toNat single
  unfold getBytes
  rw [readable, Bool.not_true, if_neg Bool.false_ne_true, if_pos count, nextByte_reading_cons]

theorem getBytes_of_ne_zero (d : FileDevice) (name : String) (done rest : List UInt8)
    {length : UInt16} (h : (Iocb.ofChannel i).bufferLength m = length) (many : length ≠ 0) :
    let r := d.getBytes m i (reading name done rest)
    r.device = d.setChannel i
        (some (reading name (done ++ rest.take length.toNat) (rest.drop length.toNat))) ∧
      r.memory = (Iocb.ofChannel i).deliver m (rest.take length.toNat).toByteArray ∧
      r.status = if length.toNat ≤ rest.length then .success else .endOfFile := by
  have readable : (reading name done rest).mode.readable = true := readable_read
  have count : length.toNat ≠ 0 := fun zero => many (UInt16.toNat_inj.1 zero)
  unfold getBytes
  rw [readable, Bool.not_true, if_neg Bool.false_ne_true, h, if_neg count, getBytes_reading]
  exact ⟨rfl, rfl, rfl⟩

end

end Atari800XL.FileDevice
