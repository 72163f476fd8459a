import Atari800XL.Disk.Sio
import Atari800XL.Proofs.Word

namespace Atari800XL.Disk

def sealed (payload : ByteArray) : ByteArray := payload.push (checksum payload)

def commandFrame (device : Nat) (code : UInt8) (sector : UInt16) : ByteArray :=
  ⟨#[0x30 + UInt8.ofNat device, code, lowByte sector, highByte sector]⟩

section

variable {payload frame : ByteArray} {n i : Nat}

theorem byteAt_of_lt (h : i < frame.size) : Image.byteAt frame i = frame[i] := by
  rw [Image.byteAt, dif_pos h]

theorem size_sealed (payload : ByteArray) : (sealed payload).size = payload.size + 1 :=
  ByteArray.size_push

theorem sealed_eq_append (payload : ByteArray) :
    sealed payload = payload ++ [checksum payload].toByteArray :=
  ByteArray.append_toByteArray_singleton.symm

theorem extract_sealed (h : payload.size = n) : (sealed payload).extract 0 n = payload := by
  rw [sealed_eq_append]
  exact ByteArray.extract_append_eq_left h.symm

theorem byteAt_sealed_of_lt (h : i < payload.size) :
    Image.byteAt (sealed payload) i = Image.byteAt payload i := by
  have inside : i < (sealed payload).size := by
    rw [size_sealed]
    omega
  rw [byteAt_of_lt h, byteAt_of_lt inside]
  exact Array.getElem_push_lt h

theorem byteAt_sealed (h : payload.size = n) :
    Image.byteAt (sealed payload) n = checksum payload := by
  subst h
  have inside : payload.size < (sealed payload).size := by
    rw [size_sealed]
    omega
  rw [byteAt_of_lt inside]
  exact Array.getElem_push_eq

theorem eq_sealed (size : frame.size = n + 1)
    (valid : checksum (frame.extract 0 n) = Image.byteAt frame n) :
    frame = sealed (frame.extract 0 n) := by
  have last : frame.extract n (n + 1) = [Image.byteAt frame n].toByteArray := by
    rw [ByteArray.extract_add_one (Nat.le_of_eq size.symm), byteAt_of_lt (by omega)]
  calc
    frame = frame.extract 0 (n + 1) := by rw [← size, ByteArray.extract_zero_size]
    _ = frame.extract 0 n ++ frame.extract n (n + 1) :=
      ByteArray.extract_eq_extract_append_extract n (Nat.zero_le n) (Nat.le_succ n)
    _ = sealed (frame.extract 0 n) := by rw [last, sealed_eq_append, valid]

theorem driveOfAddress?_eq_some_iff {address : UInt8} {device : Nat} :
    Sio.driveOfAddress? address = some device ↔
      1 ≤ device ∧ device ≤ slotCount ∧ address = 0x30 + UInt8.ofNat device := by
  constructor
  · intro h
    rw [Sio.driveOfAddress?] at h
    split at h
    · rename_i bounds
      have low : 0x31 ≤ address.toNat := UInt8.le_iff_toNat_le.1 bounds.1
      have high : address.toNat ≤ 0x38 := UInt8.le_iff_toNat_le.1 bounds.2
      obtain rfl := Option.some.inj h
      refine ⟨by omega, by rw [slotCount]; omega, UInt8.toNat_inj.1 ?_⟩
      rw [UInt8.toNat_add, UInt8.toNat_ofNat']
      show address.toNat = (48 + (address.toNat - 48) % 256) % 256
      omega
    · cases h
  · have all : ∀ device ≤ slotCount, 1 ≤ device →
        Sio.driveOfAddress? (0x30 + UInt8.ofNat device) = some device := by decide
    rintro ⟨low, high, rfl⟩
    exact all device high low

theorem byteAt_commandFrame (device : Nat) (code : UInt8) (sector : UInt16) :
    Image.byteAt (commandFrame device code sector) 0 = 0x30 + UInt8.ofNat device ∧
      Image.byteAt (commandFrame device code sector) 1 = code ∧
      Image.byteAt (commandFrame device code sector) 2 = lowByte sector ∧
      Image.byteAt (commandFrame device code sector) 3 = highByte sector :=
  ⟨rfl, rfl, rfl, rfl⟩

theorem eq_commandFrame {device : Nat} (size : frame.size = 5)
    (address : Image.byteAt frame 0 = 0x30 + UInt8.ofNat device) :
    frame.extract 0 4 = commandFrame device (Image.byteAt frame 1)
      (word (Image.byteAt frame 2) (Image.byteAt frame 3)) := by
  have four : frame.extract 0 4 = [Image.byteAt frame 0, Image.byteAt frame 1,
      Image.byteAt frame 2, Image.byteAt frame 3].toByteArray := by
    rw [byteAt_of_lt (by omega), byteAt_of_lt (by omega), byteAt_of_lt (by omega),
      byteAt_of_lt (by omega)]
    exact ByteArray.extract_add_four (i := 0) (by omega)
  rw [four, address, commandFrame, lowByte_word, highByte_word]
  rfl

end

theorem ofByte?_eq_format_iff {code : UInt8} :
    Command.ofByte? code = some .format ↔ code = 0x21 ∨ code = 0x22 := by
  constructor
  · intro h
    unfold Command.ofByte? at h
    split at h
    case h_6 is => exact .inl (UInt8.toNat_inj.1 is)
    case h_7 is => exact .inr (UInt8.toNat_inj.1 is)
    all_goals cases h
  · rintro (rfl | rfl) <;> rfl

namespace Sio

def frameSize (s : Sio) : Nat :=
  match s.phase with
  | .command => 5
  | .data p => p.length + 1

def listens (s : Sio) : Bool :=
  match s.phase with
  | .command => s.commandLine
  | .data _ => true

def finish (s : Sio) (rack : Rack) (frame : ByteArray) : Step :=
  match s.phase with
  | .command => s.finishCommand rack frame
  | .data p => s.finishData rack p frame

variable {s : Sio} {rack : Rack} {byte : UInt8}

theorem putByte_of_not_listens (h : s.listens = false) :
    s.putByte rack byte = { sio := s, rack } := by
  rw [listens] at h
  rw [putByte]
  cases phase : s.phase with
  | command =>
    simp only [phase] at h
    simp only [h, if_neg Bool.false_ne_true]
  | data p =>
    simp only [phase] at h
    cases h

theorem putByte_of_short (h : s.listens = true) (short : s.received.size + 1 ≠ s.frameSize) :
    s.putByte rack byte = { sio := { s with received := s.received.push byte }, rack } := by
  rw [← ByteArray.size_push (b := byte), frameSize] at short
  rw [listens] at h
  rw [putByte]
  cases phase : s.phase with
  | command =>
    simp only [phase] at h short
    simp only [if_pos h, if_neg short]
  | data p =>
    simp only [phase] at short
    simp only [if_neg short]

theorem putByte_of_full (h : s.listens = true) (full : s.received.size + 1 = s.frameSize) :
    s.putByte rack byte = s.finish rack (s.received.push byte) := by
  rw [← ByteArray.size_push (b := byte), frameSize] at full
  rw [listens] at h
  rw [putByte, finish]
  cases phase : s.phase with
  | command =>
    simp only [phase] at h full
    simp only [if_pos h, if_pos full]
  | data p =>
    simp only [phase] at full
    simp only [if_pos full]

end Sio

structure Drives where
  sio : Sio := {}
  rack : Rack := {}
  deriving Inhabited

namespace Drives

inductive Op
  | line (asserted : Bool)
  | byte (value : UInt8)
  | pop
  | mount (slot device : Nat)
  | unmount (device : Nat)
  deriving DecidableEq, Repr, Inhabited

def perform (d : Drives) : Op → Drives
  | .line asserted => { d with sio := d.sio.setCommandLine asserted }
  | .byte value =>
    let step := d.sio.putByte d.rack value
    { sio := step.sio, rack := step.rack }
  | .pop =>
    match d.sio.pop with
    | none => d
    | some (_, sio) => { d with sio }
  | .mount slot device =>
    match d.rack.mount slot device with
    | .ok (rack, _) => { d with rack }
    | .error _ => d
  | .unmount device => { d with rack := d.rack.unmount device }

def performAll (d : Drives) (ops : List Op) : Drives := ops.foldl perform d

theorem performAll_append (d : Drives) (ops more : List Op) :
    d.performAll (ops ++ more) = (d.performAll ops).performAll more :=
  List.foldl_append

end Drives

end Atari800XL.Disk
