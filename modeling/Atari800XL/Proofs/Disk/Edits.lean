import Atari800XL.Proofs.Disk.Drives
import Atari800XL.Proofs.Disk.Overwrite

namespace Atari800XL.Disk

structure Edit where
  image : Nat
  start : Nat
  data : ByteArray

def Edit.apply (images : Array Image) (e : Edit) : Array Image :=
  images.modify e.image (·.overwrite e.start e.data)

namespace Rack

def edit (r : Rack) (e : Edit) : Rack := { r with images := e.apply r.images }

variable {r : Rack} {device : Nat} {image : Image}

theorem mounted_eq_some_iff : r.mounted device = some image ↔
    ∃ index, r.drive device = some index ∧ r.images[index]? = some image :=
  Option.bind_eq_some_iff

theorem replace_overwrite {index start : Nat} {data : ByteArray}
    (drive : r.drive device = some index) (image? : r.images[index]? = some image) :
    r.replace device (image.overwrite start data) = r.edit ⟨index, start, data⟩ := by
  have inside := (Array.getElem?_eq_some_iff.1 image?).1
  have images : r.images.setIfInBounds index (image.overwrite start data) =
      Edit.apply r.images ⟨index, start, data⟩ := by
    apply Array.ext_getElem?
    intro j
    rw [Edit.apply, Array.getElem?_setIfInBounds, Array.getElem?_modify]
    by_cases same : index = j
    · subst same
      rw [if_pos rfl, if_pos rfl, if_pos inside, image?]
      rfl
    · rw [if_neg same, if_neg same]
  rw [replace, drive, edit, ← images]

theorem images_mount {slot : Nat} {mounted : Rack × List Notice}
    (h : r.mount slot device = .ok mounted) : mounted.1.images = r.images := by
  unfold mount at h
  split at h
  · split at h
    · split at h
      · cases h
      · cases h
        rfl
    · cases h
  · cases h

end Rack

namespace Sio

variable {s : Sio} {rack : Rack} {device : Nat} {image new : Image} {p : Pending}
  {payload frame : ByteArray} {code : UInt8} {sector : UInt16}

theorem finishCommand_sealed (low : 1 ≤ device) (high : device ≤ slotCount)
    (mounted : rack.mounted device = some image) :
    let a := answer image device (Command.ofByte? code) sector
    let step := s.finishCommand rack (sealed (commandFrame device code sector))
    step.sio = { s with received := ByteArray.empty, replies := a.replies, phase := a.phase } ∧
      step.rack = a.image.elim rack (rack.replace device) ∧ step.renewed = true := by
  have address : driveOfAddress? (0x30 + UInt8.ofNat device) = some device :=
    driveOfAddress?_eq_some_iff.2 ⟨low, high, rfl⟩
  have size : (commandFrame device code sector).size = 4 := rfl
  obtain ⟨b0, b1, b2, b3⟩ := byteAt_commandFrame device code sector
  intro a step
  have opened : step = s.finishCommand rack (sealed (commandFrame device code sector)) := rfl
  rw [finishCommand, extract_sealed size, byteAt_sealed size,
    byteAt_sealed_of_lt (i := 0) (by omega), byteAt_sealed_of_lt (i := 1) (by omega),
    byteAt_sealed_of_lt (i := 2) (by omega), byteAt_sealed_of_lt (i := 3) (by omega), b0, b1, b2,
    b3, address, Option.bind_some, mounted, Option.map_some, ofNat_toNat_add,
    word_lowByte_highByte, beq_self_eq_true] at opened
  rw [opened]
  refine ⟨rfl, ?_, rfl⟩
  simp only [Bool.not_true, Bool.false_eq_true, if_false]
  cases a.image <;> rfl

theorem formats_of_finishCommand (s : Sio) (rack : Rack) (size : frame.size = 5) :
    (s.finishCommand rack frame).rack = rack ∨ ∃ device code sector image new,
      1 ≤ device ∧ device ≤ slotCount ∧ frame = sealed (commandFrame device code sector) ∧
        (code = 0x21 ∨ code = 0x22) ∧ rack.mounted device = some image ∧
          image.format = some new := by
  unfold finishCommand
  dsimp only
  split
  · exact .inl rfl
  · rename_i device image found
    obtain ⟨device', address, pair⟩ := Option.bind_eq_some_iff.1 found
    obtain ⟨image', mounted, same⟩ := Option.map_eq_some_iff.1 pair
    obtain ⟨rfl, rfl⟩ := Prod.mk.inj same
    obtain ⟨low, high, first⟩ := driveOfAddress?_eq_some_iff.1 address
    split
    · exact .inl rfl
    · rename_i valid
      have valid : checksum (frame.extract 0 4) = Image.byteAt frame 4 := by simpa using valid
      have payload := eq_commandFrame size first
      have whole := eq_sealed size valid
      rw [payload] at whole
      unfold answer
      split
      -- No other command has an image for an answer.
      case h_5 command =>
        split
        · exact .inl rfl
        · rename_i formatted
          exact .inr ⟨_, _, _, _, _, low, high, whole, ofByte?_eq_format_iff.1 command, mounted,
            formatted⟩
      all_goals first | exact .inl rfl | (split <;> exact .inl rfl)

theorem finishData_sealed (size : payload.size = p.length)
    (mounted : rack.mounted p.device = some image) :
    let done := carryOut image p payload
    let step := s.finishData rack p (sealed payload)
    step.sio =
        { s with
          received := ByteArray.empty
          phase := .command
          replies := [.ack, if done.2 then .complete else .error] } ∧
      step.rack = done.1.elim rack (rack.replace p.device) ∧ step.renewed = true := by
  intro done step
  have opened : step = s.finishData rack p (sealed payload) := rfl
  rw [finishData, extract_sealed size, byteAt_sealed size, mounted, beq_self_eq_true] at opened
  rw [opened]
  refine ⟨rfl, ?_, rfl⟩
  simp only [Bool.not_true, Bool.false_eq_true, if_false]
  cases done.1 <;> rfl

theorem writes_of_finishData (s : Sio) (rack : Rack) (size : frame.size = p.length + 1) :
    (s.finishData rack p frame).rack = rack ∨ ∃ payload image new,
      frame = sealed payload ∧ payload.size = p.length ∧ p.command ≠ .verify ∧
        rack.mounted p.device = some image ∧ image.writeSector p.sector payload = some new := by
  unfold finishData
  dsimp only
  split
  · exact .inl rfl
  · rename_i valid
    have valid : checksum (frame.extract 0 p.length) = Image.byteAt frame p.length := by
      simpa using valid
    have whole := eq_sealed size valid
    have length : (frame.extract 0 p.length).size = p.length := by
      rw [ByteArray.size_extract]
      omega
    split
    · exact .inl rfl
    · rename_i image mounted
      unfold carryOut
      split
      · exact .inl rfl
      all_goals
        rename_i command
        split
        · exact .inl rfl
        · rename_i written
          exact .inr ⟨_, _, _, whole, length, by rw [command]; decide, mounted, written⟩

end Sio

namespace Drives

/-- The operation completes a frame that is valid in all respects and edits an image. -/
inductive Commits (d : Drives) : Op → Edit → Prop
  /-- A data frame of the announced length, after a command to write or put, while the drive holds
  an image that can be written and has such a sector. -/
  | write {value : UInt8} {p : Pending} {payload : ByteArray} {index start : Nat} {image : Image}
      (phase : d.sio.phase = .data p) (frame : d.sio.received.push value = sealed payload)
      (length : payload.size = p.length) (command : p.command = .write ∨ p.command = .put)
      (drive : d.rack.drive p.device = some index) (mounted : d.rack.images[index]? = some image)
      (writable : image.writable = true)
      (place : image.sector? p.sector = some (start, payload.size)) :
      Commits d (.byte value) ⟨index, start, payload⟩
  /-- A command frame to format, for a drive with an image that can be written. -/
  | format {value code : UInt8} {device index : Nat} {sector : UInt16} {image : Image}
      (phase : d.sio.phase = .command) (line : d.sio.commandLine = true)
      (low : 1 ≤ device) (high : device ≤ slotCount)
      (frame : d.sio.received.push value = sealed (commandFrame device code sector))
      (command : code = 0x21 ∨ code = 0x22)
      (drive : d.rack.drive device = some index) (mounted : d.rack.images[index]? = some image)
      (writable : image.writable = true) :
      Commits d (.byte value) ⟨index, headerSize, zeros (image.bytes.size - headerSize)⟩

variable {d : Drives} {op : Op} {e : Edit}

theorem rack_perform_byte_of_full {value : UInt8} {frame : ByteArray}
    (listens : d.sio.listens = true) (frame? : d.sio.received.push value = frame)
    (size : frame.size = d.sio.frameSize) :
    (d.perform (.byte value)).rack = (d.sio.finish d.rack frame).rack := by
  subst frame?
  rw [ByteArray.size_push] at size
  rw [perform, Sio.putByte_of_full listens size]

theorem Commits.rack_perform (h : d.Commits op e) : (d.perform op).rack = d.rack.edit e := by
  cases h with
  | write phase frame length command drive mounted writable place =>
    rename_i value p payload index start image
    have listens : d.sio.listens = true := by rw [Sio.listens, phase]
    have size : (sealed payload).size = d.sio.frameSize := by
      rw [size_sealed, Sio.frameSize, phase, length]
    have written := Image.writeSector_eq_overwrite writable place
    have done : Sio.carryOut image p payload = (some (image.overwrite start payload), true) := by
      rcases command with command | command <;> simp only [Sio.carryOut, command, written]
    rw [rack_perform_byte_of_full listens frame size, Sio.finish, phase]
    rw [(Sio.finishData_sealed length (Rack.mounted_eq_some_iff.2 ⟨_, drive, mounted⟩)).2.1, done]
    exact Rack.replace_overwrite drive mounted
  | format phase line low high frame command drive mounted writable =>
    rename_i value code device index sector image
    have listens : d.sio.listens = true := by rw [Sio.listens, phase, line]
    have size : (sealed (commandFrame device code sector)).size = d.sio.frameSize := by
      rw [size_sealed, Sio.frameSize, phase]
      rfl
    rw [rack_perform_byte_of_full listens frame size, Sio.finish, phase]
    rw [(Sio.finishCommand_sealed low high (Rack.mounted_eq_some_iff.2 ⟨_, drive, mounted⟩)).2.1,
      ofByte?_eq_format_iff.2 command, Sio.answer, Image.format_eq_overwrite writable]
    exact Rack.replace_overwrite drive mounted

theorem rack_perform_byte (d : Drives) (value : UInt8) :
    (d.perform (.byte value)).rack = d.rack ∨ ∃ e, d.Commits (.byte value) e := by
  -- Only the byte that completes a frame gets to the images.
  cases listens : d.sio.listens with
  | false =>
    rw [perform, Sio.putByte_of_not_listens listens]
    exact .inl rfl
  | true =>
    by_cases full : d.sio.received.size + 1 = d.sio.frameSize
    · have size := full
      rw [← ByteArray.size_push (b := value)] at size
      rw [rack_perform_byte_of_full listens rfl size, Sio.finish]
      rw [Sio.frameSize] at size
      cases phase : d.sio.phase with
      | command =>
        rw [phase] at size
        rcases Sio.formats_of_finishCommand d.sio d.rack size with same | formats
        · exact .inl same
        · obtain ⟨device, code, sector, image, new, low, high, frame, command, mounted, formatted⟩ :=
            formats
          obtain ⟨index, drive, mounted⟩ := Rack.mounted_eq_some_iff.1 mounted
          rw [Sio.listens, phase] at listens
          exact .inr ⟨_, .format phase listens low high frame command drive mounted
            (Image.eq_overwrite_of_format formatted).1⟩
      | data p =>
        rw [phase] at size
        rcases Sio.writes_of_finishData d.sio d.rack size with same | writes
        · exact .inl same
        · obtain ⟨payload, image, new, frame, length, command, mounted, written⟩ := writes
          obtain ⟨index, drive, mounted⟩ := Rack.mounted_eq_some_iff.1 mounted
          obtain ⟨writable, start, place, -⟩ := Image.eq_overwrite_of_writeSector written
          have command : p.command = .write ∨ p.command = .put := by
            cases h : p.command with
            | write => exact .inl rfl
            | put => exact .inr rfl
            | verify => exact absurd h command
          exact .inr ⟨_, .write phase frame length command drive mounted writable place⟩
    · rw [perform, Sio.putByte_of_short listens full]
      exact .inl rfl

theorem images_perform_of_not_commits (h : ∀ e, ¬d.Commits op e) :
    (d.perform op).rack.images = d.rack.images := by
  cases op with
  | line asserted => rfl
  | byte value =>
    rcases d.rack_perform_byte value with same | ⟨e, commits⟩
    · rw [same]
    · exact absurd commits (h e)
  | pop =>
    rw [perform]
    split <;> rfl
  | mount slot device =>
    rw [perform]
    split
    · rename_i mounted
      exact Rack.images_mount mounted
    · rfl
  | unmount device => cases device <;> rfl

/-- The edits of a run, in their order: one for each operation that completes a valid frame. -/
inductive Edits : Drives → List Op → List Edit → Prop
  | nil {d : Drives} : Edits d [] []
  | edit {d : Drives} {op : Op} {e : Edit} {ops : List Op} {es : List Edit} :
      d.Commits op e → Edits (d.perform op) ops es → Edits d (op :: ops) (e :: es)
  | keep {d : Drives} {op : Op} {ops : List Op} {es : List Edit} :
      (∀ e, ¬d.Commits op e) → Edits (d.perform op) ops es → Edits d (op :: ops) es

theorem exists_edits (d : Drives) (ops : List Op) : ∃ es, d.Edits ops es := by
  induction ops generalizing d with
  | nil => exact ⟨[], .nil⟩
  | cons op ops ih =>
    obtain ⟨es, rest⟩ := ih (d.perform op)
    by_cases h : ∃ e, d.Commits op e
    · obtain ⟨e, commits⟩ := h
      exact ⟨e :: es, .edit commits rest⟩
    · exact ⟨es, .keep (fun e commits => h ⟨e, commits⟩) rest⟩

theorem Edits.images_performAll {ops : List Op} {es : List Edit} (h : d.Edits ops es) :
    (d.performAll ops).rack.images = es.foldl Edit.apply d.rack.images := by
  induction h with
  | nil => rfl
  | edit commits _ ih => exact ih.trans (by rw [commits.rack_perform]; rfl)
  | keep none _ ih => exact ih.trans (by rw [images_perform_of_not_commits none])

/-- Whatever has happened to the drives, whose images are changed by an operation that completes a
valid frame, each time one stretch of one image, and by nothing else; so that the images after a
run are those before it with the edits of its valid frames. -/
theorem images_change_by_valid_frames (d : Drives) (ops : List Op) :
    (∀ op e, (d.performAll ops).Commits op e →
      ((d.performAll ops).perform op).rack = (d.performAll ops).rack.edit e) ∧
    (∀ op, (∀ e, ¬(d.performAll ops).Commits op e) →
      ((d.performAll ops).perform op).rack.images = (d.performAll ops).rack.images) ∧
    ∃ es, d.Edits ops es ∧
      (d.performAll ops).rack.images = es.foldl Edit.apply d.rack.images := by
  refine ⟨fun _ _ commits => commits.rack_perform,
    fun _ none => images_perform_of_not_commits none, ?_⟩
  obtain ⟨es, edits⟩ := d.exists_edits ops
  exact ⟨es, edits, edits.images_performAll⟩

end Drives

end Atari800XL.Disk
