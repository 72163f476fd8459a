import Atari800XL.Proofs.Disk.Answers
import Atari800XL.Proofs.Disk.Drives
import Atari800XL.Proofs.Disk.Overwrite

/-! The receiver of frames. Whatever is sent, and whatever becomes of the images meanwhile, what has
been collected is shorter than the frame that is expected, so that every frame comes to its end. -/

namespace Atari800XL.Disk

namespace Sio

/-- What is done to the receiver. Images and drives may have become anything when a byte comes. -/
inductive Operation
  | line (asserted : Bool)
  | byte (rack : Rack) (value : UInt8)
  | pop

def perform (s : Sio) : Operation → Sio
  | .line asserted => s.setCommandLine asserted
  | .byte rack value => (s.putByte rack value).sio
  | .pop => (s.pop.map (·.2)).getD s

def performAll (s : Sio) (operations : List Operation) : Sio := operations.foldl perform s

variable {s : Sio}

theorem perform_pop (s : Sio) : s.perform .pop = { s with replies := s.replies.tail } := by
  obtain ⟨line, phase, received, replies⟩ := s
  cases replies <;> rfl

structure Awaited (p : Pending) : Prop where
  device : 1 ≤ p.device ∧ p.device ≤ slotCount
  length : p.length = 128 ∨ p.length = 256

structure InFrame (s : Sio) : Prop where
  short : s.received.size < s.frameSize
  awaited : ∀ p, s.phase = .data p → Awaited p

theorem frameSize_pos (s : Sio) : 0 < s.frameSize := by
  unfold frameSize
  split
  · exact Nat.succ_pos 4
  · exact Nat.succ_pos _

theorem sectorLength_cases {image : Image} {sector : UInt16} {length : Nat}
    (found : image.sectorLength sector = some length) : length = 128 ∨ length = 256 := by
  obtain ⟨⟨start, length⟩, place, rfl⟩ := Option.map_eq_some_iff.1 found
  have size : image.sectorSize = 128 ∨ image.sectorSize = 256 := by
    rw [Image.sectorSize]
    cases image.density
    · exact .inl rfl
    · exact .inr rfl
  obtain ⟨-, place, -⟩ := Image.sector?_eq_some_iff.1 place
  rw [Image.place] at place
  split at place
  · exact .inl (Prod.mk.inj place).2.symm
  · rwa [← (Prod.mk.inj place).2]

theorem awaited_answer {image : Image} {device : Nat} {command : Option Command} {sector : UInt16}
    {p : Pending} (drive : 1 ≤ device ∧ device ≤ slotCount)
    (waits : (answer image device command sector).phase = .data p) : Awaited p := by
  unfold answer at waits
  split at waits
  · cases waits
  · split at waits <;> cases waits
  · cases waits
  · split at waits
    · cases waits
    · rename_i length found
      cases waits
      exact ⟨drive, sectorLength_cases found⟩
  · split at waits <;> cases waits
  · cases waits

theorem inFrame_of_received {s : Sio} (empty : s.received = ByteArray.empty)
    (awaited : ∀ p, s.phase = .data p → Awaited p) : s.InFrame := by
  refine ⟨?_, awaited⟩
  rw [empty]
  exact s.frameSize_pos

theorem inFrame_finishCommand (h : s.InFrame) (rack : Rack) (frame : ByteArray) :
    (s.finishCommand rack frame).sio.received = ByteArray.empty ∧
      (s.finishCommand rack frame).sio.InFrame := by
  unfold finishCommand
  dsimp only
  split
  · exact ⟨rfl, inFrame_of_received rfl h.awaited⟩
  · rename_i device image found
    obtain ⟨device', address, mounted⟩ := Option.bind_eq_some_iff.1 found
    obtain ⟨image', -, same⟩ := Option.map_eq_some_iff.1 mounted
    obtain ⟨rfl, rfl⟩ := Prod.mk.inj same
    obtain ⟨low, high, -⟩ := driveOfAddress?_eq_some_iff.1 address
    split
    · exact ⟨rfl, inFrame_of_received rfl nofun⟩
    · exact ⟨rfl, inFrame_of_received rfl fun p => awaited_answer ⟨low, high⟩⟩

theorem inFrame_finishData (s : Sio) (rack : Rack) (p : Pending) (frame : ByteArray) :
    (s.finishData rack p frame).sio.received = ByteArray.empty ∧
      (s.finishData rack p frame).sio.InFrame := by
  unfold finishData
  dsimp only
  split
  · exact ⟨rfl, inFrame_of_received rfl nofun⟩
  · split <;> exact ⟨rfl, inFrame_of_received rfl nofun⟩

theorem inFrame_finish (h : s.InFrame) (rack : Rack) (frame : ByteArray) :
    (s.finish rack frame).sio.received = ByteArray.empty ∧ (s.finish rack frame).sio.InFrame := by
  unfold finish
  split
  · exact inFrame_finishCommand h rack frame
  · exact inFrame_finishData s rack _ frame

theorem inFrame_putByte (h : s.InFrame) (rack : Rack) (value : UInt8) :
    (s.putByte rack value).sio.InFrame := by
  cases hears : s.listens with
  | false => rwa [putByte_of_not_listens hears]
  | true =>
    by_cases full : s.received.size + 1 = s.frameSize
    · rw [putByte_of_full hears full]
      exact (inFrame_finish h rack _).2
    · rw [putByte_of_short hears full]
      refine ⟨?_, h.awaited⟩
      show (s.received.push value).size < s.frameSize
      rw [ByteArray.size_push]
      exact Nat.lt_of_le_of_ne h.short full

theorem inFrame_setCommandLine (h : s.InFrame) (asserted : Bool) :
    (s.setCommandLine asserted).InFrame := by
  unfold setCommandLine
  split
  · exact inFrame_of_received rfl nofun
  · exact ⟨h.short, h.awaited⟩

theorem InFrame.perform (h : s.InFrame) (o : Operation) : (s.perform o).InFrame :=
  match o with
  | .line asserted => inFrame_setCommandLine h asserted
  | .byte rack value => inFrame_putByte h rack value
  | .pop => by
    rw [perform_pop]
    exact ⟨h.short, h.awaited⟩

theorem InFrame.performAll (h : s.InFrame) (operations : List Operation) :
    (s.performAll operations).InFrame := by
  induction operations generalizing s with
  | nil => exact h
  | cons o operations ih => exact ih (h.perform o)

theorem inFrame_new : ({} : Sio).InFrame := inFrame_of_received rfl nofun

def sending (bytes : List (Rack × UInt8)) : List Operation :=
  bytes.map fun (rack, value) => .byte rack value

def collect (received : ByteArray) (bytes : List (Rack × UInt8)) : ByteArray :=
  bytes.foldl (fun received (_, value) => received.push value) received

theorem size_collect (received : ByteArray) (bytes : List (Rack × UInt8)) :
    (collect received bytes).size = received.size + bytes.length := by
  induction bytes generalizing received with
  | nil => rfl
  | cons byte bytes ih =>
    refine (ih (received.push byte.2)).trans ?_
    rw [ByteArray.size_push, List.length_cons]
    omega

theorem performAll_sending_of_short (hears : s.listens = true) {bytes : List (Rack × UInt8)}
    (short : s.received.size + bytes.length < s.frameSize) :
    s.performAll (sending bytes) = { s with received := collect s.received bytes } := by
  induction bytes generalizing s with
  | nil => rfl
  | cons byte bytes ih =>
    rw [List.length_cons] at short
    have first : (s.putByte byte.1 byte.2).sio = { s with received := s.received.push byte.2 } := by
      rw [putByte_of_short hears (by omega)]
    have rest : (s.received.push byte.2).size + bytes.length < s.frameSize := by
      rw [ByteArray.size_push]
      omega
    show (s.putByte byte.1 byte.2).sio.performAll (sending bytes) = _
    rw [first]
    exact ih (s := { s with received := s.received.push byte.2 }) hears rest

theorem putByte_performAll_sending (h : s.InFrame) (hears : s.listens = true)
    {bytes : List (Rack × UInt8)} (whole : s.received.size + bytes.length + 1 = s.frameSize)
    (rack : Rack) (value : UInt8) :
    ∃ frame, frame.size = s.frameSize ∧
      let last := (s.performAll (sending bytes)).putByte rack value
      last = ({ s with received := collect s.received bytes } : Sio).finish rack frame ∧
        last.sio.received = ByteArray.empty := by
  have size := size_collect s.received bytes
  have last : (s.performAll (sending bytes)).putByte rack value =
      ({ s with received := collect s.received bytes } : Sio).finish rack
        ((collect s.received bytes).push value) := by
    rw [performAll_sending_of_short hears (by omega)]
    refine putByte_of_full hears ?_
    show (collect s.received bytes).size + 1 = s.frameSize
    rw [size, whole]
  have inFrame : ({ s with received := collect s.received bytes } : Sio).InFrame := by
    refine ⟨?_, h.awaited⟩
    show (collect s.received bytes).size < s.frameSize
    omega
  refine ⟨(collect s.received bytes).push value, ?_, last, ?_⟩
  · rw [ByteArray.size_push, size, whole]
  · rw [last]
    exact (inFrame_finish inFrame rack _).1

def Step.keeping (step : Step) (old : List Reply) : Step :=
  bif step.renewed then step else { step with sio := { step.sio with replies := old } }

theorem Step.keeping_of_renewed {step : Step} {old : List Reply} (h : step.renewed = true) :
    step.keeping old = step := by
  rw [keeping, h, cond_true]

theorem Step.renewed_keeping (step : Step) (old : List Reply) :
    (step.keeping old).renewed = step.renewed := by
  unfold keeping
  cases renewed : step.renewed
  · rfl
  · exact renewed

theorem Step.sio_keeping_of_kept {step : Step} {old : List Reply} (h : step.renewed = false) :
    (step.keeping old).sio = { step.sio with replies := old } := by
  rw [keeping, h, cond_false]

section

variable (s : Sio) (rack : Rack) (old : List Reply)

theorem finishCommand_keeping (frame : ByteArray) :
    ({ s with replies := old } : Sio).finishCommand rack frame =
      (s.finishCommand rack frame).keeping old := by
  unfold finishCommand
  dsimp only
  generalize (driveOfAddress? (Image.byteAt frame 0)).bind _ = found
  match found with
  | none => rfl
  | some (device, image) =>
    dsimp only
    cases checksum (frame.extract 0 4) == Image.byteAt frame 4 <;> rfl

theorem finishData_keeping (p : Pending) (frame : ByteArray) :
    ({ s with replies := old } : Sio).finishData rack p frame =
      (s.finishData rack p frame).keeping old := by
  unfold finishData
  dsimp only
  cases checksum (frame.extract 0 p.length) == Image.byteAt frame p.length with
  | false => rfl
  | true =>
    generalize rack.mounted p.device = image
    cases image <;> rfl

theorem finish_keeping (frame : ByteArray) :
    ({ s with replies := old } : Sio).finish rack frame = (s.finish rack frame).keeping old := by
  obtain ⟨line, phase, received, replies⟩ := s
  cases phase with
  | command => exact finishCommand_keeping _ rack old frame
  | data p => exact finishData_keeping _ rack old p frame

theorem putByte_keeping (value : UInt8) :
    ({ s with replies := old } : Sio).putByte rack value =
      (s.putByte rack value).keeping old := by
  cases hears : s.listens with
  | false =>
    have hears' : ({ s with replies := old } : Sio).listens = false := hears
    rw [putByte_of_not_listens hears, putByte_of_not_listens hears']
    rfl
  | true =>
    have hears' : ({ s with replies := old } : Sio).listens = true := hears
    by_cases full : s.received.size + 1 = s.frameSize
    · rw [putByte_of_full hears full, putByte_of_full hears' full]
      exact finish_keeping s rack old _
    · rw [putByte_of_short hears full, putByte_of_short hears' full]
      rfl

end

theorem renewed_iff (s : Sio) (rack : Rack) (value : UInt8) :
    (s.putByte rack value).renewed = true ↔ ∃ fresh, ∀ old,
      (({ s with replies := old } : Sio).putByte rack value).sio.replies = fresh := by
  constructor
  · intro renewed
    refine ⟨(s.putByte rack value).sio.replies, fun old => ?_⟩
    rw [putByte_keeping s rack old value, Step.keeping_of_renewed renewed]
  · rintro ⟨fresh, same⟩
    cases kept : (s.putByte rack value).renewed with
    | true => rfl
    | false =>
      have stays (old : List Reply) : fresh = old := by
        rw [← same old, putByte_keeping s rack old value, Step.sio_keeping_of_kept kept]
      exact absurd ((stays [.nak]).symm.trans (stays [])) (List.cons_ne_nil _ _)

/-- The bytes of an answer: the command is refused or accepted, and what was asked for done, not
done, or done with a payload to tell. -/
inductive Response : List UInt8 → Prop
  | refused : Response [0x4E]
  | accepted : Response [0x41]
  | completed : Response [0x41, 0x43]
  | failed : Response [0x41, 0x45]
  | delivered (payload : ByteArray) :
    Response (0x41 :: 0x43 :: (payload.data.toList ++ [checksum payload]))

theorem Form.response {replies : List Reply} (h : Form replies) :
    Response (replies.map (·.byte)) := by
  cases h with
  | refused => exact .refused
  | accepted => exact .accepted
  | completed => exact .completed
  | failed => exact .failed
  | delivered payload =>
    have bytes : (Reply.frame payload).map (·.byte) =
        payload.data.toList ++ [checksum payload] := by
      rw [Reply.frame, List.map_map]
      exact List.map_id _
    rw [List.map_cons, List.map_cons, bytes]
    exact .delivered payload

theorem Form.nextDelay (h : Form s.replies) : s.nextDelay = some 1800 := by
  unfold Sio.nextDelay
  generalize s.replies = replies at h
  cases h <;> rfl

end Sio

/-- An answer that is kept until its last byte has been taken, and the place of the next byte. -/
structure Tray where
  replies : Array Reply := #[]
  next : Nat := 0

namespace Tray

def rest (t : Tray) : List Reply := t.replies.toList.drop t.next

def push (t : Tray) (reply : Reply) : Tray := { t with replies := t.replies.push reply }

def fill (replies : List Reply) : Tray := replies.foldl push {}

def pop (t : Tray) : Option (UInt8 × Tray) :=
  t.replies[t.next]?.map fun reply =>
    (reply.byte, if t.next + 1 = t.replies.size then {} else { t with next := t.next + 1 })

def Sound (t : Tray) : Prop := t.next < t.replies.size ∨ t.next = 0 ∧ t.replies.size = 0

variable {t : Tray}

theorem foldl_push (t : Tray) (replies : List Reply) :
    replies.foldl push t = { t with replies := t.replies ++ replies.toArray } := by
  induction replies generalizing t with
  | nil => simp
  | cons reply replies ih => simp [ih, push]

theorem fill_eq (replies : List Reply) : fill replies = { replies := replies.toArray } := by
  simp [fill, foldl_push]

theorem rest_fill (replies : List Reply) : (fill replies).rest = replies := by
  rw [fill_eq, rest, List.drop_zero]

theorem sound_fill (replies : List Reply) : (fill replies).Sound := by
  rw [fill_eq]
  cases replies with
  | nil => exact .inr ⟨rfl, rfl⟩
  | cons reply replies => exact .inl (Nat.succ_pos _)

theorem Sound.next_add_length (h : t.Sound) : t.next + t.rest.length = t.replies.size := by
  unfold Sound at h
  rw [rest, List.length_drop, Array.length_toList]
  omega

theorem pop_eq_none (done : t.rest = []) : t.pop = none := by
  have behind : t.replies.toList.length ≤ t.next := List.drop_eq_nil_iff.1 done
  rw [Tray.pop, Array.getElem?_eq_none behind]
  rfl

theorem pop_eq_some {reply : Reply} {later : List Reply} (left : t.rest = reply :: later) :
    ∃ t', t.pop = some (reply.byte, t') ∧ t'.Sound ∧ t'.rest = later := by
  have inside : t.next < t.replies.toList.length := by
    refine Nat.lt_of_not_le fun behind => ?_
    rw [rest, List.drop_eq_nil_of_le behind] at left
    cases left
  have next : t.replies.toList.drop t.next = _ := List.drop_eq_getElem_cons inside
  obtain ⟨here, behind⟩ := List.cons.inj (next.symm.trans left)
  have found : t.replies[t.next]? = some reply := by
    rw [← here, Array.getElem_toList]
    exact Array.getElem?_eq_getElem inside
  rw [Tray.pop, found]
  refine ⟨_, rfl, ?_, ?_⟩
  · split
    · exact .inr ⟨rfl, rfl⟩
    · left
      rw [Array.length_toList] at inside
      show t.next + 1 < t.replies.size
      omega
  · split
    · rename_i last
      rw [← behind, List.drop_eq_nil_of_le (Nat.le_of_eq last.symm)]
      rfl
    · exact behind

end Tray

/-- A receiver whose answers lie in a tray. Its own list of replies is not looked at. -/
structure Buffered where
  receiver : Sio := {}
  tray : Tray := {}

namespace Buffered

def perform (b : Buffered) : Sio.Operation → Buffered
  | .line asserted => { b with receiver := b.receiver.setCommandLine asserted }
  | .byte rack value =>
    let step := b.receiver.putByte rack value
    { receiver := step.sio, tray := if step.renewed then .fill step.sio.replies else b.tray }
  | .pop => { b with tray := (b.tray.pop.map (·.2)).getD b.tray }

def performAll (b : Buffered) (operations : List Sio.Operation) : Buffered :=
  operations.foldl perform b

def view (b : Buffered) : Sio := { b.receiver with replies := b.tray.rest }

variable {b : Buffered}

theorem putByte_view (b : Buffered) (rack : Rack) (value : UInt8) :
    b.view.putByte rack value = (b.receiver.putByte rack value).keeping b.tray.rest :=
  Sio.putByte_keeping b.receiver rack b.tray.rest value

theorem tray_byte (b : Buffered) (rack : Rack) (value : UInt8) :
    (b.perform (.byte rack value)).tray =
      if (b.view.putByte rack value).renewed then .fill (b.view.putByte rack value).sio.replies
      else b.tray := by
  rw [putByte_view, Sio.Step.renewed_keeping, perform]
  cases renewed : (b.receiver.putByte rack value).renewed with
  | true => rw [Sio.Step.keeping_of_renewed renewed]
  | false => rfl

theorem view_byte (b : Buffered) (rack : Rack) (value : UInt8) :
    (b.perform (.byte rack value)).view = (b.view.putByte rack value).sio := by
  rw [putByte_view, perform]
  cases renewed : (b.receiver.putByte rack value).renewed with
  | true =>
    rw [Sio.Step.keeping_of_renewed renewed, if_pos rfl, view]
    dsimp only
    rw [Tray.rest_fill]
  | false =>
    rw [Sio.Step.sio_keeping_of_kept renewed, if_neg Bool.false_ne_true, view]

theorem view_line (b : Buffered) (asserted : Bool) :
    (b.perform (.line asserted)).view = b.view.setCommandLine asserted := by
  rw [view, perform, view, Sio.setCommandLine, Sio.setCommandLine]
  cases asserted <;> cases b.receiver.commandLine <;> rfl

theorem pop_step (sound : b.tray.Sound) :
    (b.perform .pop).tray.Sound ∧ (b.perform .pop).view = b.view.perform .pop ∧
      b.tray.pop.map (·.1) = b.view.pop.map (·.1) := by
  cases left : b.tray.rest with
  | nil =>
    have empty : b.tray.pop = none := Tray.pop_eq_none left
    have same : b.perform .pop = b := by simp [perform, empty]
    rw [same, empty]
    exact ⟨sound, by simp [view, Sio.perform_pop, left], by simp [view, Sio.pop, left]⟩
  | cons reply later =>
    obtain ⟨t', taken, sound', rest'⟩ := Tray.pop_eq_some left
    have next : b.perform .pop = { b with tray := t' } := by simp [perform, taken]
    rw [next, taken]
    exact ⟨sound', by simp [view, Sio.perform_pop, left, rest'], by simp [view, Sio.pop, left]⟩

theorem perform_step (sound : b.tray.Sound) (o : Sio.Operation) :
    (b.perform o).tray.Sound ∧ (b.perform o).view = b.view.perform o := by
  cases o with
  | line asserted => exact ⟨sound, view_line b asserted⟩
  | byte rack value =>
    refine ⟨?_, view_byte b rack value⟩
    rw [tray_byte]
    split
    · exact Tray.sound_fill _
    · exact sound
  | pop => exact ⟨(pop_step sound).1, (pop_step sound).2.1⟩

theorem performAll_view (sound : b.tray.Sound) (operations : List Sio.Operation) :
    (b.performAll operations).tray.Sound ∧
      (b.performAll operations).view = b.view.performAll operations := by
  induction operations generalizing b with
  | nil => exact ⟨sound, rfl⟩
  | cons o operations ih =>
    obtain ⟨sound', same⟩ := perform_step sound o
    obtain ⟨sound'', run⟩ := ih sound'
    exact ⟨sound'', run.trans (congrArg (·.performAll operations) same)⟩

end Buffered

/-- Nothing that is done to a receiver, with whatever images, makes it collect a byte too many.
Every frame therefore ends with the byte that gives it its length. What is to be taken of an answer
can be kept in a tray without losing its place, and is replaced just when this is told. -/
theorem never_overruns (operations : List Sio.Operation) :
    let s := ({} : Sio).performAll operations
    let b := ({} : Buffered).performAll operations
    (s.phase = .command → s.received.size < 5) ∧
    (∀ p, s.phase = .data p →
      (p.length = 128 ∨ p.length = 256) ∧ (1 ≤ p.device ∧ p.device ≤ 8) ∧
        (p.command = .write ∨ p.command = .put ∨ p.command = .verify) ∧
        s.received.size ≤ p.length) ∧
    (∀ bytes rack value, s.listens = true →
      s.received.size + bytes.length + 1 = s.frameSize →
        ∃ frame, frame.size = s.frameSize ∧
          let last := (s.performAll (Sio.sending bytes)).putByte rack value
          last = ({ s with received := Sio.collect s.received bytes } : Sio).finish rack frame ∧
            last.sio.received = ByteArray.empty) ∧
    b.view = s ∧
    (b.tray.next < b.tray.replies.size ∨ b.tray.next = 0 ∧ b.tray.replies.size = 0) ∧
    b.tray.next + s.remaining = b.tray.replies.size ∧
    b.tray.pop.map (·.1) = s.pop.map (·.1) ∧
    ∀ rack value,
      let step := s.putByte rack value
      let tray := (b.perform (.byte rack value)).tray
      (step.renewed = true ↔ ∃ fresh, ∀ old,
        (({ s with replies := old } : Sio).putByte rack value).sio.replies = fresh) ∧
      (step.renewed = true → Sio.Response (step.sio.replies.map (·.byte)) ∧
        step.sio.nextDelay = some 1800 ∧ tray = { replies := step.sio.replies.toArray }) ∧
      (step.renewed = false → step.sio.replies = s.replies ∧ tray = b.tray) := by
  intro s b
  have inFrame : s.InFrame := Sio.inFrame_new.performAll operations
  obtain ⟨sound, same⟩ := Buffered.performAll_view (b := {}) (.inr ⟨rfl, rfl⟩) operations
  have view : b.view = s := same
  have collected : s.received.size < s.frameSize := inFrame.short
  refine ⟨fun phase => ?_, fun p phase => ?_, fun bytes rack value hears whole => ?_, view, sound,
    ?_, ?_, fun rack value => ⟨s.renewed_iff rack value, fun renewed => ?_, fun kept => ?_⟩⟩
  · rwa [Sio.frameSize, phase] at collected
  · rw [Sio.frameSize, phase] at collected
    refine ⟨(inFrame.awaited p phase).length, (inFrame.awaited p phase).device, ?_,
      Nat.le_of_lt_succ collected⟩
    cases p.command <;> simp
  · exact Sio.putByte_performAll_sending inFrame hears whole rack value
  · rw [← view, Sio.remaining]
    exact sound.next_add_length
  · rw [← view]
    exact (Buffered.pop_step sound).2.2
  · have form := (s.answers_putByte rack value).renewed renewed
    refine ⟨form.response, form.nextDelay, ?_⟩
    rw [Buffered.tray_byte, view, if_pos renewed, Tray.fill_eq]
  · refine ⟨(s.answers_putByte rack value).kept kept, ?_⟩
    rw [Buffered.tray_byte, view, kept]
    rfl

end Atari800XL.Disk
