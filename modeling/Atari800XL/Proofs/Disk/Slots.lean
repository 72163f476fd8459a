import Mathlib.Logic.Function.Basic
import Atari800XL.Machine.Board

namespace Atari800XL

open Disk

namespace Disk.Rack

variable {r r' : Rack} {slot device index : Nat} {image : Image} {name : String}
  {data : ByteArray} {notices : List Notice}

theorem slot_eq (h : slot < slotCount) : r.slot slot = r.slots[slot] := by
  rw [Rack.slot, Vector.getElem?_eq_getElem h, Option.join_some]

theorem slot_set (h : slot < slotCount) (images : Array Image) (other : Nat) :
    ({ r with images, slots := r.slots.set slot (some index) } : Rack).slot other =
      if other = slot then some index else r.slot other := by
  rw [Rack.slot, Vector.getElem?_set]
  by_cases same : slot = other
  · rw [if_pos same, if_pos same.symm, Option.join_some]
  · rw [if_neg same, if_neg (Ne.symm same), Rack.slot]

theorem drive_set (low : device ≠ 0) (high : device ≤ slotCount) (other : Nat) :
    ({ r with drives := r.drives.set (device - 1) (some index) (by omega) } : Rack).drive other =
      if other = device then some index else r.drive other := by
  cases other with
  | zero => rw [if_neg (Ne.symm low), Rack.drive, Rack.drive]
  | succ d =>
    rw [Rack.drive, Vector.getElem?_set]
    by_cases same : device - 1 = d
    · rw [if_pos same, if_pos (by omega), Option.join_some]
    · rw [if_neg same, if_neg (by omega), Rack.drive]

theorem drive_unmount (r : Rack) (device other : Nat) :
    (r.unmount device).drive other = if other = device then none else r.drive other := by
  cases device with
  | zero =>
    by_cases same : other = 0
    · subst same
      rfl
    · rw [if_neg same, unmount]
  | succ d =>
    cases other with
    | zero => rfl
    | succ e =>
      rw [unmount, Rack.drive, Vector.getElem?_setIfInBounds]
      by_cases same : d = e
      · subst same
        rw [if_pos rfl, if_pos rfl]
        split <;> rfl
      · rw [if_neg same, if_neg (by omega), Rack.drive]

structure Moves (r : Rack) (device : Nat) (shown : Option Nat) (r' : Rack) : Prop where
  images : r'.images = r.images
  slots : r'.slots = r.slots
  drive : ∀ d, r'.drive d = if d = device then shown else r.drive d

theorem Moves.slot_eq {shown : Option Nat} (h : r.Moves device shown r') (s : Nat) :
    r'.slot s = r.slot s := by
  rw [Rack.slot, Rack.slot, h.slots]

theorem moves_unmount (r : Rack) (device : Nat) : r.Moves device none (r.unmount device) where
  images := by cases device <;> rfl
  slots := by cases device <;> rfl
  drive := drive_unmount r device

theorem moves_of_mount_eq_ok (h : r.mount slot device = .ok (r', notices)) :
    r.Moves device (r.slot slot) r' ∧ (r.slot slot).isSome := by
  unfold mount at h
  split at h
  · rename_i inside
    split at h
    · rename_i bounds
      split at h
      · cases h
      · rename_i index occupied
        cases h
        rw [← Rack.slot_eq inside] at occupied
        rw [occupied]
        exact ⟨⟨rfl, rfl, drive_set bounds.1 bounds.2⟩, rfl⟩
    · cases h
  · cases h

/-- The slots number the images: every image belongs to one slot, and every slot that is in use
holds an image. -/
structure Filed (r : Rack) : Prop where
  distinct : ∀ {s t i}, r.slot s = some i → r.slot t = some i → s = t
  exact : ∀ i, (∃ s, r.slot s = some i) ↔ i < r.images.size

theorem slot_empty (slot : Nat) : ({} : Rack).slot slot = none := by
  rw [Rack.slot, Vector.getElem?_replicate]
  split <;> rfl

theorem drive_empty (device : Nat) : ({} : Rack).drive device = none := by
  cases device with
  | zero => rfl
  | succ d =>
    rw [Rack.drive, Vector.getElem?_replicate]
    split <;> rfl

theorem filed_empty : ({} : Rack).Filed where
  distinct s _ := by
    rw [slot_empty] at s
    cases s
  exact i := by
    simp [slot_empty]

structure Uploads (r : Rack) (slot : Nat) (image : Image) (index : Nat) (r' : Rack) : Prop where
  place : r.slot slot = some index ∨ r.slot slot = none ∧ index = r.images.size
  slots : ∀ s, r'.slot s = if s = slot then some index else r.slot s
  images : ∀ i, r'.images[i]? = if i = index then some image else r.images[i]?
  drives : r'.drives = r.drives

theorem Filed.uploads_of_eq_ok (filed : r.Filed)
    (h : r.upload slot name data = .ok (index, r', notices)) :
    ∃ image, Image.parse name data = .ok image ∧ r.Uploads slot image index r' := by
  unfold upload at h
  split at h
  · rename_i inside
    cases parsed : Image.parse name data with
    | error fault =>
      rw [parsed] at h
      cases h
    | ok image =>
      rw [parsed] at h
      refine ⟨image, rfl, ?_⟩
      simp only [bind, Except.bind, pure, Except.pure] at h
      split at h
      · rename_i i occupied
        cases h
        rw [← slot_eq inside] at occupied
        have within : index < r.images.size := (filed.exact index).1 ⟨slot, occupied⟩
        refine ⟨.inl occupied, fun s => ?_, fun i => ?_, rfl⟩
        · split
          · rename_i same
            rw [same]
            exact occupied
          · rfl
        · rw [Array.getElem?_setIfInBounds]
          by_cases same : index = i
          · rw [if_pos same, if_pos same.symm, if_pos (same ▸ within)]
          · rw [if_neg same, if_neg (Ne.symm same)]
      · rename_i free
        cases h
        rw [← slot_eq inside] at free
        exact ⟨.inr ⟨free, rfl⟩, slot_set inside _, fun i => Array.getElem?_push, rfl⟩
  · cases h

namespace Uploads

variable (h : r.Uploads slot image index r')
include h

theorem drive (d : Nat) : r'.drive d = r.drive d := by
  rw [Rack.drive.eq_def, Rack.drive.eq_def, h.drives]

theorem size (i : Nat) : i < r'.images.size ↔ i = index ∨ i < r.images.size := by
  have isSome : (r'.images[i]?).isSome ↔ i = index ∨ (r.images[i]?).isSome := by
    rw [h.images]
    split <;> simp [*]
  simpa using isSome

theorem apart (filed : r.Filed) {s : Nat} (other : s ≠ slot) : r.slot s ≠ some index := by
  intro same
  rcases h.place with here | ⟨-, new⟩
  · exact other (filed.distinct same here)
  · have within := (filed.exact index).1 ⟨s, same⟩
    omega

theorem filed (filed : r.Filed) : r'.Filed where
  distinct {s t i} hs ht := by
    rw [h.slots] at hs ht
    split at hs <;> split at ht
    · rename_i left right
      rw [left, right]
    · rename_i left right
      exact absurd (ht.trans hs.symm) (h.apart filed right)
    · rename_i left right
      exact absurd (hs.trans ht.symm) (h.apart filed left)
    · exact filed.distinct hs ht
  exact i := by
    rw [h.size, ← filed.exact]
    constructor
    · rintro ⟨s, hs⟩
      rw [h.slots] at hs
      split at hs
      · exact .inl (Option.some.inj hs).symm
      · exact .inr ⟨s, hs⟩
    · rintro (same | ⟨s, hs⟩)
      · exact ⟨slot, by rw [h.slots, if_pos rfl, same]⟩
      · by_cases here : s = slot
        · rcases h.place with place | ⟨free, -⟩
          · rw [here] at hs
            exact ⟨slot, by rw [h.slots, if_pos rfl, ← place, hs]⟩
          · rw [here, free] at hs
            cases hs
        · exact ⟨s, by rw [h.slots, if_neg here, hs]⟩

theorem image?_of_ne {i : Option Nat} (other : i ≠ some index) : r'.image? i = r.image? i := by
  cases i with
  | none => rfl
  | some i =>
    have ne : i ≠ index := fun same => other (congrArg some same)
    rw [image?, image?, Option.bind_some, Option.bind_some, h.images, if_neg ne]

theorem image?_self : r'.image? (some index) = some image := by
  rw [image?, Option.bind_some, h.images, if_pos rfl]

end Uploads

end Disk.Rack

namespace Board

inductive DiskOp
  | upload (slot : Nat) (name : String) (data : ByteArray)
  | mount (slot device : Nat)
  | unmount (device : Nat)
  | reset

def disks (b : Board) : DiskOp → Except Fault Board
  | .upload slot name data => (b.rack.upload slot name data).map fun (_, rack, _) => { b with rack }
  | .mount slot device => (b.rack.mount slot device).map fun (rack, _) => { b with rack }
  | .unmount device => .ok { b with rack := b.rack.unmount device }
  | .reset => .ok { b with memory := b.memory.reset }

structure Ledger where
  board : Board
  source : Nat → Option Nat

namespace Ledger

def opening (b : Board) : Ledger where
  board := { b with rack := {} }
  source _ := none

def sources (source : Nat → Option Nat) : DiskOp → Nat → Option Nat
  | .mount slot device => Function.update source device (some slot)
  | .unmount device => Function.update source device none
  | .upload _ _ _ | .reset => source

def perform (l : Ledger) (op : DiskOp) : Ledger :=
  match l.board.disks op with
  | .ok board => { board, source := sources l.source op }
  | .error _ => l

def performAll (l : Ledger) (ops : List DiskOp) : Ledger := ops.foldl perform l

abbrev rack (l : Ledger) : Rack := l.board.rack

structure Sound (l : Ledger) : Prop where
  filed : l.rack.Filed
  occupied : ∀ {d s}, l.source d = some s → (l.rack.slot s).isSome
  drive : ∀ d, l.rack.drive d = (l.source d).bind l.rack.slot

variable {l : Ledger} {op : DiskOp} {board : Board}

theorem sound_opening (b : Board) : (opening b).Sound where
  filed := Rack.filed_empty
  occupied absent := by cases absent
  drive d := Rack.drive_empty d

theorem perform_of_ok (h : l.board.disks op = .ok board) :
    l.perform op = ⟨board, sources l.source op⟩ := by
  rw [perform, h]

theorem perform_of_error {fault : Fault} (h : l.board.disks op = .error fault) :
    l.perform op = l := by
  rw [perform, h]

theorem uploads_of_ok (sound : l.Sound) {slot : Nat} {name : String} {data : ByteArray}
    (h : l.board.disks (.upload slot name data) = .ok board) :
    ∃ image index, Image.parse name data = .ok image ∧
      l.rack.Uploads slot image index board.rack := by
  rw [disks] at h
  cases uploaded : l.board.rack.upload slot name data with
  | error fault =>
    rw [uploaded] at h
    cases h
  | ok done =>
    rw [uploaded] at h
    cases h
    obtain ⟨index, rack, notices⟩ := done
    obtain ⟨image, parsed, uploads⟩ := sound.filed.uploads_of_eq_ok uploaded
    exact ⟨image, index, parsed, uploads⟩

theorem moves_of_ok {slot device : Nat} (h : l.board.disks (.mount slot device) = .ok board) :
    l.rack.Moves device (l.rack.slot slot) board.rack ∧ (l.rack.slot slot).isSome := by
  rw [disks] at h
  cases mounted : l.board.rack.mount slot device with
  | error fault =>
    rw [mounted] at h
    cases h
  | ok done =>
    rw [mounted] at h
    cases h
    exact Rack.moves_of_mount_eq_ok mounted

theorem Sound.of_rack_eq (sound : l.Sound) (same : board.rack = l.board.rack) :
    Sound ⟨board, l.source⟩ where
  filed := by
    show board.rack.Filed
    rw [same]
    exact sound.filed
  occupied from_ := by
    show (board.rack.slot _).isSome
    rw [same]
    exact sound.occupied from_
  drive d := by
    show board.rack.drive d = (l.source d).bind board.rack.slot
    rw [same]
    exact sound.drive d

theorem Sound.upload (sound : l.Sound) {slot index : Nat} {image : Image}
    (h : l.rack.Uploads slot image index board.rack) : Sound ⟨board, l.source⟩ where
  filed := h.filed sound.filed
  occupied {d s} from_ := by
    show (board.rack.slot s).isSome
    rw [h.slots]
    split
    · rfl
    · exact sound.occupied from_
  drive d := by
    show board.rack.drive d = (l.source d).bind board.rack.slot
    rw [h.drive, sound.drive]
    cases from_ : l.source d with
    | none => rfl
    | some s =>
      rw [Option.bind_some, Option.bind_some, h.slots]
      split
      · rename_i here
        subst here
        -- The slot was in use, so that its image has been replaced and its index is the old one.
        have occupied := sound.occupied from_
        rcases h.place with place | ⟨free, -⟩
        · exact place
        · rw [free] at occupied
          cases occupied
      · rfl

theorem Sound.move (sound : l.Sound) {device : Nat} {source : Option Nat}
    (occupied : ∀ s, source = some s → (l.rack.slot s).isSome)
    (h : l.rack.Moves device (source.bind l.rack.slot) board.rack) :
    Sound ⟨board, Function.update l.source device source⟩ where
  filed :=
    { distinct := fun hs ht =>
        sound.filed.distinct ((h.slot_eq _).symm.trans hs) ((h.slot_eq _).symm.trans ht)
      exact := fun i => by
        show (∃ s, board.rack.slot s = some i) ↔ i < board.rack.images.size
        simp only [h.slot_eq, h.images]
        exact sound.filed.exact i }
  occupied {d s} from_ := by
    show (board.rack.slot s).isSome
    replace from_ : Function.update l.source device source d = some s := from_
    rw [h.slot_eq]
    by_cases here : d = device
    · rw [here, Function.update_self] at from_
      exact occupied s from_
    · rw [Function.update_of_ne here] at from_
      exact sound.occupied from_
  drive d := by
    have slots : board.rack.slot = l.rack.slot := funext h.slot_eq
    show board.rack.drive d = (Function.update l.source device source d).bind board.rack.slot
    rw [h.drive, slots]
    by_cases here : d = device
    · rw [if_pos here, here, Function.update_self]
    · rw [if_neg here, Function.update_of_ne here, sound.drive]

theorem Sound.perform (sound : l.Sound) (op : DiskOp) : (l.perform op).Sound := by
  cases done : l.board.disks op with
  | error fault =>
    rw [perform_of_error done]
    exact sound
  | ok board =>
    rw [perform_of_ok done]
    cases op with
    | upload slot name data =>
      obtain ⟨image, index, -, uploads⟩ := uploads_of_ok sound done
      exact sound.upload uploads
    | mount slot device =>
      obtain ⟨moves, occupied⟩ := moves_of_ok done
      refine sound.move (fun s same => ?_) moves
      cases same
      exact occupied
    | unmount device =>
      cases done
      have empties : l.rack.Moves device ((none : Option Nat).bind l.rack.slot)
          (l.rack.unmount device) := Rack.moves_unmount l.rack device
      exact sound.move (fun s absent => by cases absent) empties
    | reset =>
      cases done
      exact sound.of_rack_eq rfl

theorem Sound.performAll (sound : l.Sound) (ops : List DiskOp) : (l.performAll ops).Sound := by
  induction ops generalizing l with
  | nil => exact sound
  | cons op ops ih => exact ih (sound.perform op)

theorem Sound.drive_eq_slot_iff (sound : l.Sound) {slot index : Nat}
    (held : l.rack.slot slot = some index) (d : Nat) :
    l.rack.drive d = some index ↔ l.source d = some slot := by
  rw [sound.drive]
  constructor
  · intro shown
    obtain ⟨s, from_, same⟩ := Option.bind_eq_some_iff.1 shown
    rw [from_, sound.filed.distinct same held]
  · intro from_
    rw [from_, Option.bind_some, held]

/-- The tables are sound, and each operation does to them what it is for. -/
structure Kept (l : Ledger) : Prop where
  distinct : ∀ {s t i}, l.rack.slot s = some i → l.rack.slot t = some i → s = t
  /-- The slots hold the images from the first one to the last one. -/
  exact : ∀ i, (∃ s, l.rack.slot s = some i) ↔ i < l.rack.images.size
  drives : ∀ d i, l.rack.drive d = some i → ∃ s, l.rack.slot s = some i
  refused : ∀ op fault, l.board.disks op = .error fault → l.perform op = l
  /-- An image that is handed in is the one of its slot and of the drives mounted from there, and
  what all other slots and drives show is what they showed before. -/
  uploaded : ∀ slot name data board, l.board.disks (.upload slot name data) = .ok board →
    ∃ image, Image.parse name data = .ok image ∧
      board.rack.exportSlot slot = some image.bytes ∧
      (∀ d, board.rack.drive d = board.rack.slot slot ↔ l.source d = some slot) ∧
      (∀ d, l.source d = some slot → board.rack.mounted d = some image) ∧
      (∀ d, l.source d ≠ some slot → board.rack.mounted d = l.rack.mounted d) ∧
      ∀ s, s ≠ slot → board.rack.exportSlot s = l.rack.exportSlot s
  mounted : ∀ slot device board, l.board.disks (.mount slot device) = .ok board →
    l.rack.Moves device (l.rack.slot slot) board.rack
  unmounted : ∀ device, ∃ board, l.board.disks (.unmount device) = .ok board ∧
    l.rack.Moves device none board.rack
  reset : ∃ board, l.board.disks .reset = .ok board ∧ board.rack = l.rack

theorem Sound.kept (sound : l.Sound) : l.Kept where
  distinct := sound.filed.distinct
  exact := sound.filed.exact
  drives d i shown := by
    rw [sound.drive] at shown
    obtain ⟨s, -, held⟩ := Option.bind_eq_some_iff.1 shown
    exact ⟨s, held⟩
  refused _ _ h := perform_of_error h
  uploaded slot name data board done := by
    obtain ⟨image, index, parsed, uploads⟩ := uploads_of_ok sound done
    have after : Sound ⟨board, l.source⟩ := sound.upload uploads
    have held : board.rack.slot slot = some index := by rw [uploads.slots, if_pos rfl]
    have shows (d : Nat) : board.rack.drive d = some index ↔ l.source d = some slot :=
      after.drive_eq_slot_iff held d
    refine ⟨image, parsed, ?_, ?_, fun d from_ => ?_, fun d other => ?_, fun s other => ?_⟩
    · rw [Rack.exportSlot, held, uploads.image?_self]
      rfl
    · rw [held]
      exact shows
    · rw [Rack.mounted, (shows d).2 from_, uploads.image?_self]
    · rw [Rack.mounted, uploads.image?_of_ne (mt (shows d).1 other), uploads.drive]
      rfl
    · have apart : board.rack.slot s ≠ some index := by
        rw [uploads.slots, if_neg other]
        exact uploads.apart sound.filed other
      rw [Rack.exportSlot, uploads.image?_of_ne apart, uploads.slots, if_neg other]
      rfl
  mounted slot device board done := (moves_of_ok done).1
  unmounted device := ⟨_, rfl, Rack.moves_unmount _ device⟩
  reset := ⟨_, rfl, rfl⟩

/-- Whatever the host has done with its disks, with success or without. -/
theorem kept_performAll (b : Board) (ops : List DiskOp) : ((opening b).performAll ops).Kept :=
  ((sound_opening b).performAll ops).kept

end Ledger

end Board

end Atari800XL
