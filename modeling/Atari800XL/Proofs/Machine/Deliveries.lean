import Atari800XL.Proofs.Disk.Edits
import Atari800XL.Proofs.Disk.Sectors
import Atari800XL.Proofs.Machine.Programs

namespace Atari800XL

open Disk

namespace Disk.Rack

theorem upload_empty {name : String} {bytes : ByteArray} {image : Image}
    (parses : Image.parse name bytes = .ok image) :
    ∃ notices, ({} : Rack).upload 0 name bytes =
      .ok (0, { images := #[image], slots := (Vector.replicate _ none).set 0 (some 0) },
        notices) := by
  rw [upload, dif_pos (by decide), parses]
  exact ⟨_, rfl⟩

theorem mount_only (image : Image) :
    ∃ rack notices,
      ({ images := #[image], slots := (Vector.replicate _ none).set 0 (some 0) } : Rack).mount 0 1 =
        .ok (rack, notices) ∧ rack.mounted 1 = some image :=
  ⟨_, _, rfl, rfl⟩

end Disk.Rack

namespace Observed

def busy (s : Schedule) (cycle : UInt64) : Schedule :=
  (s.set .serialOutNeeded (cycle + Pokey.byteCycles)).set .serialOutDone
    (cycle + Pokey.byteCycles + Pokey.drainCycles)

structure Sending (o : Observed) (code : List UInt8) (image : Image) (received : ByteArray)
    (s : Schedule) : Prop where
  loaded : o.board.memory.Loaded code
  quiet : o.board.antic.interruptEnable = 0
  mounted : o.board.rack.mounted 1 = some image
  sio : o.board.sio = { commandLine := true, received }
  schedule : o.board.schedule = s

namespace Sending

variable {o : Observed} {code : List UInt8} {image : Image} {received : ByteArray} {s : Schedule}
  (h : o.Sending code image received s) (cycle : UInt64) (byte : UInt8)
include h

theorem stored :
    (o.stored cycle 0xD20D byte).board.memory.Loaded code ∧ ∃ pokey,
      (o.stored cycle 0xD20D byte).board =
        { o.board with
          clock := cycle + 2, pokey, schedule := busy s (cycle + 2) }.sendToDrives byte := by
  obtain ⟨stored, loaded⟩ := stored_pokey (a := 0xD20D) h.loaded cycle byte (by decide)
  have sends : (lowByte 0xD20D &&& 0x0F == Board.serialOutput) = true := by decide
  have schedule : (o.board.pokey.write (lowByte 0xD20D) byte (cycle + 2) o.board.schedule).2 =
      busy s (cycle + 2) := by
    rw [h.schedule]
    rfl
  refine ⟨loaded, (o.board.pokey.write (lowByte 0xD20D) byte (cycle + 2) o.board.schedule).1, ?_⟩
  rw [stored, Board.writePokey]
  simp only [sends, if_true, schedule]

theorem short (short : received.size < 4) :
    (o.stored cycle 0xD20D byte).Sending code image (received.push byte) (busy s (cycle + 2)) := by
  obtain ⟨loaded, pokey, stored⟩ := h.stored cycle byte
  have collects : o.board.sio.putByte o.board.rack byte =
      { sio := { o.board.sio with received := o.board.sio.received.push byte },
        rack := o.board.rack } := by
    rw [h.sio]
    refine Sio.putByte_of_short rfl ?_
    show received.size + 1 ≠ 5
    omega
  rw [Board.sendToDrives] at stored
  simp only [collects, Bool.false_eq_true, if_false, Board.tell] at stored
  rw [Board.expectReply_of_silent (by rw [h.sio])] at stored
  refine ⟨loaded, ?_, ?_, ?_, ?_⟩
  · rw [stored]
    exact h.quiet
  · rw [stored]
    exact h.mounted
  · rw [stored, h.sio]
  · rw [stored]

theorem answered (whole : received.push byte = sealed (commandFrame 1 0x53 0)) :
    ((o.stored cycle 0xD20D byte).board.memory.Loaded code ∧
      (o.stored cycle 0xD20D byte).board.antic.interruptEnable = 0) ∧
    ∃ a earlier, (o.stored cycle 0xD20D byte).trace = a :: earlier ∧
      a.answer? = some (cycle + 2, .ack :: .complete :: Reply.frame image.statusBlock) := by
  obtain ⟨loaded, pokey, stored⟩ := h.stored cycle byte
  let before := ((o.start cycle).start (cycle + 2)).board
  have sends : before.sends 0xD20D = true := by
    have loaded : before.memory.Loaded code := h.loaded
    rw [Board.sends, loaded.pokey (by decide)]
    decide
  have full : before.sio.putByte before.rack byte =
      before.sio.finishCommand before.rack (sealed (commandFrame 1 0x53 0)) := by
    show o.board.sio.putByte o.board.rack byte = o.board.sio.finishCommand o.board.rack _
    have size : received.size + 1 = 5 := by
      rw [← ByteArray.size_push (b := byte), whole]
      rfl
    rw [h.sio, Sio.putByte_of_full rfl size, whole]
    rfl
  have mounted : before.rack.mounted 1 = some image := h.mounted
  obtain ⟨sio, -, renewed⟩ :
      (before.sio.finishCommand before.rack (sealed (commandFrame 1 0x53 0))).sio = _ ∧ _ ∧
        (before.sio.finishCommand before.rack (sealed (commandFrame 1 0x53 0))).renewed = true :=
    Sio.finishCommand_sealed (by decide) (by decide) mounted
  refine ⟨⟨loaded, ?_⟩, _, _, rfl, ?_⟩
  · rw [stored, Board.sendToDrives, Board.antic_expectReply]
    exact h.quiet
  · rw [Observation.answer?, sends, full, renewed, sio]
    rfl

end Sending

theorem sending {o : Observed} {code : List UInt8} {image : Image} {s : Schedule}
    (loaded : o.board.memory.Loaded code) (quiet : o.board.antic.interruptEnable = 0)
    (mounted : o.board.rack.mounted 1 = some image) (pia : o.board.pia = {})
    (sio : o.board.sio = {}) (schedule : o.board.schedule = s) (cycle : UInt64) :
    (o.stored cycle 0xD303 0x34).Sending code image ByteArray.empty s := by
  have pins : hasBit (o.board.pia.write (lowByte 0xD303) 0x34).portBPins 0x01 = true := by
    rw [pia]
    decide
  have line : (o.board.pia.write (lowByte 0xD303) 0x34).commandLine = true := by
    rw [pia]
    decide
  obtain ⟨stored, loaded⟩ := stored_pia (a := 0xD303) loaded cycle 0x34 (by decide) pins
  refine ⟨loaded, ?_, ?_, ?_, ?_⟩
  · rw [stored, Board.antic_applyPorts]
    exact quiet
  · rw [stored, Board.applyPorts]
    exact mounted
  · rw [stored, Board.applyPorts]
    dsimp only
    rw [sio, line]
    rfl
  · rw [stored, Board.schedule_applyPorts]
    exact schedule

def statusStores : List (UInt16 × UInt8) :=
  [(0xD303, 0x34), (0xD20D, 0x31), (0xD20D, 0x53), (0xD20D, 0), (0xD20D, 0), (0xD20D, 0x84)]

theorem storedAll_statusStores {o : Observed} {code : List UInt8} {image : Image}
    (loaded : o.board.memory.Loaded code) {b : Board} (new : b.New) {rack : Rack}
    (fitted : o.board = { b with rack }) (mounted : rack.mounted 1 = some image) :
    o.GoThrough code 7 statusStores ∧
      (o.storedAll 7 statusStores).board.antic.interruptEnable = 0 ∧
      ∃ a earlier, (o.storedAll 7 statusStores).trace = a :: earlier ∧
        a.answer? = some (39, .ack :: .complete :: Reply.frame image.statusBlock) := by
  have schedule : o.board.schedule = ({} : Schedule).set .lineFetch Display.cyclesPerLine := by
    rw [fitted, ← new.schedule]
  have sending : (o.stored 7 0xD303 0x34).Sending code image ByteArray.empty
      (({} : Schedule).set .lineFetch Display.cyclesPerLine) := by
    refine sending loaded ?_ ?_ ?_ ?_ schedule 7
    · rw [fitted]
      exact congrArg Antic.interruptEnable new.antic
    · rw [fitted]
      exact mounted
    · rw [fitted]
      exact new.pia
    · rw [fitted]
      exact new.sio
  have first := sending.short (7 + 6) 0x31 (by decide)
  have second := first.short (7 + 6 + 6) 0x53 (by decide)
  have third := second.short (7 + 6 + 6 + 6) 0 (by decide)
  have fourth := third.short (7 + 6 + 6 + 6 + 6) 0 (by decide)
  obtain ⟨⟨loaded, quiet⟩, answered⟩ :=
    fourth.answered (7 + 6 + 6 + 6 + 6 + 6) 0x84 (by decide)
  have last : o.storedAll 7 statusStores =
      (((((o.stored 7 0xD303 0x34).stored (7 + 6) 0xD20D 0x31).stored (7 + 6 + 6) 0xD20D 0x53).stored
        (7 + 6 + 6 + 6) 0xD20D 0).stored (7 + 6 + 6 + 6 + 6) 0xD20D 0).stored
          (7 + 6 + 6 + 6 + 6 + 6) 0xD20D 0x84 := rfl
  rw [last]
  refine ⟨⟨?_, sending.loaded, ?_, first.loaded, ?_, second.loaded, ?_, third.loaded, ?_,
    fourth.loaded, ?_, loaded, trivial⟩, quiet, answered⟩
  · rw [schedule]
    decide
  · rw [sending.schedule]
    decide
  · rw [first.schedule]
    decide
  · rw [second.schedule]
    decide
  · rw [third.schedule]
    decide
  · rw [fourth.schedule]
    decide

end Observed

theorem Observation.answer?_of_not_isWrite {a : Observation} (h : a.isWrite = false) :
    a.answer? = none := by
  cases a with
  | wrote => cases h
  | _ => rfl

namespace Session

theorem call_eq {s : Session} {c : Machine.Call} {cpu : Cpu} {board : Board}
    (h : s.machine.perform c = ⟨cpu, board⟩) : s.call c = ⟨cpu, { s.observed with board }⟩ := by
  rw [call, h]

theorem upload_mount {s : Session} (empty : s.observed.board.rack = {}) {name : String}
    {bytes : ByteArray} {image : Image} (parses : Image.parse name bytes = .ok image) :
    let s' := (s.call (.upload 0 name bytes)).call (.mount 0 1)
    s'.cpu = s.cpu ∧ ∃ rack,
      s'.observed.board = { s.observed.board with rack } ∧ rack.mounted 1 = some image := by
  obtain ⟨told, uploads⟩ := Rack.upload_empty parses
  obtain ⟨rack, told', mounts, mounted⟩ := Rack.mount_only image
  let stored : Rack := { images := #[image], slots := (Vector.replicate _ none).set 0 (some 0) }
  let board : Board := { s.observed.board with rack := stored }
  have uploaded : s.machine.perform (.upload 0 name bytes) = ⟨s.cpu, board⟩ := by
    have rack : s.machine.board.rack = {} := empty
    simp only [Machine.perform, Machine.upload, rack, uploads]
    rfl
  have placed : Machine.perform ⟨s.cpu, board⟩ (.mount 0 1) = ⟨s.cpu, { board with rack }⟩ := by
    have same : board.rack.mount 0 1 = .ok (rack, told') := mounts
    simp only [Machine.perform, Machine.mount, same]
    rfl
  have loaded : s.call (.upload 0 name bytes) = ⟨s.cpu, { s.observed with board }⟩ :=
    call_eq uploaded
  have whole := call_eq (s := ⟨s.cpu, { s.observed with board }⟩) placed
  rw [loaded, whole]
  exact ⟨rfl, rack, rfl, mounted⟩

open Observation

/-- No byte of an answer is lost, doubled or left waiting. -/
structure DeliversReplies (s : Session) : Prop where
  armed : s.observed.board.schedule.serialInReady ≠ never ↔ 0 < s.observed.board.sio.remaining
  /-- What has arrived since the latest answer, and what is expected, is that answer in order, each
  byte at its deadline. -/
  latest : ∀ later answer earlier t replies, s.observed.trace = later ++ answer :: earlier →
    answer.answer? = some (t, replies) → (∀ a ∈ later, a.answer? = none) →
    deliveries later ++ s.observed.board.pending = timetable t.toNat replies
  /-- What has arrived between an answer and the next one is a beginning of the older answer, so
  that none of its other bytes ever arrives. -/
  replaced : ∀ newer later answer earlier t replies,
    s.observed.trace = newer ++ later ++ answer :: earlier →
    answer.answer? = some (t, replies) → (∀ a ∈ later, a.answer? = none) →
    deliveries later <+: timetable t.toNat replies
  /-- A byte that is due has arrived when an instruction starts. -/
  prompt : ∀ newer cycle later answer earlier t replies,
    s.observed.trace = newer ++ .started cycle :: (later ++ answer :: earlier) →
    answer.answer? = some (t, replies) → (∀ a ∈ later, a.answer? = none) →
    ∀ e ∈ timetable t.toNat replies, e.1 ≤ cycle.toNat → e ∈ deliveries later
  /-- Nothing arrives before the first answer. -/
  unasked : ∀ newer later, s.observed.trace = newer ++ later → (∀ a ∈ later, a.answer? = none) →
    deliveries later = []

theorem owed_of_answer {answer : Observation} {earlier : List Observation} {t : UInt64}
    {replies : List Reply} (h : answer.answer? = some (t, replies)) :
    owed (answer :: earlier) = timetable t.toNat replies := by
  rw [owed, h]

theorem Reachable.deliversReplies {s : Session} (h : s.Reachable) : s.DeliversReplies := by
  have timed : s.observed.RepliesTimed := (Observed.RepliesTimed.invariant.reachable h).2
  have punctual := timed.punctual
  exact
    { armed := by
        rw [ne_eq, timed.armed, Sio.remaining, List.length_pos_iff]
      latest := fun later answer earlier t replies trace answered kept => by
        rw [← timed.owed, trace, ← owed_of_answer answered]
        rw [trace] at punctual
        exact punctual.deliveries_append_owed kept
      replaced := fun newer later answer earlier t replies trace answered kept => by
        rw [trace, List.append_assoc] at punctual
        rw [← owed_of_answer answered, ← punctual.of_append.deliveries_append_owed kept]
        exact List.prefix_append _ _
      prompt := fun newer cycle later answer earlier t replies trace answered kept e mem due => by
        rw [trace] at punctual
        obtain ⟨before, -, late⟩ := punctual.of_append
        rw [← owed_of_answer answered, ← before.deliveries_append_owed kept] at mem
        rcases List.mem_append.1 mem with arrived | waiting
        · exact arrived
        · exact absurd due (Nat.not_le.2 (late cycle rfl e waiting))
      unasked := fun newer later trace kept => by
        rw [trace] at punctual
        have all := punctual.of_append
        rw [← List.append_nil later] at all
        have none := all.deliveries_append_owed kept
        exact (List.append_eq_nil_iff.1 none).1 }

/-- A host puts a disk into drive 1, and a program asks for the drive's status. After some
thousand cycles the answer has come. -/
theorem deliversReplies_status :
    ∃ s : Session, s.Reachable ∧ s.DeliversReplies ∧ ∃ later answer earlier replies,
      s.observed.trace = later ++ answer :: earlier ∧ answer.answer? = some (39, replies) ∧
        (∀ a ∈ later, a.answer? = none) ∧
          deliveries later =
            [(1839, 0x41), (3339, 0x43), (4269, 0x30), (5199, 0xFF), (6129, 0xE0), (7059, 0x00),
              (7989, 0x11)] := by
  obtain ⟨s₀, start, total, new⟩ := exists_new (Program.storing Observed.statusStores)
  have start := (start.call (.upload 0 "S.ATR" Image.sample.bytes)).call (.mount 0 1)
  obtain ⟨same, rack, fitted, mounted⟩ := upload_mount new.rack Image.parse_sample
  obtain ⟨goes, quiet, a, earlier, trace, answered⟩ :=
    Observed.storedAll_statusStores start.loaded new fitted mounted
  have total := (congrArg Cpu.total same).trans total
  obtain ⟨s, ran⟩ :=
    start.ranOn List.prefix_rfl total (by decide) goes quiet 20000 (by decide) (by decide)
  obtain ⟨later, same, unwritten⟩ := Observed.exists_later ran.idle
  have kept : ∀ x ∈ later, x.answer? = none := fun x mem => answer?_of_not_isWrite (unwritten x mem)
  have trace : s.observed.trace = later ++ a :: earlier :=
    same.trans (congrArg (later ++ ·) trace)
  have delivers := ran.reachable.deliversReplies
  have all := delivers.latest later a earlier _ _ trace answered kept
  have timed : timetable 39 (.ack :: .complete :: Reply.frame Image.sample.statusBlock) =
      [(1839, 0x41), (3339, 0x43), (4269, 0x30), (5199, 0xFF), (6129, 0xE0), (7059, 0x00),
        (7989, 0x11)] := by decide
  have empty : s.observed.board.pending = [] := by
    refine List.eq_nil_iff_forall_not_mem.2 fun e mem => ?_
    have late := Observed.RepliesTimed.due_of_next ran.reachable.sound
      (ran.reachable.due_eq_none_iff.1 ran.none) mem
    have soon : ∀ e ∈ timetable 39 (.ack :: .complete :: Reply.frame Image.sample.statusBlock),
        e.1 ≤ 7989 := by
      rw [timed]
      decide
    have := soon e (all ▸ List.mem_append_right _ mem)
    have := ran.reaches
    have target : (20000 : UInt64).toNat = 20000 := rfl
    omega
  rw [empty, List.append_nil] at all
  exact ⟨s, ran.reachable, delivers, later, a, earlier, _, trace, answered, kept, all.trans timed⟩

end Session

end Atari800XL
