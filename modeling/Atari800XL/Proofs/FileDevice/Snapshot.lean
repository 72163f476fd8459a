import Atari800XL.Proofs.FileDevice.Commands

namespace Atari800XL.FileDevice

open Files

def Task.Spares (t : Task) (d : FileDevice) (m : Memory) (i : ChannelIndex) (a : UInt8) : Prop :=
  match t with
  | .central .close => False
  | .central .opening => (Iocb.ofChannel i).handlerId m ≠ Iocb.closedId
  | .central .putRecord | .central .putBytes | .putByte => (t.reply d m i a).status ≠ .success
  | _ => True

def Entry.Spares (e : Entry) (d : FileDevice) (i : ChannelIndex) : Prop :=
  ∀ t, e.task? d = some (i, t) → t.Spares d e.memory i e.cpu.regs.a

def Spared (d : FileDevice) (i : ChannelIndex) (calls : List Entry) : Prop :=
  ∀ before e after, calls = before ++ e :: after → e.Spares (d.serveAll before) i

section

variable {d : FileDevice} {m : Memory} {i : ChannelIndex} {a : UInt8} {e : Entry}
  {calls : List Entry}

theorem putData_of_failed {c : Channel} {record : Bool}
    (failed : (d.putData m i c a record).status ≠ .success) :
    (d.putData m i c a record).device = d := by
  unfold putData at failed ⊢
  dsimp only at failed ⊢
  split at failed <;> rename_i writable
  · rw [if_pos writable]
  · split at failed <;> exact absurd rfl failed

theorem putReply_of_failed (failed : (d.putReply m i a).status ≠ .success) :
    (d.putReply m i a).device = d := by
  unfold putReply at failed ⊢
  cases recorded : d.channel i with
  | none => rfl
  | some c =>
    simp only [recorded] at failed ⊢
    split at failed <;> rename_i writable
    · rw [if_pos writable]
    · exact absurd rfl failed

theorem Task.device_of_failed_put {t : Task}
    (put : t = .putByte ∨ t = .central .putBytes ∨ t = .central .putRecord)
    (failed : (t.reply d m i a).status ≠ .success) : (t.reply d m i a).device = d := by
  have asked (f : List Char → Status) :
      (d.onTarget m i fun rest => (f rest, d.store)).device = d := by
    rw [onTarget_device]
    cases targetText m i <;> rfl
  rcases put with rfl | rfl | rfl
  · exact putReply_of_failed failed
  all_goals
    unfold reply carryOut at failed ⊢
    cases recorded : d.channel i with
    | none => exact asked _
    | some c =>
      simp only [recorded] at failed
      exact putData_of_failed failed

theorem Entry.holding_serve (spares : e.Spares d i) :
    ((e.serve d).device.channel i).map Channel.holding = (d.channel i).map Channel.holding := by
  cases taken : e.task? d with
  | none => rw [(leftAlone_serve taken).device]
  | some task =>
    obtain ⟨j, t⟩ := task
    obtain ⟨own, device, leaves⟩ := serves_serve taken
    by_cases same : i = j
    · subst same
      have spared := spares t taken
      have of_device (kept : (t.reply d e.memory i e.cpu.regs.a).device = d) :
          ((e.serve d).device.channel i).map Channel.holding =
            (d.channel i).map Channel.holding := by
        rw [(reports_serve taken).device, kept]
      have of_holding (kept : own.map Channel.holding = (d.channel i).map Channel.holding) :
          ((e.serve d).device.channel i).map Channel.holding =
            (d.channel i).map Channel.holding := by
        rw [device]
        exact (congrArg _ (channel_setChannel d i own)).trans kept
      cases t with
      | putByte => exact of_device (Task.device_of_failed_put (.inl rfl) spared)
      | central command =>
        cases command with
        | opening =>
          refine of_device ?_
          rw [Task.reply, carryOut_opening]
          exact opening_of_open d e.memory i spared
        | close => exact spared.elim
        | putBytes => exact of_device (Task.device_of_failed_put (.inr (.inl rfl)) spared)
        | putRecord => exact of_device (Task.device_of_failed_put (.inr (.inr rfl)) spared)
        | _ => exact of_holding leaves
    · rw [device]
      exact congrArg _ (channel_setChannel_of_ne d same own)

theorem holding_serveAll (spared : d.Spared i calls) :
    ((d.serveAll calls).channel i).map Channel.holding = (d.channel i).map Channel.holding := by
  induction calls generalizing d with
  | nil => rfl
  | cons e calls ih =>
    have rest : (e.serve d).device.Spared i calls :=
      fun before e' after split => spared (e :: before) e' after (congrArg _ split)
    exact (ih rest).trans (Entry.holding_serve (spared [] e calls rfl))

theorem Spared.singleton (spares : e.Spares d i) : d.Spared i [e] := by
  rintro (_ | ⟨_, _ | _⟩) e' after split <;> cases split
  exact spares

theorem channel_withStore (s : Store) :
    ({ d with store := s } : FileDevice).channel i = d.channel i := rfl

theorem serveAll_singleton : d.serveAll [e] = (e.serve d).device := rfl

theorem ordered_serveAll (ordered : d.store.Ordered) : (d.serveAll calls).store.Ordered := by
  induction calls generalizing d with
  | nil => exact ordered
  | cons e calls ih => exact ih (e.ordered_serve ordered)

end

def OpenMode.keeps : OpenMode → Bool
  | .append | .update => true
  | _ => false

theorem OpenMode.writable_of_keeps {mode : OpenMode} (keeps : mode.keeps = true) :
    mode.writable = true := by
  cases mode <;> first | rfl | cases keeps

def Channel.copy (mode : OpenMode) (f : File) : Channel :=
  { name := f.name, mode, content := f.data
    position := if mode = .append then f.data.size else 0 }

def OpenMode.needsFile : OpenMode → Bool
  | .read | .append | .update => true
  | _ => false

section

variable {s : Store} {text : List Char} {mode : OpenMode} {name : String} {f : File}

theorem openFile_of_missing (needs : mode.needsFile = true)
    (resolved : resolveName s text mode = .ok name) (missing : s.find? name = none) :
    openFile s text mode = .error .notFound := by
  unfold openFile
  rw [resolved]
  simp only [bind, Except.bind, missing]
  cases mode with
  | read | append | update => rfl
  | _ => cases needs

theorem openFile_of_found (needs : mode.needsFile = true)
    (resolved : resolveName s text mode = .ok name) (found : s.find? name = some f) :
    openFile s text mode =
      if (mode.writable && f.locked) = true then .error .locked else .ok (.copy mode f) := by
  obtain rfl := Store.name_of_find? found
  unfold openFile
  rw [resolved]
  simp only [bind, Except.bind, found]
  cases mode with
  | read => rfl
  | append | update => cases f.locked <;> rfl
  | _ => cases needs

theorem Opening.openFile_of_keeps {i : ChannelIndex} (o : Opening i mode name)
    (keeps : mode.keeps = true) (found : s.find? name = some f) (unlocked : f.locked = false) :
    openFile s o.text mode = .ok (.copy mode f) := by
  have needs : mode.needsFile = true := by
    cases mode <;> first | rfl | cases keeps
  rw [openFile_of_found needs (o.resolveName_eq s) found, unlocked, Bool.and_false,
    if_neg Bool.false_ne_true]

end

def sampleFile : File := { name := "A.B", data := ⟨#[0x78]⟩ }

def sampleKept : FileDevice := { store := { files := [sampleFile] } }

theorem find?_sampleKept : sampleKept.store.find? "A.B" = some sampleFile := rfl

def sampleOpened : FileDevice :=
  sampleKept.setChannel Scene.channel (some (.copy .update sampleFile))

theorem call_sampleOpening :
    ((sampleOpening .update).call sampleKept).EndsWith .success ∧
      ((sampleOpening .update).call sampleKept).device = sampleOpened :=
  (sampleOpening .update).call_of_openFile nofun
    ((sampleOpening .update).openFile_of_keeps rfl find?_sampleKept rfl)

def sampleMeantime : Entry := (sampleDelete ⟨2, by decide⟩).entry

theorem spared_sampleMeantime : sampleOpened.Spared Scene.channel [sampleMeantime] := by
  refine Spared.singleton fun t taken => ?_
  rw [sampleMeantime, task?_sampleDelete] at taken
  cases taken

theorem files_sampleMeantime : (sampleOpened.serveAll [sampleMeantime]).store.files = [] := by
  rw [serveAll_singleton, Entry.store_serve, sampleMeantime, effect_sampleDelete]
  decide +kernel

theorem channel_sampleMeantime :
    (sampleOpened.serveAll [sampleMeantime]).channel Scene.channel =
      some (.copy .update sampleFile) := by
  have taken := task?_sampleDelete ⟨2, by decide⟩ sampleOpened
  obtain ⟨c, device, -⟩ := Entry.serves_serve taken
  rw [serveAll_singleton, sampleMeantime, device, channel_withStore,
    channel_setChannel_of_ne _ (by decide), sampleOpened, channel_setChannel]

/-- Nothing was put to the channel, and when it is closed the file that was deleted is back. -/
theorem close_brings_back :
    let opened := (sampleOpening .update).call sampleKept
    let last := opened.device.serveAll [sampleMeantime]
    let closed := sampleClose.call last
    opened.device.Spared Scene.channel [sampleMeantime] ∧
      opened.EndsWith .success ∧ closed.EndsWith .success ∧
        last.store.files = [] ∧ closed.device.store.files = [sampleFile] := by
  obtain ⟨opened, device⟩ := call_sampleOpening
  obtain ⟨closed, written⟩ := sampleClose.call_close_of_writable channel_sampleMeantime rfl
  dsimp only
  rw [device]
  refine ⟨spared_sampleMeantime, opened, closed, files_sampleMeantime, ?_⟩
  rw [written]
  simp only [Store.write, Store.put, Store.find?, files_sampleMeantime]
  rfl

/-- A channel is opened to append or to update a file, and closed after calls that put nothing to it.
The file has then the contents that it had when the channel was opened, and no other file is changed:
so nothing is changed by the closing just if the file still had them. -/
theorem close_of_spared (d : FileDevice) {i : ChannelIndex} {mode : OpenMode} {name : String}
    {f : File} (ordered : d.store.Ordered) (o : Opening i mode name) (keeps : mode.keeps = true)
    (found : d.store.find? name = some f) (unlocked : f.locked = false) (calls : List Entry)
    (close : Request i .close) :
    let opened := o.call d
    let last := opened.device.serveAll calls
    let closed := close.call last
    opened.device.Spared i calls →
      opened.EndsWith .success ∧ opened.device.store = d.store ∧ closed.EndsWith .success ∧
        closed.device.store = (last.store.write name f.data).store ∧
        (closed.device.store = last.store ↔ last.store.read name = some f.data) := by
  intro opened last closed spared
  have file : mode ≠ .directory := by
    rintro rfl
    cases keeps
  obtain ⟨openedWell, device⟩ :=
    o.call_of_openFile file (o.openFile_of_keeps keeps found unlocked)
  have store : opened.device.store = d.store := congrArg (·.store) device
  have held : (last.channel i).map Channel.holding = some ((f.name, mode), f.data) := by
    rw [holding_serveAll spared, device, channel_setChannel]
    rfl
  obtain ⟨c, recorded, holding⟩ := Option.map_eq_some_iff.1 held
  obtain ⟨⟨called, rfl⟩, content⟩ : (c.name = f.name ∧ c.mode = mode) ∧ c.content = f.data := by
    simpa [Channel.holding, Channel.label] using holding
  obtain ⟨closedWell, written⟩ :=
    close.call_close_of_writable recorded (OpenMode.writable_of_keeps keeps)
  have flushed : closed.device.store = (last.store.write name f.data).store := by
    rw [written, content, called, Store.name_of_find? found]
  refine ⟨openedWell, store, closedWell, flushed, ?_⟩
  rw [flushed]
  constructor
  · intro same
    rw [← same, Store.read_write]
  · have lastOrdered : last.store.Ordered := ordered_serveAll (store ▸ ordered)
    exact lastOrdered.write_of_read

theorem close_of_spared_deleted :
    sampleOpened.Spared Scene.channel [sampleMeantime] ∧
      (sampleClose.call (sampleOpened.serveAll [sampleMeantime])).device.store ≠
        (sampleOpened.serveAll [sampleMeantime]).store := by
  have ordered : sampleKept.store.Ordered := List.pairwise_singleton _ _
  have closing := close_of_spared sampleKept ordered (sampleOpening .update) rfl
    find?_sampleKept rfl [sampleMeantime] sampleClose
  dsimp only at closing
  rw [call_sampleOpening.2] at closing
  obtain ⟨-, -, -, -, same_iff⟩ := closing spared_sampleMeantime
  rw [Store.read, Store.find?, files_sampleMeantime] at same_iff
  refine ⟨spared_sampleMeantime, fun same => ?_⟩
  cases same_iff.1 same

end Atari800XL.FileDevice
