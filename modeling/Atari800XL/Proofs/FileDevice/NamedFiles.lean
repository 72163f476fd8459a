import Atari800XL.Proofs.FileDevice.Snapshot
import Atari800XL.Proofs.Files.Matching

namespace Atari800XL.FileDevice

open Files

def FileCommand.takesPattern : FileCommand → Bool
  | .delete | .lock | .unlock => true
  | _ => false

def FileCommand.leaves (command : FileCommand) (f : File) : Option File :=
  match command with
  | .delete => none
  | .lock => some { f with locked := true }
  | .unlock => some { f with locked := false }
  | _ => some f

structure Sweeps (s : Store) (command : FileCommand) (meant : String → Prop)
    (r : Status × Store) : Prop where
  missing : r.1 = .notFound ↔ ∀ name, meant name → s.contains name = false
  others : ∀ name, ¬meant name → r.2.find? name = s.find? name
  done : r.1 = .success → ∀ name, meant name → r.2.find? name = (s.find? name).bind command.leaves

section

variable {s : Store} {pattern name : String} {text : List Char} {command : FileCommand}

theorem contains_iff : s.contains name = true ↔ ∃ f ∈ s.files, f.name = name := by
  rw [Store.contains, Store.find?, List.find?_isSome]
  simp only [beq_iff_eq]

theorem mem_names_list_iff :
    name ∈ (s.list pattern).map (·.name) ↔
      wildcardMatch pattern name = true ∧ s.contains name = true := by
  rw [contains_iff, List.mem_map]
  constructor
  · rintro ⟨e, mem, rfl⟩
    obtain ⟨f, stored, matched, rfl⟩ := mem_list.1 mem
    exact ⟨matched, f, stored, rfl⟩
  · rintro ⟨matched, f, stored, rfl⟩
    exact ⟨f.entry, mem_list.2 ⟨f, stored, matched, rfl⟩, rfl⟩

theorem list_eq_nil_iff :
    s.list pattern = [] ↔ ∀ name, wildcardMatch pattern name = true → s.contains name = false := by
  have names : s.list pattern = [] ↔ (s.list pattern).map (·.name) = [] := List.map_eq_nil_iff.symm
  rw [names, List.eq_nil_iff_forall_not_mem]
  simp only [mem_names_list_iff, not_and, Bool.not_eq_true]

theorem find?_eq_none_of_contains (missing : s.contains name = false) : s.find? name = none :=
  Option.isSome_eq_false_iff.1 missing |> Option.isNone_iff_eq_none.1

theorem onMatches_of_pattern (named : normalize? text true = .ok pattern)
    (f : List Files.Entry → Status × Store) :
    onMatches s text f = if s.list pattern = [] then (.notFound, s) else f (s.list pattern) := by
  unfold onMatches
  rw [named]
  dsimp only
  cases s.list pattern with
  | nil => rfl
  | cons e entries => exact (if_neg (List.cons_ne_nil e entries)).symm

theorem sweeps_onMatches (named : normalize? text true = .ok pattern)
    {f : List Files.Entry → Status × Store} (found : (f (s.list pattern)).1 ≠ .notFound)
    (others : ∀ name, name ∉ (s.list pattern).map (·.name) →
      (f (s.list pattern)).2.find? name = s.find? name)
    (done : (f (s.list pattern)).1 = .success → ∀ name ∈ (s.list pattern).map (·.name),
      (f (s.list pattern)).2.find? name = (s.find? name).bind command.leaves) :
    Sweeps s command (wildcardMatch pattern · = true) (onMatches s text f) := by
  rw [onMatches_of_pattern named]
  by_cases none : s.list pattern = []
  · rw [if_pos none]
    exact ⟨iff_of_true rfl (list_eq_nil_iff.1 none), fun _ _ => rfl, nofun⟩
  · rw [if_neg none]
    refine ⟨iff_of_false found (none ∘ list_eq_nil_iff.2), fun name unmatched => ?_,
      fun success name matched => ?_⟩
    · exact others name fun mem => unmatched (mem_names_list_iff.1 mem).1
    · cases stored : s.contains name with
      | true => exact done success name (mem_names_list_iff.2 ⟨matched, stored⟩)
      | false =>
        have missing : name ∉ (s.list pattern).map (·.name) := fun mem =>
          Bool.false_ne_true (stored.symm.trans (mem_names_list_iff.1 mem).2)
        rw [others name missing, find?_eq_none_of_contains stored]
        rfl

theorem names_deleted_subset (entries : List Files.Entry) :
    deletedNames entries ⊆ entries.map (·.name) :=
  List.map_subset _ (List.takeWhile_sublist _).subset

theorem deletedNames_of_unlocked {entries : List Files.Entry}
    (unlocked : entries.any (·.locked) = false) : deletedNames entries = entries.map (·.name) := by
  have all : ∀ e ∈ entries, (!e.locked) = true := by simpa using unlocked
  rw [deletedNames, List.takeWhile_eq_self_iff.2 all]

theorem find?_removeAll_of_mem {names : List String} (mem : name ∈ names) :
    (s.removeAll names).find? name = none := by
  rw [Store.find?, Store.removeAll, List.find?_filter, List.find?_eq_none]
  rintro f - found
  obtain ⟨kept, rfl⟩ : f.name ∉ names ∧ f.name = name := by simpa using found
  exact kept mem

theorem sweeps_lockEach (named : normalize? text true = .ok pattern) {locked : Bool}
    (leaves : ∀ f, command.leaves f = some { f with locked }) :
    Sweeps s command (wildcardMatch pattern · = true)
      (onMatches s text fun entries => (.success, lockEach s locked entries)) := by
  refine sweeps_onMatches named nofun (fun name missing => ?_) fun _ name mem => ?_
  · rw [find?_lockEach, if_neg missing]
  · rw [find?_lockEach, if_pos mem]
    cases s.find? name with
    | none => rfl
    | some f => exact (leaves f).symm

theorem sweeps_applyFile (takes : command.takesPattern = true)
    (named : normalize? text true = .ok pattern) :
    Sweeps s command (wildcardMatch pattern · = true) (applyFile s command text) := by
  unfold applyFile
  cases command with
  | delete =>
    refine sweeps_onMatches named ?_ ?_ ?_
    all_goals rw [deleteEach_eq]
    · dsimp only
      split <;> nofun
    · intro name missing
      exact s.find?_removeAll_of_not_mem fun mem => missing (names_deleted_subset _ mem)
    · intro success name mem
      have unlocked : (s.list pattern).any (·.locked) = false := by
        by_contra locked
        rw [if_pos (Bool.not_eq_false _ ▸ locked)] at success
        cases success
      rw [deletedNames_of_unlocked unlocked, find?_removeAll_of_mem mem]
      cases s.find? name <;> rfl
  | lock | unlock => exact sweeps_lockEach named fun _ => rfl
  | rename | reserved => cases takes

end

structure Naming (i : ChannelIndex) (command : Command) (name : String) extends
    Request i command where
  own : (Iocb.ofChannel i).namesOwnDevice memory = true
  unit : UInt8
  text : List Char
  target : splitDevice ((Iocb.ofChannel i).target memory) = some (unit, text)
  valid : Files.normalize (String.ofList text) false = some name

theorem normalize?_of_valid {text : List Char} {name : String}
    (valid : Files.normalize (String.ofList text) false = some name) (wildcards : Bool) :
    normalize? text wildcards = .ok name := by
  rw [normalize?, (Files.normalize_of_false valid wildcards).1]

section

variable {i : ChannelIndex} {command : FileCommand} {name : String} {d : FileDevice}

theorem Naming.reports_file (r : Naming i (.file command) name) (d : FileDevice) :
    (r.call d).Reports r.cpu i
      { device := { d with store := (applyFile d.store command r.text).2 }
        memory := r.memory
        status := (applyFile d.store command r.text).1 } := by
  have reports := r.reports_call (claims_file i d r.own command)
  rw [carryOut_file, onTarget, r.target] at reports
  exact reports

theorem Naming.reports_status (r : Naming i .status name) (vacant : d.channel i = none) :
    (r.call d).Reports r.cpu i
      { device := d
        memory := r.memory
        status := if d.store.contains name then .success else .notFound } := by
  have other : Command.status ≠ .opening := nofun
  have claimed : d.claims r.memory i .status = true :=
    (claims_eq_of_vacant vacant other).trans r.own
  have reports := r.reports_call claimed
  have asked : fileStatus d.store r.text =
      if d.store.contains name then .success else .notFound := by
    rw [fileStatus, normalize?_of_valid r.valid]
  have carriedOut : d.carryOut r.memory i r.cpu.regs.a .status =
      d.onTarget r.memory i fun rest => (fileStatus d.store rest, d.store) := by
    simp only [carryOut, vacant]
  rw [carriedOut, onTarget, r.target] at reports
  rw [← asked]
  exact reports

def ended {α : Type} : Except Status α → Status
  | .error status => status
  | .ok _ => .success

theorem Opening.status_opening {mode : OpenMode} (o : Opening i mode name)
    (file : mode ≠ .directory) (d : FileDevice) :
    (d.opening o.memory i).status = ended (openFile d.store o.text mode) := by
  have prepared : prepare (d.setChannel i none).store ((Iocb.ofChannel i).target o.memory)
      ((Iocb.ofChannel i).mode o.memory) =
        openFile d.store o.text mode >>= fun c => pure (o.unit, c) :=
    prepare_eq_openFile o.target o.mode_eq file
  unfold opening
  dsimp only
  rw [o.closed, bne_self_eq_false, if_neg Bool.false_ne_true, prepared]
  cases openFile d.store o.text mode <;> rfl

theorem Opening.ended_openFile_iff {mode : OpenMode} (o : Opening i mode name)
    (needs : mode.needsFile = true) (s : Store) :
    ended (openFile s o.text mode) = .notFound ↔ s.contains name = false := by
  have resolved := o.resolveName_eq s
  rw [Store.contains]
  cases found : s.find? name with
  | none =>
    rw [openFile_of_missing needs resolved found]
    exact iff_of_true rfl rfl
  | some f =>
    rw [openFile_of_found needs resolved found]
    refine iff_of_false (fun missing => ?_) Bool.noConfusion
    split at missing <;> cases missing

theorem Naming.call_status (r : Naming i .status name) (vacant : d.channel i = none) :
    (r.call d).cpu.regs.y = Status.notFound.code ↔ d.store.contains name = false := by
  rw [(r.reports_status vacant).y, Status.code_inj]
  cases d.store.contains name with
  | true => exact iff_of_false Status.noConfusion Bool.noConfusion
  | false => exact iff_of_true rfl rfl

theorem Opening.call_of_needsFile {mode : OpenMode} (o : Opening i mode name)
    (needs : mode.needsFile = true) (d : FileDevice) :
    (o.call d).cpu.regs.y = Status.notFound.code ↔ d.store.contains name = false := by
  have file : mode ≠ .directory := by
    rintro rfl
    cases needs
  have reports := o.reports_call (d := d) o.own
  rw [carryOut_opening] at reports
  rw [reports.y, Status.code_inj, o.status_opening file, o.ended_openFile_iff needs]

end

theorem Sweeps.of_name {s : Store} {command : FileCommand} {text : List Char} {name : String}
    (valid : Files.normalize (String.ofList text) false = some name)
    (takes : command.takesPattern = true) :
    Sweeps s command (Means name) (applyFile s command text) := by
  have same : (wildcardMatch name · = true) = Means name :=
    funext fun other => propext (wildcardMatch_iff_means valid other)
  rw [← same]
  exact sweeps_applyFile takes (normalize?_of_valid valid true)

/-- Files are deleted, locked or unlocked by a name without wildcards. Only those that are meant are
touched; the call says that there is none just if there is none, and if it succeeds it has done its
work on all of them. With an extension that is the file of this name alone, which a call that asks
for its status or opens it finds or misses as well. -/
theorem Naming.call_sweeps {i : ChannelIndex} {command : FileCommand} {name : String}
    (r : Naming i (.file command) name) (takes : command.takesPattern = true) (d : FileDevice) :
    let called := r.call d
    let missing (y : UInt8) : Prop := y = Status.notFound.code
    called.handled = true ∧
      (missing called.cpu.regs.y ↔ ∀ other, Means name other → d.store.contains other = false) ∧
      (∀ other, ¬Means name other → called.device.store.find? other = d.store.find? other) ∧
      (called.cpu.regs.y = Status.success.code → ∀ other, Means name other →
        called.device.store.find? other = (d.store.find? other).bind command.leaves) ∧
      (¬Bare name →
        (missing called.cpu.regs.y ↔ d.store.contains name = false) ∧
        ∀ other, other ≠ name → called.device.store.find? other = d.store.find? other) ∧
      (∀ j (asked : Naming j .status name), d.channel j = none →
        (missing (asked.call d).cpu.regs.y ↔ d.store.contains name = false)) ∧
      ∀ j mode (o : Opening j mode name), mode.needsFile = true →
        (missing (o.call d).cpu.regs.y ↔ d.store.contains name = false) := by
  intro called missing
  have reports := r.reports_file d
  have sweeps : Sweeps d.store command (Means name) (applyFile d.store command r.text) :=
    .of_name r.valid takes
  have store : called.device.store = (applyFile d.store command r.text).2 :=
    congrArg (·.store) reports.device
  have none : missing called.cpu.regs.y ↔
      ∀ other, Means name other → d.store.contains other = false := by
    rw [← sweeps.missing, ← Status.code_inj, ← reports.y]
  have others : ∀ other, ¬Means name other →
      called.device.store.find? other = d.store.find? other := by
    rw [store]
    exact sweeps.others
  refine ⟨reports.handled, none, others, ?_, fun whole => ⟨?_, fun other ne => ?_⟩,
    fun _ asked => asked.call_status, fun _ _ o needs => o.call_of_needsFile needs d⟩
  · rw [store, reports.y, Status.code_inj]
    exact sweeps.done
  · simp only [none, means_iff_of_not_bare whole, forall_eq]
  · exact others other (ne ∘ (means_iff_of_not_bare whole).1)

theorem fits_nameBuffer {buffer : List UInt8} (full : buffer.length = 64) :
    buffer.length ≤ 0x1000 := full.trans_le (by decide)

def sampleDeletion (name : String) (buffer : List UInt8) (text : List Char)
    (full : buffer.length = 64) (own : buffer.head? = some 0x48)
    (target : splitDevice (Iocb.nameOf buffer) = some (1, text))
    (valid : Files.normalize (String.ofList text) false = some name) :
    Naming Scene.channel (.file .delete) name where
  cpu := { regs := { x := 16 } }
  memory :=
    Scene.memory { id := 0xFF, command := 0x21, buffer, fits := fits_nameBuffer full }
      Scene.channel
  x := Scene.x_channel
  code := by
    rw [Scene.command_memory]
    rfl
  own := by
    obtain ⟨bytes, rfl⟩ := List.head?_eq_some_iff.1 own
    rw [Scene.namesOwnDevice_memory _ Scene.channel rfl]
    rfl
  unit := 1
  text
  target := by
    rw [Scene.target_memory _ Scene.channel full]
    exact target
  valid

theorem normalize_sampleName :
    Files.normalize (String.ofList ['A', '.', 'B']) false = some "A.B" := by decide +kernel

def sampleDeletionOfFile : Naming Scene.channel (.file .delete) "A.B" :=
  sampleDeletion "A.B" sampleName ['A', '.', 'B'] rfl rfl rfl normalize_sampleName

def sampleNeighbours : FileDevice :=
  { store := { files := [{ name := "A.B", data := ⟨#[0x78]⟩ },
                         { name := "A.C", data := ⟨#[0x79]⟩ }] } }

theorem Naming.call_sweeps_file :
    FileCommand.delete.takesPattern = true ∧ ¬Bare "A.B" ∧
      (sampleDeletionOfFile.call sampleNeighbours).cpu.regs.y ≠ Status.notFound.code ∧
      (sampleDeletionOfFile.call sampleNeighbours).device.store.find? "A.C" =
        sampleNeighbours.store.find? "A.C" := by
  have takes : FileCommand.delete.takesPattern = true := rfl
  have whole : ¬Bare "A.B" := by decide
  obtain ⟨-, -, -, -, named, -, -⟩ := sampleDeletionOfFile.call_sweeps takes sampleNeighbours
  obtain ⟨missing, others⟩ := named whole
  refine ⟨takes, whole, fun none => ?_, others "A.C" (by decide)⟩
  have stored : sampleNeighbours.store.contains "A.B" = true := by decide
  exact Bool.noConfusion (stored.symm.trans (missing.1 none))

def bareName : List UInt8 := [0x48, 0x3A, 0x46, 0x4F, 0x4F, eol] ++ List.replicate 58 0

def sampleDeletionOfBase : Naming Scene.channel (.file .delete) "FOO" :=
  sampleDeletion "FOO" bareName ['F', 'O', 'O'] rfl rfl rfl (by decide +kernel)

def sampleExtended : FileDevice :=
  { store := { files := [{ name := "FOO", data := ⟨#[0x31]⟩ },
                         { name := "FOO.TXT", data := ⟨#[0x32]⟩ }] } }

/-- A file is gone that has one more extension than the name. -/
theorem deletion_beyond_name :
    (sampleDeletionOfBase.call sampleExtended).cpu.regs.y = Status.success.code ∧
      (sampleExtended.store.find? "FOO.TXT").isSome = true ∧
      (sampleDeletionOfBase.call sampleExtended).device.store.find? "FOO.TXT" = none := by
  have reports := sampleDeletionOfBase.reports_file sampleExtended
  have text : sampleDeletionOfBase.text = ['F', 'O', 'O'] := rfl
  rw [text] at reports
  have done : applyFile sampleExtended.store .delete ['F', 'O', 'O'] =
      (.success, { sampleExtended.store with files := [] }) := rfl
  rw [reports.y, reports.device, done]
  exact ⟨rfl, rfl, rfl⟩

end Atari800XL.FileDevice
