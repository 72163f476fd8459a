import Atari800XL.Proofs.FileDevice.NamedFiles

namespace Atari800XL.FileDevice

open Files

inductive DevicePrefix
  | letter
  | unit (digit : Char) (inside : '1' ≤ digit ∧ digit ≤ '9')

namespace DevicePrefix

def chars : DevicePrefix → List Char
  | letter => ['H', ':']
  | unit digit _ => ['H', digit, ':']

def number : DevicePrefix → UInt8
  | letter => 1
  | unit digit _ => UInt8.ofNat (digit.toNat - '0'.toNat)

theorem ne_colon {digit : Char} (inside : '1' ≤ digit ∧ digit ≤ '9') : digit ≠ ':' := by
  rintro rfl
  exact absurd inside.2 (by decide)

end DevicePrefix

open DevicePrefix

theorem splitDevice_eq_some_iff {target rest : List Char} {number : UInt8} :
    splitDevice target = some (number, rest) ↔
      ∃ p : DevicePrefix, target = p.chars ++ rest ∧ number = p.number := by
  constructor
  · intro split
    unfold splitDevice at split
    split at split
    · cases split
      exact ⟨letter, rfl, rfl⟩
    · split at split
      · rename_i inside
        cases split
        exact ⟨unit _ inside, rfl, rfl⟩
      · cases split
    · cases split
  · rintro ⟨p, rfl, rfl⟩
    cases p with
    | letter => rfl
    | unit digit inside =>
      have other := ne_colon inside
      unfold splitDevice
      split
      · rename_i same
        cases same
        exact absurd rfl other
      · rename_i same
        cases same
        exact if_pos inside
      · rename_i no
        exact absurd rfl (no digit rest)

section

variable {text : List Char} {name : String}
  (valid : Files.normalize (String.ofList text) false = some name)
include valid

theorem separator_not_mem {c : Char} (separator : c = ',' ∨ c = ':') : c ∉ text := by
  have none : c ∉ (String.ofList text).toList := by
    rcases separator with rfl | rfl <;>
      exact not_mem_of_normalize valid (by decide) (by decide) (by decide) (by decide)
  rwa [String.toList_ofList] at none

end

def renameStatus (s : Store) (old new : String) : Status :=
  match s.find? old with
  | none => .notFound
  | some f => if f.locked then .locked else if s.contains new then .fileExists else .success

def renamed (s : Store) (old new : String) : Store :=
  if renameStatus s old new = .success then (s.rename old new).store else s

section

variable {s : Store} {old new : String}

theorem renamed_of_failed (failed : renameStatus s old new ≠ .success) : renamed s old new = s :=
  if_neg failed

theorem find?_renamed (success : renameStatus s old new = .success) :
    (renamed s old new).find? new = (s.find? old).map ({ · with name := new }) ∧
      (renamed s old new).find? old = none ∧
      ∀ other, other ≠ old → other ≠ new → (renamed s old new).find? other = s.find? other := by
  have moved : renamed s old new = (s.rename old new).store := if_pos success
  unfold renameStatus at success
  cases found : s.find? old with
  | none =>
    rw [found] at success
    cases success
  | some f =>
    rw [found] at success
    dsimp only at success
    split at success
    · cases success
    · split at success
      · cases success
      · rename_i taken
        have free : s.contains new = false := Bool.eq_false_iff.2 taken
        have differ : new ≠ old := by
          rintro rfl
          rw [Store.contains, found] at free
          cases free
        rw [moved]
        have after := s.find?_rename found free
        refine ⟨?_, ?_, fun other notOld notNew => ?_⟩
        · rw [after, if_pos rfl]
          rfl
        · rw [after, if_neg differ, if_pos rfl]
        · rw [after, if_neg (Ne.symm notNew), if_neg (Ne.symm notOld)]

def withoutLetter (text : List Char) : List Char :=
  match text with
  | 'H' :: ':' :: rest => rest
  | _ => text

theorem withoutLetter_of_free {text : List Char} (free : ':' ∉ text) :
    withoutLetter text = text := by
  unfold withoutLetter
  split
  · exact absurd (List.mem_cons_of_mem _ List.mem_cons_self) free
  · rfl

theorem withoutLetter_unit {digit : Char} (inside : '1' ≤ digit ∧ digit ≤ '9') (text : List Char) :
    withoutLetter ((unit digit inside).chars ++ text) = (unit digit inside).chars ++ text := by
  have other := ne_colon inside
  unfold withoutLetter
  split
  · rename_i same
    cases same
    exact absurd rfl other
  · rfl

def renameTo (s : Store) (old : String) : Except Status String → Status × Store
  | .ok new => (renameStatus s old new, renamed s old new)
  | .error _ => (.badName, s)

theorem renameFile_append {oldText : List Char} (valid : normalize? oldText false = .ok old)
    (free : ',' ∉ oldText) (rest : List Char) :
    renameFile s (oldText ++ ',' :: rest) =
      renameTo s old (normalize? (withoutLetter rest) false) := by
  obtain ⟨named, known⟩ : ∃ named, normalize? (withoutLetter rest) false = named := ⟨_, rfl⟩
  unfold renameFile
  rw [cutList_append free, known]
  dsimp only
  rw [valid]
  generalize same : normalize? _ false = named'
  obtain rfl : named' = named := same.symm.trans known
  cases named' with
  | error status => rfl
  | ok new =>
    dsimp only [renameTo]
    unfold renamed renameStatus Store.status
    cases found : s.find? old with
    | none => rfl
    | some f =>
      cases locked : f.locked with
      | true => simp [File.entry, locked]
      | false =>
        cases taken : s.contains new with
        | true => simp [File.entry, locked, Store.rename, taken, Store.unchanged, Outcome.succeeded]
        | false => simp [File.entry, locked, Store.rename, taken, found, Outcome.succeeded]

end

def DevicePrefix.hasUnit : DevicePrefix → Bool
  | letter => false
  | unit _ _ => true

/-- A call to rename a file, with the names as the program has written them. The second name may
have a prefix of its own. -/
structure Renaming (i : ChannelIndex) (old new : String) extends Request i (.file .rename) where
  own : (Iocb.ofChannel i).namesOwnDevice memory = true
  first : DevicePrefix
  second : Option DevicePrefix
  oldText : List Char
  newText : List Char
  target : (Iocb.ofChannel i).target memory =
    first.chars ++ (oldText ++ ',' :: (second.elim [] chars ++ newText))
  old_valid : Files.normalize (String.ofList oldText) false = some old
  new_valid : Files.normalize (String.ofList newText) false = some new

namespace Renaming

variable {i : ChannelIndex} {old new : String} (r : Renaming i old new)

def repeatsUnit : Bool := r.second.any hasUnit

theorem withoutLetter_of_plain (plain : r.repeatsUnit = false) :
    withoutLetter (r.second.elim [] chars ++ r.newText) = r.newText := by
  unfold repeatsUnit at plain
  match r.second, plain with
  | none, _ => exact withoutLetter_of_free (separator_not_mem r.new_valid (.inr rfl))
  | some letter, _ => rfl

theorem normalize?_of_repeatsUnit (numbered : r.repeatsUnit = true) :
    normalize? (withoutLetter (r.second.elim [] chars ++ r.newText)) false =
      .error .badName := by
  unfold repeatsUnit at numbered
  match r.second, numbered with
  | some (unit digit inside), _ =>
    let whole := (unit digit inside).chars ++ r.newText
    have colon : ':' ∈ whole := List.mem_append_left _ (by simp [chars])
    show normalize? (withoutLetter whole) false = _
    rw [withoutLetter_unit inside, normalize?]
    cases named : Files.normalize (String.ofList whole) false with
    | none => rfl
    | some name => exact absurd colon (separator_not_mem named (.inr rfl))

theorem reports_rename (d : FileDevice) :
    (r.call d).Reports r.cpu i
      (if r.repeatsUnit then { device := d, memory := r.memory, status := .badName }
      else
        { device := { d with store := renamed d.store old new }
          memory := r.memory
          status := renameStatus d.store old new }) := by
  have reports := r.reports_call (claims_file i d r.own .rename)
  have split := splitDevice_eq_some_iff.2 ⟨r.first, r.target, rfl⟩
  have file : renameFile d.store _ = _ :=
    renameFile_append (normalize?_of_valid r.old_valid false)
      (separator_not_mem r.old_valid (.inl rfl)) (r.second.elim [] chars ++ r.newText)
  rw [carryOut_file, onTarget, split] at reports
  dsimp only [applyFile] at reports
  rw [file] at reports
  cases numbered : r.repeatsUnit with
  | true =>
    rw [r.normalize?_of_repeatsUnit numbered] at reports
    exact reports
  | false =>
    rw [r.withoutLetter_of_plain numbered, normalize?_of_valid r.new_valid] at reports
    exact reports

end Renaming

/-- A renaming reports that there is no file of the old name, or else that it is locked, or else
that there is one of the new name, or else success. If it succeeds the file has its new name, with
its contents and its lock, and no other file is touched; if not, nothing has changed. It does not
matter what prefix stands in front of the old name, nor whether the device's letter is repeated in
front of the new one. A unit that is repeated there is taken for a part of the name, which is no
name then. -/
theorem Renaming.call_renames {i : ChannelIndex} {old new : String} (r : Renaming i old new)
    (d : FileDevice) :
    let called := r.call d
    let s := called.device.store
    called.handled = true ∧
      (r.repeatsUnit = false →
        called.EndsWith (renameStatus d.store old new) ∧
        called.device = { d with store := s } ∧
        (renameStatus d.store old new = .success →
          s.find? new = (d.store.find? old).map ({ · with name := new }) ∧
          s.find? old = none ∧
          ∀ other, other ≠ old → other ≠ new → s.find? other = d.store.find? other) ∧
        (renameStatus d.store old new ≠ .success → called.device = d) ∧
        ∀ j (r' : Renaming j old new), r'.repeatsUnit = false →
          (r'.call d).cpu.regs.y = called.cpu.regs.y ∧ (r'.call d).device = called.device) ∧
      (r.repeatsUnit = true → called.EndsWith .badName ∧ called.device = d) := by
  intro called s
  have reports := r.reports_rename d
  refine ⟨reports.handled, fun plain => ?_, fun numbered => ?_⟩
  · rw [plain, if_neg Bool.false_ne_true] at reports
    have store : s = renamed d.store old new := congrArg (·.store) reports.device
    refine ⟨⟨reports.handled, reports.y⟩, ?_, fun success => ?_, fun failed => ?_,
      fun j r' plain' => ?_⟩
    · rw [store]
      exact reports.device
    · rw [store]
      exact find?_renamed success
    · rw [reports.device, renamed_of_failed failed]
    · have reports' := r'.reports_rename d
      rw [plain', if_neg Bool.false_ne_true] at reports'
      exact ⟨reports'.y.trans reports.y.symm, reports'.device.trans reports.device.symm⟩
  · rw [numbered, if_pos rfl] at reports
    exact ⟨⟨reports.handled, reports.y⟩, reports.device⟩

def sampleRenaming (first : DevicePrefix) (second : Option DevicePrefix) (buffer : List UInt8)
    (full : buffer.length = 64) (own : buffer.head? = some 0x48)
    (target : Iocb.nameOf buffer =
      first.chars ++ (['A'] ++ ',' :: (second.elim [] chars ++ ['B', '.', 'C']))) :
    Renaming Scene.channel "A" "B.C" where
  cpu := { regs := { x := 16 } }
  memory :=
    Scene.memory { id := 0xFF, command := 0x20, buffer, fits := fits_nameBuffer full }
      Scene.channel
  x := Scene.x_channel
  code := by
    rw [Scene.command_memory]
    rfl
  own := by
    obtain ⟨bytes, rfl⟩ := List.head?_eq_some_iff.1 own
    rw [Scene.namesOwnDevice_memory _ Scene.channel rfl]
    rfl
  first
  second
  oldText := ['A']
  newText := ['B', '.', 'C']
  target := by
    rw [Scene.target_memory _ Scene.channel full]
    exact target
  old_valid := by decide +kernel
  new_valid := by decide +kernel

def letterBuffer : List UInt8 :=
  [0x48, 0x33, 0x3A, 0x41, 0x2C, 0x48, 0x3A, 0x42, 0x2E, 0x43, eol] ++ List.replicate 53 0

def bareBuffer : List UInt8 :=
  [0x48, 0x3A, 0x41, 0x2C, 0x42, 0x2E, 0x43, eol] ++ List.replicate 56 0

def unitBuffer : List UInt8 :=
  [0x48, 0x3A, 0x41, 0x2C, 0x48, 0x31, 0x3A, 0x42, 0x2E, 0x43, eol] ++ List.replicate 53 0

theorem inside_three : '1' ≤ '3' ∧ '3' ≤ '9' := by decide

theorem inside_one : '1' ≤ '1' ∧ '1' ≤ '9' := by decide

def sampleRenamingByLetter : Renaming Scene.channel "A" "B.C" :=
  sampleRenaming (unit '3' inside_three) (some letter) letterBuffer rfl rfl rfl

def sampleRenamingByName : Renaming Scene.channel "A" "B.C" :=
  sampleRenaming letter none bareBuffer rfl rfl rfl

def sampleRenamingByUnit : Renaming Scene.channel "A" "B.C" :=
  sampleRenaming letter (some (unit '1' inside_one)) unitBuffer rfl rfl rfl

def sampleUnnamed : FileDevice :=
  { store := { files := [{ name := "A", data := ⟨#[0x78]⟩ }, { name := "A.C", data := ⟨#[]⟩ }] } }

theorem Renaming.call_renames_sample :
    sampleRenamingByLetter.repeatsUnit = false ∧ sampleRenamingByName.repeatsUnit = false ∧
      sampleRenamingByUnit.repeatsUnit = true ∧
      renameStatus sampleUnnamed.store "A" "B.C" = .success ∧
      (sampleRenamingByLetter.call sampleUnnamed).cpu.regs.y = 1 ∧
      (sampleRenamingByLetter.call sampleUnnamed).device.store.find? "B.C" =
        some { name := "B.C", data := ⟨#[0x78]⟩ } ∧
      (sampleRenamingByName.call sampleUnnamed).device =
        (sampleRenamingByLetter.call sampleUnnamed).device ∧
      (sampleRenamingByUnit.call sampleUnnamed).cpu.regs.y = 165 ∧
      (sampleRenamingByUnit.call sampleUnnamed).device = sampleUnnamed := by
  have plain : sampleRenamingByLetter.repeatsUnit = false := rfl
  have plain' : sampleRenamingByName.repeatsUnit = false := rfl
  have numbered : sampleRenamingByUnit.repeatsUnit = true := rfl
  have success : renameStatus sampleUnnamed.store "A" "B.C" = .success := by decide
  obtain ⟨-, renames, -⟩ := sampleRenamingByLetter.call_renames sampleUnnamed
  obtain ⟨ends, -, moved, -, same⟩ := renames plain
  obtain ⟨-, -, refused⟩ := sampleRenamingByUnit.call_renames sampleUnnamed
  have found : sampleUnnamed.store.find? "A" = some { name := "A", data := ⟨#[0x78]⟩ } := rfl
  refine ⟨plain, plain', numbered, success, ends.2.trans (congrArg _ success), ?_,
    (same _ sampleRenamingByName plain').2, (refused numbered).1.2, (refused numbered).2⟩
  rw [(moved success).1, found]
  rfl

end Atari800XL.FileDevice
