import Atari800XL.Proofs.FileDevice.Effect

namespace Atari800XL.FileDevice

open Files

variable {s : Store} {name : String} {f : File} {text : List Char}

theorem mem_list {pattern : String} {e : Files.Entry} :
    e ∈ s.list pattern ↔ ∃ f ∈ s.files, wildcardMatch pattern f.name = true ∧ f.entry = e := by
  simp [Store.list, and_assoc]

theorem find?_of_mem_list (ordered : s.Ordered) {pattern : String} {e : Files.Entry}
    (mem : e ∈ s.list pattern) :
    ∃ f, s.find? e.name = some f ∧ f.locked = e.locked ∧ wildcardMatch pattern e.name = true := by
  obtain ⟨f, stored, matched, rfl⟩ := mem_list.1 mem
  exact ⟨f, ordered.find?_of_mem stored, rfl, matched⟩

def deletedNames (entries : List Files.Entry) : List String :=
  (entries.takeWhile (!·.locked)).map (·.name)

theorem deleteEach_eq (s : Store) (entries : List Files.Entry) :
    deleteEach s entries =
      (if entries.any (·.locked) then .locked else .success, s.removeAll (deletedNames entries)) := by
  induction entries generalizing s with
  | nil => exact Prod.ext rfl s.removeAll_nil.symm
  | cons e entries ih =>
    rw [deleteEach]
    cases locked : e.locked with
    | true => simp [deletedNames, locked, Store.removeAll_nil]
    | false => simp [deletedNames, locked, ih, Store.store_delete, Store.removeAll_remove]

theorem find?_lockEach (s : Store) (locked : Bool) (entries : List Files.Entry) (name : String) :
    (lockEach s locked entries).find? name =
      if name ∈ entries.map (·.name) then (s.find? name).map ({ · with locked })
      else s.find? name := by
  induction entries generalizing s with
  | nil => rfl
  | cons e entries ih =>
    refine (ih (s.setLock e.name locked).store).trans ?_
    rw [Store.find?_setLock]
    by_cases same : e.name = name
    · simp [same, Option.map_map, Function.comp_def]
    · simp [same, Ne.symm same]

theorem normalize?_ne_success (wildcards : Bool) : normalize? text wildcards ≠ .error .success := by
  unfold normalize?
  split <;> nofun

theorem onMatches_cases (s : Store) (text : List Char) (f : List Files.Entry → Status × Store) :
    (∃ status, status ≠ .success ∧ onMatches s text f = (status, s) ∧
        ∀ pattern, normalize? text true = .ok pattern → s.list pattern = []) ∨
      ∃ pattern, normalize? text true = .ok pattern ∧ onMatches s text f = f (s.list pattern) := by
  unfold onMatches
  cases named : normalize? text true with
  | error status =>
    refine .inl ⟨status, ?_, rfl, nofun⟩
    rintro rfl
    exact normalize?_ne_success true named
  | ok pattern =>
    cases entries : s.list pattern with
    | nil =>
      refine .inl ⟨.notFound, nofun, by simp only [entries], ?_⟩
      rintro _ ⟨⟩
      exact entries
    | cons e rest => exact .inr ⟨pattern, rfl, by simp only [entries]⟩

theorem renameFile_cases (s : Store) (text : List Char) :
    (∃ status, status ≠ .success ∧ renameFile s text = (status, s)) ∨
      ∃ old new f, s.find? old = some f ∧ f.locked = false ∧ s.contains new = false ∧
        (∃ raw, normalize? raw false = .ok new) ∧
        renameFile s text = (.success, (s.rename old new).store) := by
  unfold renameFile
  split
  · exact .inl ⟨.badName, nofun, rfl⟩
  · rename_i old new cut
    dsimp only
    generalize normalize? old false = old
    generalize named : normalize? _ false = new
    match old, new, named with
    | .error _, _, _ | .ok _, .error _, _ => exact .inl ⟨.badName, nofun, rfl⟩
    | .ok old, .ok new, named =>
      dsimp only [Store.status]
      cases found : s.find? old with
      | none => exact .inl ⟨.notFound, nofun, rfl⟩
      | some f =>
        cases locked : f.locked with
        | true => exact .inl ⟨.locked, nofun, by simp [File.entry, locked]⟩
        | false =>
          cases taken : s.contains new with
          | true =>
            refine .inl ⟨.fileExists, nofun, ?_⟩
            simp [File.entry, locked, Store.rename, taken, Store.unchanged, Outcome.succeeded]
          | false =>
            refine .inr ⟨old, new, f, found, locked, taken, ⟨_, named⟩, ?_⟩
            simp [File.entry, locked, Store.rename, taken, found, Outcome.succeeded]

theorem carryOut_file (d : FileDevice) (m : Memory) (i : ChannelIndex) (a : UInt8)
    (command : FileCommand) :
    d.carryOut m i a (.file command) = d.onTarget m i (applyFile d.store command) := by
  unfold carryOut
  cases d.channel i <;> rfl

section

variable {Holds : Store → Prop} {Good : String → Prop} (lasting : Store.Lasting Holds Good)
variable (normalized : ∀ {raw name}, normalize? raw false = .ok name → Good name)

theorem holds_onMatches (holds : Holds s) (text : List Char)
    {f : List Files.Entry → Status × Store} (kept : ∀ entries, Holds (f entries).2) :
    Holds (onMatches s text f).2 := by
  rcases onMatches_cases s text f with ⟨status, -, same, -⟩ | ⟨pattern, -, matched⟩
  · rw [same]
    exact holds
  · rw [matched]
    exact kept _

include lasting

theorem holds_lockEach (holds : Holds s) (locked : Bool) (entries : List Files.Entry) :
    Holds (lockEach s locked entries) := by
  induction entries generalizing s with
  | nil => exact holds
  | cons e entries ih => exact ih (lasting.setLock holds e.name locked)

include normalized

theorem holds_applyFile (holds : Holds s) (command : FileCommand) (text : List Char) :
    Holds (applyFile s command text).2 := by
  unfold applyFile
  cases command with
  | rename =>
    dsimp only
    rcases renameFile_cases s text with ⟨status, -, same⟩ | ⟨old, new, f, -, -, -, named, renamed⟩
    · rw [same]
      exact holds
    · rw [renamed]
      exact lasting.rename holds old (normalized named.choose_spec)
  | delete =>
    refine holds_onMatches holds text fun entries => ?_
    rw [deleteEach_eq]
    exact lasting.removeAll holds _
  | lock => exact holds_onMatches holds text fun entries => holds_lockEach lasting holds true entries
  | unlock =>
    exact holds_onMatches holds text fun entries => holds_lockEach lasting holds false entries
  | reserved => exact holds

theorem Entry.holds_serve {d : FileDevice} (e : Entry) (holds : Holds d.store)
    (flushed : ∀ c, e.effect d = .flush c → c.mode.writable = true → Good c.name) :
    Holds (e.serve d).device.store := by
  rw [e.store_serve]
  cases effect : e.effect d with
  | keep => exact holds
  | flush c =>
    show Holds (FileDevice.flush d.store c).1
    unfold FileDevice.flush
    split
    · exact lasting.write holds (flushed c effect ‹_›) _
    · exact holds
  | apply command text => exact holds_applyFile lasting normalized holds command text

end

theorem Entry.ordered_serve {d : FileDevice} (e : Entry) (ordered : d.store.Ordered) :
    (e.serve d).device.store.Ordered :=
  e.holds_serve Store.lasting_ordered (fun _ => trivial) ordered fun _ _ _ => trivial

def samplePattern : List UInt8 := [0x48, 0x3A, 0x2A, 0x2E, 0x42, eol] ++ List.replicate 58 0

def sampleDelete (i : ChannelIndex) : Request i (.file .delete) where
  cpu := { regs := { x := 16 * UInt8.ofNat i.val } }
  memory := Scene.memory { id := 0xFF, command := 0x21, buffer := samplePattern } i
  x := rfl
  code := by
    rw [Scene.command_memory]
    rfl

section

variable (i : ChannelIndex) (d : FileDevice)

theorem claims_file {m : Memory} (own : (Iocb.ofChannel i).namesOwnDevice m = true)
    (command : FileCommand) : d.claims m i (.file command) = true := by
  cases recorded : d.channel i with
  | none => simp only [claims, recorded, own]
  | some c => exact claims_eq_true_of_channel recorded Command.noConfusion

theorem task?_sampleDelete :
    (sampleDelete i).entry.task? d = some (i, .central (.file .delete)) := by
  have own : (Iocb.ofChannel i).namesOwnDevice (sampleDelete i).memory = true := by
    rw [sampleDelete, Scene.namesOwnDevice_memory _ i rfl]
    rfl
  exact (sampleDelete i).task?_entry (claims_file i d own .delete)

theorem targetText_sampleDelete :
    targetText (sampleDelete i).memory i = some ['*', '.', 'B'] := by
  have target : (Iocb.ofChannel i).target (sampleDelete i).memory = Iocb.nameOf samplePattern := by
    rw [sampleDelete, Scene.target_memory _ i rfl]
  rw [targetText, target]
  rfl

theorem effect_sampleDelete :
    (sampleDelete i).entry.effect d = .apply .delete ['*', '.', 'B'] := by
  rw [Entry.effect_of_task (task?_sampleDelete i d), Request.memory_entry, Task.effect,
    targetText_sampleDelete, Option.elim_some]

end

end Atari800XL.FileDevice
