import Atari800XL.Proofs.FileDevice.Commands

namespace Atari800XL.FileDevice

open Files

/-- The files that a command takes away before it comes upon a locked one. -/
def Effect.cutShort (s : Store) : Effect → List String
  | .apply .delete text =>
    match normalize? text true with
    | .error _ => []
    | .ok pattern => deletedNames (s.list pattern)
  | _ => []

theorem Effect.exists_of_mem_cutShort {s : Store} {effect : Effect} {name : String}
    (mem : name ∈ effect.cutShort s) : ∃ f ∈ s.files, f.name = name := by
  unfold cutShort at mem
  split at mem
  · split at mem
    · cases mem
    · obtain ⟨e, taken, rfl⟩ := List.mem_map.1 mem
      obtain ⟨f, stored, -, rfl⟩ := mem_list.1 ((List.takeWhile_sublist _).subset taken)
      exact ⟨f, stored, rfl⟩
  · cases mem

theorem Effect.cutShort_delete {s : Store} {text : List Char} {pattern : String}
    (named : normalize? text true = .ok pattern) :
    (apply .delete text).cutShort s = deletedNames (s.list pattern) := by
  simp only [cutShort, named]

theorem store_onMatches_of_failed {s : Store} {text : List Char} {f : List Files.Entry → Store}
    (failed : (onMatches s text fun entries => (.success, f entries)).1 ≠ .success) :
    (onMatches s text fun entries => (.success, f entries)).2 = s := by
  rcases onMatches_cases s text fun entries => (.success, f entries) with
    ⟨status, -, same, -⟩ | ⟨pattern, -, matched⟩
  · rw [same]
  · rw [matched] at failed
    exact absurd rfl failed

theorem store_deleteMatches (s : Store) (text : List Char) :
    (onMatches s text (deleteEach s)).2 =
      s.removeAll ((Effect.apply .delete text).cutShort s) := by
  rcases onMatches_cases s text (deleteEach s) with
    ⟨status, -, same, unmatched⟩ | ⟨pattern, named, matched⟩
  · have nothing : (Effect.apply .delete text).cutShort s = [] := by
      cases named : normalize? text true with
      | error status => simp only [Effect.cutShort, named]
      | ok pattern =>
        rw [Effect.cutShort_delete named, unmatched pattern named]
        rfl
    rw [same, nothing, Store.removeAll_nil]
  · rw [matched, deleteEach_eq, Effect.cutShort_delete named]

theorem store_applyFile_of_failed (s : Store) (command : FileCommand) (text : List Char)
    (failed : (applyFile s command text).1 ≠ .success) :
    (applyFile s command text).2 = s.removeAll ((Effect.apply command text).cutShort s) := by
  unfold applyFile at failed ⊢
  cases command with
  | rename =>
    dsimp only at failed ⊢
    rcases renameFile_cases s text with ⟨status, -, same⟩ | ⟨old, new, f, -, -, -, -, renamed⟩
    · rw [same]
      exact s.removeAll_nil.symm
    · rw [renamed] at failed
      exact absurd rfl failed
  | delete => exact store_deleteMatches s text
  | lock | unlock => exact (store_onMatches_of_failed failed).trans s.removeAll_nil.symm
  | reserved => exact s.removeAll_nil.symm

theorem onTarget_status (d : FileDevice) (m : Memory) (i : ChannelIndex)
    (f : List Char → Status × Store) :
    (d.onTarget m i f).status = (targetText m i).elim .noDevice fun text => (f text).1 := by
  unfold onTarget targetText
  cases splitDevice ((Iocb.ofChannel i).target m) <;> rfl

theorem Task.store_of_failed (t : Task) (d : FileDevice) (m : Memory) (i : ChannelIndex) (a : UInt8)
    (failed : (t.reply d m i a).status ≠ .success) :
    (t.effect d m i).on d.store = d.store.removeAll ((t.effect d m i).cutShort d.store) := by
  cases t with
  | putByte => exact d.store.removeAll_nil.symm
  | central command =>
    cases command with
    | close =>
      cases recorded : d.channel i with
      | none =>
        rw [effect, recorded]
        exact d.store.removeAll_nil.symm
      | some c =>
        have closed : (d.carryOut m i a .close).status = .success := by
          simp only [carryOut, recorded, onChannel, FileDevice.close]
        exact absurd closed failed
    | file command =>
      rw [reply, carryOut_file, onTarget_status] at failed
      unfold effect
      cases named : targetText m i with
      | none => exact d.store.removeAll_nil.symm
      | some text =>
        rw [named] at failed
        exact store_applyFile_of_failed d.store command text failed
    | _ => exact d.store.removeAll_nil.symm

/-- A call that is handled and fails leaves the files as they were, names, contents and locks, but for
those that a command to delete has taken away before it came upon a locked one: they are gone, and
the files are as they were just if there are none. -/
theorem Entry.store_serve_of_failed (e : Entry) (d : FileDevice)
    (handled : (e.serve d).handled = true) (failed : 0x80 ≤ (e.serve d).cpu.regs.y) :
    (e.serve d).device.store = d.store.removeAll ((e.effect d).cutShort d.store) ∧
      ((e.serve d).device.store = d.store ↔ (e.effect d).cutShort d.store = []) := by
  have store : (e.serve d).device.store = d.store.removeAll ((e.effect d).cutShort d.store) := by
    rw [e.store_serve]
    cases taken : e.task? d with
    | none =>
      rw [(leftAlone_serve taken).handled] at handled
      cases handled
    | some task =>
      obtain ⟨i, t⟩ := task
      rw [effect_of_task taken]
      refine t.store_of_failed d e.memory i e.cpu.regs.a fun success => ?_
      rw [(reports_serve taken).y, success] at failed
      revert failed
      decide
  refine ⟨store, ?_⟩
  rw [store, Store.removeAll_eq_self_iff]
  constructor
  · intro kept
    refine List.eq_nil_iff_forall_not_mem.2 fun name mem => ?_
    obtain ⟨f, stored, rfl⟩ := Effect.exists_of_mem_cutShort mem
    exact kept f stored mem
  · intro none f _
    rw [none]
    exact List.not_mem_nil

def sampleFiles : FileDevice :=
  { store := { files := [{ name := "A.B", data := ⟨#[0x78]⟩ },
                         { name := "B.B", data := ⟨#[0x79]⟩, locked := true }] } }

theorem Entry.store_serve_of_failed_delete :
    ((sampleDelete Scene.channel).entry.serve sampleFiles).handled = true ∧
      ((sampleDelete Scene.channel).entry.serve sampleFiles).cpu.regs.y = Status.locked.code ∧
      ((sampleDelete Scene.channel).entry.serve sampleFiles).device.store.files.map (·.name) = ["B.B"] := by
  have taken := task?_sampleDelete Scene.channel sampleFiles
  have reports := reports_serve taken
  have handled := reports.handled
  have status : ((sampleDelete Scene.channel).entry.serve sampleFiles).cpu.regs.y = Status.locked.code := by
    rw [reports.y, Task.reply, carryOut_file, onTarget_status, Request.memory_entry,
      targetText_sampleDelete]
    decide +kernel
  have failed : 0x80 ≤ ((sampleDelete Scene.channel).entry.serve sampleFiles).cpu.regs.y := by
    rw [status]
    decide
  have store := (Entry.store_serve_of_failed (sampleDelete Scene.channel).entry sampleFiles handled failed).1
  refine ⟨handled, status, ?_⟩
  rw [store, effect_sampleDelete]
  decide +kernel

end Atari800XL.FileDevice
