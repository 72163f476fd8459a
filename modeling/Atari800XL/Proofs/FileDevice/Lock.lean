import Mathlib.Data.List.TakeWhile
import Atari800XL.Proofs.FileDevice.Commands

namespace Atari800XL.FileDevice

open Files

namespace Effect

def Unlocks (name : String) : Effect → Prop
  | .apply .unlock text =>
    ∃ pattern, normalize? text true = .ok pattern ∧ wildcardMatch pattern name = true
  | _ => False

def stores (name : String) : Effect → Option ByteArray
  | .flush c => if c.mode.writable ∧ c.name = name then some c.content else none
  | _ => none

end Effect

section

variable {s : Store} {name : String} {f : File}

theorem find?_deleteEach_of_locked (ordered : s.Ordered) (found : s.find? name = some f)
    (locked : f.locked = true) (pattern : String) :
    (deleteEach s (s.list pattern)).2.find? name = some f := by
  have kept : name ∉ deletedNames (s.list pattern) := by
    intro deleted
    obtain ⟨e, mem, rfl⟩ := List.mem_map.1 deleted
    have unlocked : e.locked = false := by simpa using List.mem_takeWhile_imp mem
    obtain ⟨g, found', same, -⟩ := find?_of_mem_list ordered ((List.takeWhile_sublist _).subset mem)
    obtain rfl : f = g := Option.some.inj (found.symm.trans found')
    rw [same, unlocked] at locked
    cases locked
  rw [deleteEach_eq, Store.find?_removeAll_of_not_mem s kept, found]

theorem find?_applyFile_of_locked (ordered : s.Ordered) (found : s.find? name = some f)
    (locked : f.locked = true) {command : FileCommand} {text : List Char}
    (still : ¬(Effect.apply command text).Unlocks name) :
    (applyFile s command text).2.find? name = some f := by
  cases command with
  | rename =>
    show (renameFile s text).2.find? name = _
    rcases renameFile_cases s text with ⟨status, -, same⟩ | ⟨old, new, g, taken, free, -, -, renamed⟩
    · rw [same]
      exact found
    · have other : name ≠ old := by
        rintro rfl
        obtain rfl : f = g := Option.some.inj (found.symm.trans taken)
        rw [locked] at free
        cases free
      have kept : name = new → s.contains new := by
        rintro rfl
        simp [Store.contains, found]
      rw [renamed, Store.find?_rename_of_ne s other kept, found]
  | delete =>
    show (onMatches s text (deleteEach s)).2.find? name = _
    rcases onMatches_cases s text (deleteEach s) with ⟨status, -, same, -⟩ | ⟨pattern, -, matched⟩
    · rw [same]
      exact found
    · rw [matched]
      exact find?_deleteEach_of_locked ordered found locked pattern
  | lock =>
    show (onMatches s text fun entries => (.success, lockEach s true entries)).2.find? name = _
    rcases onMatches_cases s text fun entries => (.success, lockEach s true entries) with
      ⟨status, -, same, -⟩ | ⟨pattern, -, matched⟩
    · rw [same]
      exact found
    · have again : { f with locked := true } = f := by rw [← locked]
      rw [matched, find?_lockEach, found, Option.map_some, again, ite_self]
  | unlock =>
    show (onMatches s text fun entries => (.success, lockEach s false entries)).2.find? name = _
    rcases onMatches_cases s text fun entries => (.success, lockEach s false entries) with
      ⟨status, -, same, -⟩ | ⟨pattern, named, matched⟩
    · rw [same]
      exact found
    · have unmatched : name ∉ (s.list pattern).map (·.name) := by
        intro mem
        obtain ⟨e, listed, rfl⟩ := List.mem_map.1 mem
        obtain ⟨-, -, -, matched⟩ := find?_of_mem_list ordered listed
        exact still ⟨pattern, named, matched⟩
      rw [matched, find?_lockEach, if_neg unmatched, found]
  | reserved => exact found

theorem Effect.find?_on_of_locked (ordered : s.Ordered) (found : s.find? name = some f)
    (locked : f.locked = true) {effect : Effect} (still : ¬effect.Unlocks name) :
    (effect.on s).find? name = some { f with data := (effect.stores name).getD f.data } := by
  cases effect with
  | keep => exact found
  | flush c =>
    show (FileDevice.flush s c).1.find? name = _
    unfold FileDevice.flush Effect.stores
    cases writable : c.mode.writable with
    | false => simp [writable, found]
    | true =>
      by_cases own : c.name = name
      · obtain rfl := Store.name_of_find? found
        simp [writable, own, Store.find?_write, found]
      · simp [writable, own, Store.find?_write, found]
  | apply command text => exact find?_applyFile_of_locked ordered found locked still

end

def Unwritten (d : FileDevice) (name : String) : Prop :=
  ∀ i c, d.channel i = some c → c.mode.writable = true → c.name ≠ name

theorem mode_openDirectory {s : Store} {text : List Char} {c : Channel}
    (opened : openDirectory s text = .ok c) : c.mode = .directory := by
  unfold openDirectory at opened
  split at opened
  · cases opened
    rfl
  · cases named : normalize? text true with
    | error status =>
      rw [named] at opened
      cases opened
    | ok pattern =>
      rw [named] at opened
      cases opened
      rfl

theorem of_openFile {s : Store} {text : List Char} {mode : OpenMode} {c : Channel}
    (opened : openFile s text mode = .ok c) :
    resolveName s text mode = .ok c.name ∧ c.mode = mode ∧
      (mode.writable = true → (s.find? c.name).any (·.locked) = false) := by
  unfold openFile at opened
  cases resolved : resolveName s text mode with
  | error status =>
    rw [resolved] at opened
    cases opened
  | ok name =>
    rw [resolved] at opened
    simp only [bind, Except.bind] at opened
    cases mode with
    | read =>
      cases found : s.find? name with
      | none => simp [found, throw, throwThe, MonadExceptOf.throw] at opened
      | some f =>
        simp only [found] at opened
        cases opened
        exact ⟨rfl, rfl, nofun⟩
    | write =>
      cases locked : (s.find? name).any (·.locked) with
      | true => simp [locked, throw, throwThe, MonadExceptOf.throw] at opened
      | false =>
        simp [locked] at opened
        cases opened
        exact ⟨rfl, rfl, fun _ => locked⟩
    | _ =>
      cases found : s.find? name with
      | none => simp [found, throw, throwThe, MonadExceptOf.throw] at opened
      | some f =>
        cases locked : f.locked with
        | true => simp [found, locked, throw, throwThe, MonadExceptOf.throw] at opened
        | false =>
          simp [found, locked] at opened
          cases opened
          exact ⟨rfl, rfl, fun _ => by simp [found, locked]⟩

theorem Opened.cases {s : Store} {c : Channel} (opened : Opened s c) :
    c.mode = .directory ∨ ∃ text mode, openFile s text mode = .ok c := by
  obtain ⟨target, code, unit, prepared⟩ := opened
  unfold prepare at prepared
  split at prepared
  · cases prepared
  · rename_i rest _
    split at prepared
    · cases prepared
    · cases listed : openDirectory s rest with
      | error status =>
        rw [listed] at prepared
        cases prepared
      | ok c' =>
        rw [listed] at prepared
        cases prepared
        exact .inl (mode_openDirectory listed)
    · rename_i mode _ _
      cases opened : openFile s rest mode with
      | error status =>
        rw [opened] at prepared
        cases prepared
      | ok c' =>
        rw [opened] at prepared
        cases prepared
        exact .inr ⟨rest, mode, opened⟩

theorem Opened.unlocked {s : Store} {c : Channel} (opened : Opened s c)
    (writable : c.mode.writable = true) : (s.find? c.name).any (·.locked) = false := by
  rcases opened.cases with listing | ⟨text, mode, opened⟩
  · rw [listing] at writable
    cases writable
  · obtain ⟨-, rfl, unlocked⟩ := of_openFile opened
    exact unlocked writable

theorem Task.Leaves.label_or_opened {t : Task} {d : FileDevice} {m : Memory} {i : ChannelIndex}
    {c : Option Channel} (leaves : t.Leaves d m i c) :
    c.map Channel.label = (d.channel i).map Channel.label ∨ ∀ c' ∈ c, Opened d.store c' := by
  have of_holding (same : c.map Channel.holding = (d.channel i).map Channel.holding) :
      c.map Channel.label = (d.channel i).map Channel.label := by
    simpa [Option.map_map, Function.comp_def, Channel.holding] using congrArg (·.map Prod.fst) same
  cases t with
  | putByte => exact .inl leaves
  | central command =>
    cases command with
    | opening => exact leaves.imp_left fun same => congrArg _ same.2
    | close => exact .inr (by rw [show c = none from leaves]; exact nofun)
    | putRecord | putBytes => exact .inl leaves
    | _ => exact .inl (of_holding leaves)

theorem writing_serve {d : FileDevice} {P : String → Prop} (e : Entry)
    (opens : ∀ c, Opened d.store c → c.mode.writable = true → P c.name)
    (holds : ∀ i c, d.channel i = some c → c.mode.writable = true → P c.name) (j : ChannelIndex)
    (c : Channel) (recorded : (e.serve d).device.channel j = some c)
    (writable : c.mode.writable = true) : P c.name := by
  cases taken : e.task? d with
  | none =>
    rw [(Entry.leftAlone_serve taken).device] at recorded
    exact holds j c recorded writable
  | some task =>
    obtain ⟨i, t⟩ := task
    obtain ⟨own, device, leaves⟩ := Entry.serves_serve taken
    rw [device] at recorded
    replace recorded : (d.setChannel i own).channel j = some c := recorded
    by_cases same : j = i
    · subst same
      rw [channel_setChannel] at recorded
      subst recorded
      rcases leaves.label_or_opened with old | opened
      · obtain ⟨c', recorded, label⟩ := Option.map_eq_some_iff.1 old.symm
        obtain ⟨name', mode⟩ : c'.name = c.name ∧ c'.mode = c.mode := Prod.mk.inj label
        rw [← name']
        exact holds j c' recorded (mode ▸ writable)
      · exact opens c (opened c rfl) writable
    · rw [channel_setChannel_of_ne d same] at recorded
      exact holds j c recorded writable

theorem Unwritten.serve {d : FileDevice} {name : String} {f : File}
    (unwritten : d.Unwritten name) (found : d.store.find? name = some f)
    (locked : f.locked = true) (e : Entry) : (e.serve d).device.Unwritten name := by
  refine writing_serve (P := (· ≠ name)) e (fun c opened writable => ?_) unwritten
  rintro rfl
  have free := opened.unlocked writable
  rw [found, Option.any_some, locked] at free
  cases free

theorem Entry.channel_of_flush {d : FileDevice} {e : Entry} {c : Channel}
    (flush : e.effect d = .flush c) : ∃ i, d.channel i = some c := by
  cases taken : e.task? d with
  | none =>
    rw [effect, taken] at flush
    cases flush
  | some task =>
    obtain ⟨i, t⟩ := task
    rw [effect_of_task taken] at flush
    unfold Task.effect at flush
    split at flush
    · cases recorded : d.channel i with
      | none =>
        rw [recorded] at flush
        cases flush
      | some c' =>
        rw [recorded] at flush
        cases flush
        exact ⟨i, recorded⟩
    · cases named : targetText e.memory i <;> rw [named] at flush <;> cases flush
    · cases flush

theorem Unwritten.stores_effect {d : FileDevice} {name : String} (unwritten : d.Unwritten name)
    (e : Entry) : (e.effect d).stores name = none := by
  cases effect : e.effect d with
  | keep | apply => rfl
  | flush c =>
    obtain ⟨i, recorded⟩ := Entry.channel_of_flush effect
    exact if_neg fun own => unwritten i c recorded own.1 own.2

def NeverUnlocks (d : FileDevice) (name : String) (calls : List Entry) : Prop :=
  ∀ before e after, calls = before ++ e :: after →
    ¬(e.effect (d.serveAll before)).Unlocks name

section

variable {d : FileDevice} {name : String} {f : File} {e : Entry} {calls : List Entry}

theorem NeverUnlocks.head (still : d.NeverUnlocks name (e :: calls)) :
    ¬(e.effect d).Unlocks name :=
  still [] e calls rfl

theorem NeverUnlocks.tail (still : d.NeverUnlocks name (e :: calls)) :
    (e.serve d).device.NeverUnlocks name calls :=
  fun before e' after split => still (e :: before) e' after (congrArg _ split)

/-- The contents that the closings among the calls leave to a file. -/
def contentsAfter (name : String) (data : ByteArray) (d : FileDevice) : List Entry → ByteArray
  | [] => data
  | e :: calls =>
    contentsAfter name (((e.effect d).stores name).getD data) (e.serve d).device calls

theorem find?_serveAll (ordered : d.store.Ordered) (found : d.store.find? name = some f)
    (locked : f.locked = true) (still : d.NeverUnlocks name calls) :
    (d.serveAll calls).store.find? name =
      some { f with data := contentsAfter name f.data d calls } := by
  induction calls generalizing d f with
  | nil => exact found
  | cons e calls ih =>
    have found' := Effect.find?_on_of_locked ordered found locked still.head
    rw [← e.store_serve] at found'
    exact ih (e.ordered_serve ordered) found' locked still.tail

theorem contentsAfter_of_unwritten (ordered : d.store.Ordered)
    (found : d.store.find? name = some f) (locked : f.locked = true)
    (still : d.NeverUnlocks name calls) (unwritten : d.Unwritten name) :
    contentsAfter name f.data d calls = f.data := by
  induction calls generalizing d with
  | nil => rfl
  | cons e calls ih =>
    have found' := Effect.find?_on_of_locked ordered found locked still.head
    rw [← e.store_serve, unwritten.stores_effect e] at found'
    rw [contentsAfter, unwritten.stores_effect e]
    exact ih (e.ordered_serve ordered) found' still.tail (unwritten.serve found locked e)

end

/-- Until a command unlocks it, a locked file stays, locked, whatever the calls are. It has the
contents that it had, but for what the closings of channels leave to it; and nothing is left to it if
no channel was open to write it to begin with. -/
theorem find?_serveAll_of_locked {d : FileDevice} {name : String} {f : File}
    (ordered : d.store.Ordered) (found : d.store.find? name = some f) (locked : f.locked = true)
    (calls : List Entry) (still : d.NeverUnlocks name calls) :
    (d.serveAll calls).store.find? name =
        some { f with data := contentsAfter name f.data d calls } ∧
      (d.Unwritten name → (d.serveAll calls).store.find? name = some f) := by
  have stays := find?_serveAll ordered found locked still
  refine ⟨stays, fun unwritten => ?_⟩
  rw [stays, contentsAfter_of_unwritten ordered found locked still unwritten]

def sampleHeld : Channel := { name := "A.B", mode := .update, content := ⟨#[0x51]⟩, position := 1 }

def sampleLocked : FileDevice :=
  setChannel { store := { files := [{ name := "A.B", data := ⟨#[0x78]⟩, locked := true }] } }
    Scene.channel (some sampleHeld)

theorem find?_serveAll_of_locked_held :
    sampleLocked.store.find? "A.B" = some ⟨"A.B", ⟨#[0x78]⟩, true⟩ ∧
      sampleLocked.NeverUnlocks "A.B" [sampleClose.entry] ∧
      (sampleLocked.serveAll [sampleClose.entry]).store.find? "A.B" =
        some ⟨"A.B", ⟨#[0x51]⟩, true⟩ := by
  have found : sampleLocked.store.find? "A.B" = some ⟨"A.B", ⟨#[0x78]⟩, true⟩ := rfl
  have held : sampleLocked.channel Scene.channel = some sampleHeld := channel_setChannel _ _ _
  have taken : sampleClose.entry.task? sampleLocked = some (Scene.channel, .central .close) :=
    sampleClose.task?_entry (claims_eq_true_of_channel held nofun)
  have effect : sampleClose.entry.effect sampleLocked = .flush sampleHeld := by
    rw [Entry.effect_of_task taken, Task.effect, held, Option.elim_some]
  have still : sampleLocked.NeverUnlocks "A.B" [sampleClose.entry] := by
    rintro (_ | ⟨_, _ | _⟩) e after split <;> cases split
    rw [show sampleLocked.serveAll [] = sampleLocked from rfl, effect]
    exact id
  have ordered : sampleLocked.store.Ordered := List.pairwise_singleton _ _
  have stays := (find?_serveAll_of_locked ordered found rfl [sampleClose.entry] still).1
  rw [contentsAfter, effect] at stays
  exact ⟨found, still, stays⟩

end Atari800XL.FileDevice
