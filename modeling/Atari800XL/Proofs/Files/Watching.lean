import Mathlib.Logic.Function.Basic
import Atari800XL.Proofs.Files.Matching
import Atari800XL.Proofs.Files.Order

/-! Whoever watches a store can keep a table of its files from what it is told, without ever looking.
The store as a whole is a map from names to contents and locks. -/

namespace Atari800XL.Files

open Function (update)

inductive Call
  | write (name : String) (data : ByteArray)
  | delete (name : String)
  | rename (old new : String)
  | setLock (name : String) (locked : Bool)
  | watch
  | unwatch (id : Nat)

def Outcome.told (o : Outcome) (id : Nat) : List Change :=
  (o.deliveries.filter (·.1 == id)).map (·.2)

namespace Store

def perform (s : Store) : Call → Outcome
  | .write name data => s.write name data
  | .delete name => s.delete name
  | .rename old new => s.rename old new
  | .setLock name locked => s.setLock name locked
  | .watch => s.watch.2.unchanged
  | .unwatch id => (s.unwatch id).unchanged

def performAll (s : Store) (calls : List Call) : Store :=
  calls.foldl (fun s c => (s.perform c).store) s

def toldAll (s : Store) (id : Nat) : List Call → List Change
  | [] => []
  | c :: calls => (s.perform c).told id ++ (s.perform c).store.toldAll id calls

end Store

abbrev Contents := String → Option (ByteArray × Bool)

namespace Contents

def change (m : Contents) : Call → Option Change
  | .write name _ => some (.written name)
  | .delete name => if (m name).isSome then some (.deleted name) else none
  | .rename old new =>
    if (m old).isSome ∧ (m new).isNone then some (.renamed old new) else none
  | .setLock name locked => if (m name).isSome then some (.lockChanged name locked) else none
  | .watch | .unwatch _ => none

def after (m : Contents) : Call → Contents
  | .write name data => update m name (some (data, ((m name).map (·.2)).getD false))
  | .delete name => update m name none
  | .rename old new =>
    if (m old).isSome ∧ (m new).isNone then update (update m old none) new (m old) else m
  | .setLock name locked => update m name ((m name).map fun file => (file.1, locked))
  | .watch | .unwatch _ => m

end Contents

namespace Store

variable {s : Store}

def contents (s : Store) : Contents := fun name =>
  (s.find? name).map fun file => (file.data, file.locked)

theorem contents_isSome (s : Store) (name : String) :
    (s.contents name).isSome = s.contains name := by
  rw [contents, Option.isSome_map, contains]

theorem contents_remove (s : Store) (name : String) :
    (s.remove name).contents = update s.contents name none := by
  funext other
  rw [contents, find?_remove]
  by_cases same : name = other
  · simp [same]
  · simp [same, Ne.symm same, contents]

theorem contents_put (s : Store) (file : File) :
    (s.put file).contents = update s.contents file.name (some (file.data, file.locked)) := by
  funext other
  rw [contents, find?_put]
  by_cases same : file.name = other
  · simp [same]
  · simp [same, Ne.symm same, contents]

theorem rename_contents (s : Store) (old new : String) :
    (s.rename old new).store.contents = s.contents.after (.rename old new) ∧
      (s.rename old new).change = s.contents.change (.rename old new) := by
  have taken := s.contents_isSome new
  unfold rename Contents.change Contents.after
  cases contains : s.contains new with
  | true => simp [taken, contains, unchanged, ← Option.not_isSome]
  | false =>
    cases found : s.find? old with
    | none => simp [contents, found, unchanged]
    | some file =>
      have there : s.contents old = some (file.data, file.locked) := by
        rw [contents, found]
        rfl
      simp [taken, contains, there, contents_put, contents_remove, ← Option.not_isSome]

theorem contents_perform (s : Store) (c : Call) :
    (s.perform c).store.contents = s.contents.after c ∧
      (s.perform c).change = s.contents.change c := by
  cases c with
  | write name data =>
    refine ⟨?_, rfl⟩
    have lock : ((s.find? name).map (·.locked)).getD false =
        ((s.contents name).map (·.2)).getD false := by
      rw [contents, Option.map_map]
      rfl
    simp only [perform, write, contents_put, Contents.after, lock]
  | delete name =>
    have there := s.contents_isSome name
    refine ⟨?_, ?_⟩
    · rw [perform, store_delete, contents_remove]
      rfl
    · rw [perform, delete, Contents.change, there]
      split <;> rfl
  | rename old new => exact s.rename_contents old new
  | setLock name locked =>
    refine ⟨?_, ?_⟩
    · funext other
      rw [perform, contents, find?_setLock, Contents.after]
      by_cases same : name = other
      · subst same
        simp [contents, Option.map_map, Function.comp_def]
      · simp [same, Ne.symm same, contents]
    · rw [perform, setLock, Contents.change, contents, Option.isSome_map]
      cases s.find? name <;> rfl
  | watch => exact ⟨rfl, rfl⟩
  | unwatch id => exact ⟨rfl, rfl⟩

end Store

abbrev Table := String → Option Bool

namespace Table

def follow (t : Table) : Change → Table
  | .written name => if (t name).isSome then t else update t name (some false)
  | .deleted name => update t name none
  | .renamed old new => update (update t old none) new (t old)
  | .lockChanged name locked => update t name ((t name).map fun _ => locked)

structure Describes (t : Table) (s : Store) : Prop where
  status : ∀ name, t name = (s.status name).map (·.locked)
  listed : ∀ name locked, t name = some locked ↔ ∃ size, ⟨name, size, locked⟩ ∈ s.list "*.*"
  once : ((s.list "*.*").map (·.name)).Nodup

end Table

namespace Contents

def table (m : Contents) : Table := fun name => (m name).map (·.2)

theorem table_update (m : Contents) (name : String) (file : Option (ByteArray × Bool)) :
    table (update m name file) = update (table m) name (file.map (·.2)) := by
  funext other
  by_cases same : other = name
  · subst same
    simp [table]
  · simp [table, same]

theorem update_table (m : Contents) {name : String} {lock : Option Bool}
    (same : (m name).map (·.2) = lock) : update m.table name lock = m.table := by
  subst same
  exact Function.update_eq_self name m.table

theorem table_after (m : Contents) (c : Call) :
    (m.after c).table = (m.change c).toList.foldl Table.follow m.table := by
  cases c with
  | write name data =>
    rw [after, table_update]
    show update m.table name _ = if (m.table name).isSome then m.table else _
    cases file : m name with
    | none => simp [table, file]
    | some file =>
      have there : (m.table name).isSome = true := by simp [table, file]
      rw [if_pos there]
      exact m.update_table (by simp [file])
  | delete name =>
    rw [after, table_update, change]
    cases file : m name with
    | none => exact m.update_table (by simp [file])
    | some file => rfl
  | rename old new =>
    rw [after, change]
    split
    · rw [table_update, table_update]
      rfl
    · rfl
  | setLock name locked =>
    rw [after, table_update, change]
    cases file : m name with
    | none => exact m.update_table (by simp [file])
    | some file => simp [table, Table.follow, file]
  | watch => rfl
  | unwatch id => rfl

end Contents

namespace Store

variable {s : Store}

theorem list_all (s : Store) : s.list "*.*" = s.files.map File.entry := by
  have all (name : String) : wildcardMatch "*.*" name = true := by
    have parts : splitName "*.*".toList = (['*'], some ['*']) := by decide
    have bytes : utf8 ['*'] = [star] := by decide
    simp only [wildcardMatch, parts, Option.getD_some, bytes, glob_star, Bool.and_true]
  rw [list, List.filter_eq_self.2 fun f _ => all f.name]

theorem Ordered.describes (ordered : s.Ordered) : s.contents.table.Describes s where
  status name := by
    simp only [Contents.table, contents, status, Option.map_map]
    rfl
  listed name locked := by
    rw [list_all]
    simp only [Contents.table, contents, Option.map_map, Option.map_eq_some_iff, List.mem_map]
    constructor
    · rintro ⟨f, found, rfl⟩
      obtain rfl := name_of_find? found
      exact ⟨f.data.size, f, List.mem_of_find?_eq_some found, rfl⟩
    · rintro ⟨size, f, mem, entry⟩
      obtain ⟨rfl, -, rfl⟩ := Entry.mk.inj entry
      exact ⟨f, ordered.find?_of_mem mem, rfl⟩
  once := by
    have ne {f g : File} (before : f.name < g.name) : f.name ≠ g.name := fun same =>
      String.lt_irrefl _ (same ▸ before)
    rw [list_all, List.map_map, List.Nodup, List.pairwise_map]
    exact List.Pairwise.imp ne ordered

theorem Ordered.perform (ordered : s.Ordered) (c : Call) : (s.perform c).store.Ordered := by
  cases c with
  | write name data => exact lasting_ordered.write ordered trivial data
  | delete name => exact s.store_delete name ▸ lasting_ordered.remove ordered name
  | rename old new => exact lasting_ordered.rename ordered old trivial
  | setLock name locked => exact lasting_ordered.setLock ordered name locked
  | watch => exact ordered
  | unwatch id => exact ordered

structure Numbered (s : Store) : Prop where
  nodup : s.watchers.Nodup
  issued : ∀ id ∈ s.watchers, id ≤ s.lastWatcher

theorem watchers_cases (s : Store) (c : Call) :
    c = .watch ∨ (∃ id, c = .unwatch id) ∨
      (s.perform c).store.watchers = s.watchers ∧
        (s.perform c).store.lastWatcher = s.lastWatcher := by
  cases c with
  | write name data => exact .inr (.inr ⟨rfl, rfl⟩)
  | delete name =>
    rw [perform, store_delete]
    exact .inr (.inr ⟨rfl, rfl⟩)
  | rename old new =>
    refine .inr (.inr ?_)
    rw [perform, rename]
    split
    · exact ⟨rfl, rfl⟩
    · split <;> exact ⟨rfl, rfl⟩
  | setLock name locked =>
    refine .inr (.inr ?_)
    rw [perform, setLock]
    split <;> exact ⟨rfl, rfl⟩
  | watch => exact .inl rfl
  | unwatch id => exact .inr (.inl ⟨id, rfl⟩)

theorem Numbered.perform (h : s.Numbered) (c : Call) :
    (s.perform c).store.Numbered ∧ s.lastWatcher ≤ (s.perform c).store.lastWatcher := by
  rcases s.watchers_cases c with rfl | ⟨id, rfl⟩ | ⟨watchers, last⟩
  · have fresh : s.lastWatcher + 1 ∉ s.watchers := fun mem =>
      Nat.not_succ_le_self _ (h.issued _ mem)
    refine ⟨⟨?_, fun id mem => ?_⟩, Nat.le_succ _⟩
    · refine List.nodup_append.2 ⟨h.nodup, List.pairwise_singleton _ _, fun id mem new is_new same => ?_⟩
      exact fresh (List.mem_singleton.1 is_new ▸ same ▸ mem)
    · rcases List.mem_append.1 mem with old | new
      · exact Nat.le_succ_of_le (h.issued id old)
      · exact Nat.le_of_eq (List.mem_singleton.1 new)
  · exact ⟨⟨h.nodup.filter _, fun id mem => h.issued id (List.mem_filter.1 mem).1⟩, Nat.le_refl _⟩
  · exact ⟨⟨watchers ▸ h.nodup, last ▸ watchers ▸ h.issued⟩, Nat.le_of_eq last.symm⟩

theorem Numbered.told_perform (h : s.Numbered) (c : Call) (id : Nat) :
    (s.perform c).told id = if id ∈ s.watchers then (s.perform c).change.toList else [] := by
  cases made : (s.perform c).change with
  | none => simp [Outcome.told, Outcome.deliveries, made]
  | some change =>
    have watchers : (s.perform c).store.watchers = s.watchers := by
      rcases s.watchers_cases c with rfl | ⟨id, rfl⟩ | ⟨watchers, -⟩
      · cases made
      · cases made
      · exact watchers
    simp only [Outcome.told, Outcome.deliveries, made, watchers, List.filter_map, List.map_map]
    show (s.watchers.filter (· == id)).map (fun _ => change) = _
    rw [List.filter_beq, List.map_replicate, h.nodup.count]
    split <;> rfl

theorem mem_watchers_perform {id : Nat} (mem : id ∈ s.watchers) {c : Call}
    (stays : c ≠ .unwatch id) : id ∈ (s.perform c).store.watchers := by
  rcases s.watchers_cases c with rfl | ⟨other, rfl⟩ | ⟨watchers, -⟩
  · exact List.mem_append_left _ mem
  · have differ : id ≠ other := fun same => stays (same ▸ rfl)
    exact List.mem_filter.2 ⟨mem, bne_iff_ne.2 differ⟩
  · exact watchers ▸ mem

theorem not_mem_watchers_perform {id : Nat} (issued : id ≤ s.lastWatcher)
    (gone : id ∉ s.watchers) (c : Call) : id ∉ (s.perform c).store.watchers := by
  rcases s.watchers_cases c with rfl | ⟨other, rfl⟩ | ⟨watchers, -⟩
  · intro mem
    rcases List.mem_append.1 mem with old | new
    · exact gone old
    · exact Nat.not_succ_le_self _ (List.mem_singleton.1 new ▸ issued)
  · exact fun mem => gone (List.mem_filter.1 mem).1
  · exact watchers ▸ gone

theorem Ordered.performAll (ordered : s.Ordered) (calls : List Call) :
    (s.performAll calls).Ordered := by
  induction calls generalizing s with
  | nil => exact ordered
  | cons c calls ih => exact ih (ordered.perform c)

theorem Numbered.performAll (h : s.Numbered) (calls : List Call) :
    (s.performAll calls).Numbered ∧ s.lastWatcher ≤ (s.performAll calls).lastWatcher := by
  induction calls generalizing s with
  | nil => exact ⟨h, Nat.le_refl _⟩
  | cons c calls ih =>
    obtain ⟨next, before⟩ := h.perform c
    exact (ih next).imp_right (Nat.le_trans before)

theorem Numbered.follow (h : s.Numbered) {id : Nat} (mem : id ∈ s.watchers) {calls : List Call}
    (stays : .unwatch id ∉ calls) :
    id ∈ (s.performAll calls).watchers ∧
      (s.toldAll id calls).foldl Table.follow s.contents.table =
        (s.performAll calls).contents.table := by
  induction calls generalizing s with
  | nil => exact ⟨mem, rfl⟩
  | cons c calls ih =>
    have other : c ≠ .unwatch id := fun same => stays (same ▸ List.mem_cons_self)
    have rest : .unwatch id ∉ calls := fun later => stays (List.mem_cons_of_mem c later)
    obtain ⟨contents, change⟩ := s.contents_perform c
    have first : ((s.perform c).told id).foldl Table.follow s.contents.table =
        (s.perform c).store.contents.table := by
      rw [h.told_perform, if_pos mem, contents, change, Contents.table_after]
    rw [toldAll, List.foldl_append, first]
    exact ih (h.perform c).1 (mem_watchers_perform mem other) rest

theorem Numbered.toldAll_of_not_mem (h : s.Numbered) {id : Nat} (issued : id ≤ s.lastWatcher)
    (gone : id ∉ s.watchers) (calls : List Call) : s.toldAll id calls = [] := by
  induction calls generalizing s with
  | nil => rfl
  | cons c calls ih =>
    obtain ⟨next, before⟩ := h.perform c
    rw [toldAll, h.told_perform, if_neg gone, List.nil_append]
    exact ih next (Nat.le_trans issued before) (not_mem_watchers_perform issued gone c)

structure Renames (s : Store) (old new : String) : Prop where
  succeeds : (s.rename old new).succeeded = (s.contains old && !s.contains new)
  refused : (s.rename old new).succeeded = false → (s.rename old new).store = s
  moved : (s.rename old new).succeeded →
    (s.rename old new).store.contents new = s.contents old ∧
      (s.rename old new).store.contents old = none
  spared : ∀ name, name ≠ old → (name = new → s.contains name) →
    (s.rename old new).store.contents name = s.contents name

theorem renames (s : Store) (old new : String) : s.Renames old new := by
  obtain ⟨contents, change⟩ := s.rename_contents old new
  refine ⟨?_, fun failed => ?_, fun done => ?_, fun name ne kept => ?_⟩
  · rw [Outcome.succeeded, change, Contents.change, ← s.contents_isSome, ← s.contents_isSome]
    cases s.contents old <;> cases s.contents new <;> rfl
  · revert failed
    unfold rename
    split
    · exact fun _ => rfl
    · split
      · exact fun _ => rfl
      · exact nofun
  · rw [Outcome.succeeded, change, Contents.change] at done
    split at done
    · rename_i free
      have differ : old ≠ new := by
        rintro rfl
        rw [Option.isNone_iff_eq_none.1 free.2] at free
        cases free.1
      rw [contents, Contents.after, if_pos free]
      simp [differ]
    · cases done
  · rw [Store.contents, find?_rename_of_ne s ne fun same => same ▸ kept same]
    rfl

def locks (s : Store) : Table := fun name => (s.status name).map (·.locked)

/-- What a store does for those who watch it. -/
structure Tells (s : Store) : Prop where
  fresh : s.watch.1 ∉ s.watchers
  /-- Until it leaves, its table agrees with the store. -/
  follows : ∀ calls, .unwatch s.watch.1 ∉ calls →
    s.watch.1 ∈ (s.watch.2.performAll calls).watchers ∧
      ((s.watch.2.toldAll s.watch.1 calls).foldl Table.follow s.locks).Describes
        (s.watch.2.performAll calls)
  leaves : ∀ calls later,
    ((s.watch.2.performAll calls).unwatch s.watch.1).toldAll s.watch.1 later = []
  /-- A call that succeeds is told once to each watcher that is there, one that fails to nobody. -/
  once : ∀ c id, (s.perform c).told id =
    if id ∈ s.watchers then (s.perform c).change.toList else []
  read : ∀ name, s.read name = (s.contents name).map (·.1)
  maps : ∀ c, (s.perform c).store.contents = s.contents.after c ∧
    (s.perform c).change = s.contents.change c
  renames : ∀ old new, s.Renames old new

theorem contents_table (s : Store) : s.contents.table = s.locks := by
  funext name
  rw [Contents.table, contents, locks, status, Option.map_map, Option.map_map]
  rfl

variable {files : List File}

/-- A store does so whatever was done to it, and whoever watched it before. -/
theorem tells_performAll (sorted : Sorted files) (earlier : List Call) :
    (({ files } : Store).performAll earlier).Tells := by
  have start : ({ files } : Store).Numbered := ⟨.nil, nofun⟩
  have numbered := (start.performAll earlier).1
  have ordered : (({ files } : Store).performAll earlier).Ordered :=
    Ordered.performAll (show ({ files } : Store).Ordered from sorted) earlier
  generalize ({ files } : Store).performAll earlier = s at numbered ordered
  obtain ⟨watched, -⟩ := numbered.perform .watch
  have mem : s.watch.1 ∈ s.watch.2.watchers := List.mem_append_right _ (List.mem_singleton.2 rfl)
  refine ⟨fun old => ?_, fun calls stays => ?_, fun calls later => ?_, numbered.told_perform,
    fun name => ?_, s.contents_perform, s.renames⟩
  · exact Nat.not_succ_le_self _ (numbered.issued _ old)
  · obtain ⟨still, follow⟩ := Numbered.follow watched mem stays
    refine ⟨still, ?_⟩
    have before : s.locks = s.watch.2.contents.table := s.contents_table.symm
    rw [before]
    exact follow ▸ (Ordered.performAll (ordered.perform .watch) calls).describes
  · obtain ⟨running, issued⟩ := watched.performAll calls
    obtain ⟨left, -⟩ := running.perform (.unwatch s.watch.1)
    refine left.toldAll_of_not_mem (Nat.le_trans (watched.issued _ mem) issued) (fun mem => ?_) later
    exact bne_iff_ne.1 (List.mem_filter.1 mem).2 rfl
  · rw [Store.read, contents, Option.map_map]
    rfl

def sampleFiles : List File :=
  [{ name := "A", data := "1".toUTF8, locked := true }, { name := "B", data := "2".toUTF8 }]

theorem tells_sample : Sorted sampleFiles ∧
    (({ files := sampleFiles } : Store).performAll [.delete "B", .watch, .unwatch 1]).Tells := by
  have sorted : Sorted sampleFiles := by
    unfold Sorted
    decide
  exact ⟨sorted, tells_performAll sorted _⟩

example : ({ files := sampleFiles } : Store).watch.2.toldAll 1
    [.rename "A" "B", .rename "A" "C", .delete "A", .write "C" .empty, .unwatch 1, .delete "C"] =
    [.renamed "A" "C", .written "C"] := by
  decide

end Store

end Atari800XL.Files
