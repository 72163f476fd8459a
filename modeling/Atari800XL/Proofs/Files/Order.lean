import Atari800XL.Proofs.Files.Store

namespace Atari800XL.Files.Store

variable {s : Store} {file f : File} {files : List File}

def Sorted (files : List File) : Prop := files.Pairwise fun f g => f.name < g.name

def Ordered (s : Store) : Prop := Sorted s.files

theorem lt_of_not_lt {a b : String} (before : ¬a < b) (ne : a ≠ b) : b < a := by
  refine Classical.byContradiction fun behind => ?_
  exact ne (String.le_antisymm (String.not_lt.1 behind) (String.not_lt.1 before))

theorem mem_insertFile (h : f ∈ insertFile file files) : f = file ∨ f ∈ files := by
  induction files with
  | nil => exact .inl (List.mem_singleton.1 h)
  | cons g files ih =>
    unfold insertFile at h
    split at h
    · exact List.mem_cons.1 h
    · split at h
      · exact (List.mem_cons.1 h).imp_right (List.mem_cons_of_mem g)
      · rcases List.mem_cons.1 h with same | rest
        · exact .inr (same ▸ List.mem_cons_self)
        · exact (ih rest).imp_right (List.mem_cons_of_mem g)

theorem sorted_insertFile (file : File) (sorted : Sorted files) :
    Sorted (insertFile file files) := by
  induction files with
  | nil => exact .cons nofun .nil
  | cons g files ih =>
    obtain ⟨first, rest⟩ := List.pairwise_cons.1 sorted
    unfold insertFile
    split
    · rename_i before
      refine .cons (fun h mem => ?_) sorted
      rcases List.mem_cons.1 mem with rfl | mem
      · exact before
      · exact String.lt_trans before (first h mem)
    · rename_i not_before
      split
      · rename_i same
        exact .cons (fun h mem => same ▸ first h mem) rest
      · rename_i differ
        have behind := lt_of_not_lt not_before differ
        refine .cons (fun h mem => ?_) (ih rest)
        rcases mem_insertFile mem with rfl | mem
        · exact behind
        · exact first h mem

theorem insertFile_of_mem (sorted : Sorted files) (mem : file ∈ files) :
    insertFile file files = files := by
  induction files with
  | nil => cases mem
  | cons g files ih =>
    obtain ⟨first, rest⟩ := List.pairwise_cons.1 sorted
    unfold insertFile
    rcases List.mem_cons.1 mem with rfl | mem
    · rw [if_neg (String.lt_irrefl _), if_pos rfl]
    · have behind := first file mem
      have differ : file.name ≠ g.name := fun same => String.lt_irrefl _ (same ▸ behind)
      rw [if_neg (String.lt_asymm behind), if_neg differ, ih rest mem]

structure Lasting (Holds : Store → Prop) (Good : String → Prop) : Prop where
  filter {s : Store} (p : File → Bool) : Holds s → Holds { s with files := s.files.filter p }
  put {s : Store} {file : File} : Holds s → Good file.name → Holds (s.put file)
  good {s : Store} {f : File} : Holds s → f ∈ s.files → Good f.name

namespace Lasting

variable {Holds : Store → Prop} {Good : String → Prop} {new : String}
variable (lasting : Lasting Holds Good) (holds : Holds s)
include lasting holds

theorem remove (name : String) : Holds (s.remove name) := lasting.filter _ holds

theorem removeAll (names : List String) : Holds (s.removeAll names) := lasting.filter _ holds

theorem write (named : Good new) (data : ByteArray) : Holds (s.write new data).store :=
  lasting.put holds named

theorem rename (old : String) (named : Good new) : Holds (s.rename old new).store := by
  unfold Store.rename
  split
  · exact holds
  · split
    · exact holds
    · exact lasting.put (lasting.remove holds old) named

theorem setLock (name : String) (locked : Bool) : Holds (s.setLock name locked).store := by
  unfold Store.setLock
  split
  · exact holds
  · rename_i f found
    have good : Good f.name := lasting.good holds (List.mem_of_find?_eq_some found)
    exact lasting.put holds good

end Lasting

theorem lasting_ordered : Lasting Ordered fun _ => True where
  filter p ordered := List.Pairwise.filter p ordered
  put ordered _ := sorted_insertFile _ ordered
  good _ _ := trivial

namespace Ordered

variable (ordered : s.Ordered)
include ordered

theorem find?_of_mem (mem : f ∈ s.files) : s.find? f.name = some f := by
  have found := find?_put s f f.name
  rwa [Store.put, insertFile_of_mem ordered mem, if_pos rfl] at found

theorem write_of_read {name : String} {data : ByteArray} (same : s.read name = some data) :
    (s.write name data).store = s := by
  obtain ⟨f, found, rfl⟩ := Option.map_eq_some_iff.1 same
  obtain rfl := name_of_find? found
  have mem : f ∈ s.files := List.mem_of_find?_eq_some found
  have written : (s.write f.name f.data).store = s.put f := by
    simp only [Store.write, found, Option.map_some, Option.getD_some]
  rw [written, Store.put, insertFile_of_mem ordered mem]

end Ordered

end Atari800XL.Files.Store
