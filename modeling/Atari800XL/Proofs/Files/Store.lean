import Atari800XL.Files.Store

namespace Atari800XL.Files

namespace Store

theorem find?_insertFile (file : File) (files : List File) (name : String) :
    (insertFile file files).find? (·.name == name) =
      if file.name = name then some file else files.find? (·.name == name) := by
  induction files with
  | nil =>
    by_cases found : file.name = name <;> simp [insertFile, found]
  | cons f files ih =>
    unfold insertFile
    split
    · by_cases found : file.name = name <;> simp [found]
    · split
      · rename_i same
        by_cases found : file.name = name <;> simp [found, ← same]
      · rename_i differ
        by_cases earlier : f.name = name
        · have other : file.name ≠ name := fun found => differ (found.trans earlier.symm)
          simp [earlier, other]
        · simp [earlier, ih]

theorem find?_write (s : Store) (name : String) (data : ByteArray) (other : String) :
    (s.write name data).store.find? other =
      if name = other then
        some { name, data, locked := ((s.find? name).map (·.locked)).getD false }
      else s.find? other :=
  find?_insertFile _ s.files other

theorem read_write (s : Store) (name : String) (data : ByteArray) :
    (s.write name data).store.read name = some data := by
  rw [read, find?_write, if_pos rfl]
  rfl

theorem find?_write_of_ne (s : Store) {name other : String} (data : ByteArray)
    (ne : other ≠ name) : (s.write name data).store.find? other = s.find? other := by
  rw [find?_write, if_neg (Ne.symm ne)]

theorem find?_put (s : Store) (file : File) (name : String) :
    (s.put file).find? name = if file.name = name then some file else s.find? name :=
  find?_insertFile file s.files name

theorem find?_remove (s : Store) (name other : String) :
    (s.remove name).find? other = if name = other then none else s.find? other := by
  rw [find?, remove, List.find?_filter]
  split
  · rename_i same
    simp [same]
  · rename_i differ
    rw [find?]
    congr 1
    funext f
    by_cases found : f.name = other
    · simp [found, Ne.symm differ]
    · simp [found]

def removeAll (s : Store) (names : List String) : Store :=
  { s with files := s.files.filter fun f => f.name ∉ names }

theorem find?_removeAll_of_not_mem (s : Store) {names : List String} {name : String}
    (kept : name ∉ names) : (s.removeAll names).find? name = s.find? name := by
  rw [find?, removeAll, List.find?_filter, find?]
  congr 1
  funext f
  by_cases found : f.name = name
  · simp [found, kept]
  · simp [found]

theorem removeAll_eq_self_iff (s : Store) (names : List String) :
    s.removeAll names = s ↔ ∀ f ∈ s.files, f.name ∉ names := by
  constructor
  · intro same f mem
    have kept : f ∈ (s.removeAll names).files := by rwa [same]
    simpa using (List.mem_filter.1 kept).2
  · intro others
    have all : (s.files.filter fun f => f.name ∉ names) = s.files := by
      simpa [List.filter_eq_self] using others
    rw [removeAll, all]

theorem removeAll_nil (s : Store) : s.removeAll [] = s := by
  simp [removeAll_eq_self_iff]

theorem removeAll_remove (s : Store) (name : String) (names : List String) :
    (s.remove name).removeAll names = s.removeAll (name :: names) := by
  simp only [removeAll, remove, List.filter_filter]
  congr 1
  refine List.filter_congr fun f _ => ?_
  by_cases found : f.name = name <;> simp [found]

theorem store_delete (s : Store) (name : String) : (s.delete name).store = s.remove name := by
  unfold delete
  split
  · rfl
  · rename_i missing
    have none : s.find? name = none := by simpa [contains] using missing
    have others : ∀ f ∈ s.files, f.name ≠ name := by simpa [find?] using none
    have all : s.files.filter (·.name != name) = s.files := by
      simpa [List.filter_eq_self] using others
    rw [unchanged, remove, all]

theorem name_of_find? {s : Store} {name : String} {f : File} (found : s.find? name = some f) :
    f.name = name := by
  simpa using List.find?_some found

theorem find?_setLock (s : Store) (name : String) (locked : Bool) (other : String) :
    (s.setLock name locked).store.find? other =
      if name = other then (s.find? other).map ({ · with locked }) else s.find? other := by
  unfold setLock
  cases found : s.find? name with
  | none =>
    show s.find? other = _
    split
    · rename_i same
      rw [← same, found]
      rfl
    · rfl
  | some f =>
    obtain rfl := name_of_find? found
    refine (find?_put s _ other).trans ?_
    split
    · rename_i same
      obtain rfl : f.name = other := same
      rw [found]
      rfl
    · rfl

theorem find?_rename_of_ne (s : Store) {old new other : String} (ne : other ≠ old)
    (kept : other = new → s.contains new) :
    (s.rename old new).store.find? other = s.find? other := by
  unfold rename
  split
  · rfl
  · rename_i free
    have other_new : new ≠ other := fun same => free (kept same.symm)
    split
    · rfl
    · refine (find?_put _ _ other).trans ?_
      show (if new = other then _ else _) = _
      rw [if_neg other_new, find?_remove, if_neg ne.symm]

theorem find?_rename (s : Store) {old new : String} {f : File} (found : s.find? old = some f)
    (free : s.contains new = false) (other : String) :
    (s.rename old new).store.find? other =
      if new = other then some { f with name := new }
      else if old = other then none
      else s.find? other := by
  have moved : (s.rename old new).store = (s.remove old).put { f with name := new } := by
    rw [rename, free, if_neg Bool.false_ne_true, found]
  rw [moved, find?_put, find?_remove]

end Store

theorem isNameChar_of_false {c : Char} (h : isNameChar false c = true) (wildcards : Bool) :
    isNameChar wildcards c = true := by
  have alphanumeric : c.isAlphanum = true := by simpa [isNameChar] using h
  simp [isNameChar, alphanumeric]

theorem not_wildcard_of_isNameChar {c : Char} (h : isNameChar false c = true) :
    (c == '*' || c == '?') = false := by
  have alphanumeric : c.isAlphanum = true := by simpa [isNameChar] using h
  have star : c ≠ '*' := by
    rintro rfl
    revert alphanumeric
    decide
  have question : c ≠ '?' := by
    rintro rfl
    revert alphanumeric
    decide
  simp [star, question]

/-- A name of up to eight letters and digits, and up to three more behind a dot. -/
structure Parts (wildcards : Bool) (name : String) (base extension : List Char) : Prop where
  some : base ≠ []
  fits : base.length ≤ 8
  fits_extension : extension.length ≤ 3
  plain : ∀ c ∈ base ++ extension, isNameChar wildcards c = true
  whole : name.toList = if extension = [] then base else base ++ '.' :: extension

def upper (raw : String) : List Char := Text.upperCaseList (Text.trimList raw.toList)

theorem normalize_eq_some_iff {raw name : String} {wildcards : Bool} :
    normalize raw wildcards = some name ↔
      Parts wildcards name (splitName (upper raw)).1 ((splitName (upper raw)).2.getD []) := by
  unfold normalize
  dsimp only
  change (if _ then none else _) = some name ↔ _
  rw [← upper]
  generalize (splitName (upper raw)).1 = base
  generalize (splitName (upper raw)).2.getD [] = extension
  constructor
  · intro valid
    split at valid
    · cases valid
    · rename_i short
      obtain ⟨⟨some, fits⟩, fits'⟩ : (base ≠ [] ∧ base.length ≤ 8) ∧ extension.length ≤ 3 := by
        simpa only [Bool.or_eq_true, List.isEmpty_iff, decide_eq_true_eq, not_or, Nat.not_lt] using
          short
      split at valid
      · cases valid
      · rename_i chars
        have plain : ∀ c ∈ base ++ extension, isNameChar wildcards c = true := by
          simpa only [Bool.not_eq_true, Bool.not_eq_false', List.all_eq_true] using chars
        refine ⟨some, fits, fits', plain, ?_⟩
        split at valid
        · rename_i empty
          rw [if_pos (List.isEmpty_iff.1 empty), ← Option.some.inj valid, String.toList_ofList]
        · rename_i some
          rw [if_neg (fun empty => some (List.isEmpty_iff.2 empty)), ← Option.some.inj valid,
            String.toList_ofList]
  · rintro ⟨some, fits, fits', plain, whole⟩
    have short : ¬(base.isEmpty || decide (base.length > 8) || decide (extension.length > 3)) =
        true := by
      simpa only [Bool.or_eq_true, List.isEmpty_iff, decide_eq_true_eq, not_or, Nat.not_lt] using
        And.intro ⟨some, fits⟩ fits'
    have chars : ¬(!(base ++ extension).all (isNameChar wildcards)) = true := by
      simpa only [Bool.not_eq_true, Bool.not_eq_false', List.all_eq_true] using plain
    rw [if_neg short, if_neg chars]
    split
    · rename_i empty
      rw [if_pos (List.isEmpty_iff.1 empty)] at whole
      rw [← whole, String.ofList_toList]
    · rename_i some
      rw [if_neg (fun empty => some (List.isEmpty_iff.2 empty))] at whole
      rw [← whole, String.ofList_toList]

theorem Parts.isPattern_eq {name : String} {base extension : List Char}
    (parts : Parts false name base extension) : isPattern name = false := by
  have plain : ∀ c ∈ name.toList, (c == '*' || c == '?') = false := by
    obtain ⟨inBase, inExtension⟩ := List.forall_mem_append.1 parts.plain
    rw [parts.whole]
    split
    · exact fun c mem => not_wildcard_of_isNameChar (inBase c mem)
    · rw [List.forall_mem_append, List.forall_mem_cons]
      exact ⟨fun c mem => not_wildcard_of_isNameChar (inBase c mem), by decide,
        fun c mem => not_wildcard_of_isNameChar (inExtension c mem)⟩
  rw [isPattern, List.any_eq_false]
  exact fun c mem => by rw [plain c mem]; exact Bool.false_ne_true

theorem normalize_of_false {raw name : String} (h : normalize raw false = some name)
    (wildcards : Bool) : normalize raw wildcards = some name ∧ isPattern name = false := by
  have parts := normalize_eq_some_iff.1 h
  refine ⟨normalize_eq_some_iff.2 ?_, parts.isPattern_eq⟩
  exact { parts with plain := fun c mem => isNameChar_of_false (parts.plain c mem) wildcards }

end Atari800XL.Files
