import Atari800XL.Proofs.Files.Matching

namespace Atari800XL

namespace Text

section

variable {c : Char}

theorem isLower_eq_false_iff : c.isLower = false ↔ c.toNat < 97 ∨ 122 < c.toNat := by
  have small : c.isLower = true ↔ 97 ≤ c.toNat ∧ c.toNat ≤ 122 := by
    unfold Char.isLower
    rw [Bool.and_eq_true, decide_eq_true_eq, decide_eq_true_eq, ge_iff_le, UInt32.le_iff_toNat_le,
      UInt32.le_iff_toNat_le]
    exact Iff.rfl
  rw [← Bool.not_eq_true, small]
  omega

theorem toUpper_of_not_isLower (capital : c.isLower = false) : c.toUpper = c := by
  unfold Char.isLower at capital
  unfold Char.toUpper
  rw [dif_neg (by simpa using capital)]

theorem isLower_toUpper (c : Char) : c.toUpper.isLower = false := by
  by_cases other : c.toNat < 97 ∨ 122 < c.toNat
  · have capital := isLower_eq_false_iff.2 other
    rw [toUpper_of_not_isLower capital, capital]
  · have all : ∀ n < 26, (Char.ofNat (97 + n)).toUpper.isLower = false := by decide
    have here := all (c.toNat - 97) (by omega)
    rwa [show 97 + (c.toNat - 97) = c.toNat by omega, Char.ofNat_toNat] at here

theorem isLower_ofNat {n : Nat} (other : n < 97 ∨ 122 < n) : (Char.ofNat n).isLower = false := by
  by_cases valid : n.isValidChar
  · have code : (Char.ofNat n).toNat = n := by
      rw [Char.ofNat, dif_pos valid]
      rfl
    exact isLower_eq_false_iff.2 (by rwa [code])
  · rw [Char.ofNat, dif_neg valid]
    rfl

theorem isLower_of_mem_upperCaseChar {capital : Char} (mem : capital ∈ upperCaseChar c) :
    capital.isLower = false := by
  unfold upperCaseChar at mem
  split at mem
  · obtain rfl := List.mem_singleton.1 mem
    exact isLower_toUpper c
  · rename_i beyond
    split at mem
    · rename_i codes found
      obtain ⟨code, inside, rfl⟩ := List.mem_map.1 mem
      obtain ⟨before, after, whole, -⟩ := List.lookup_eq_some_iff.1 found
      have listed : (c.toNat, codes) ∈ longCapitals := by simp [whole]
      have none : ∀ letter ∈ longCapitals, ∀ code ∈ letter.2, code < 97 ∨ 122 < code := by
        decide +kernel
      exact isLower_ofNat (none _ listed code inside)
    · obtain rfl := List.mem_singleton.1 mem
      unfold CaseRange.partner
      split
      · rename_i r found
        have holds := List.find?_some found
        simp only [CaseRange.holds, Bool.and_eq_true, decide_eq_true_eq] at holds
        have none : ∀ r ∈ upperCaseRanges, r.last + r.offset < 97 ∨ 122 < r.first + r.offset := by
          decide +kernel
        have := none r (List.mem_of_find?_eq_some found)
        exact isLower_ofNat (by omega)
      · exact isLower_eq_false_iff.2 (by omega)

end

section

variable {cs : List Char}

theorem upperCaseList_eq_map {f : Char → Char} (single : ∀ c ∈ cs, upperCaseChar c = [f c]) :
    upperCaseList cs = cs.map f := by
  induction cs with
  | nil => rfl
  | cons c cs ih =>
    obtain ⟨first, others⟩ := List.forall_mem_cons.1 single
    rw [upperCaseList, List.flatMap_cons, first, List.map_cons]
    exact congrArg _ (ih others)

def blanks : List Char := ['\t', '\n', '\x0b', '\x0c', '\r', ' ']

theorem mem_blanks {c : Char} (ascii : c.toNat < 128) (blank : isBlank c = true) : c ∈ blanks := by
  have all : ∀ n < 128, isBlank (Char.ofNat n) = true → Char.ofNat n ∈ blanks := by decide +kernel
  have here := all c.toNat ascii
  rw [Char.ofNat_toNat] at here
  exact here blank

theorem of_mem_blanks : ∀ c ∈ blanks, isBlank c = true ∧ c.toUpper = c := by
  have all : blanks.all (fun c => isBlank c && c.toUpper == c) = true := by decide
  simpa using all

theorem exists_blanks (cs : List Char) : ∃ before after, cs = before ++ trimList cs ++ after ∧
    (∀ c ∈ before, isBlank c = true) ∧ ∀ c ∈ after, isBlank c = true := by
  let rest := (cs.dropWhile isBlank).reverse
  have whole : cs.dropWhile isBlank = trimList cs ++ (rest.takeWhile isBlank).reverse := by
    rw [trimList, ← List.reverse_append, List.takeWhile_append_dropWhile, List.reverse_reverse]
  refine ⟨cs.takeWhile isBlank, (rest.takeWhile isBlank).reverse, ?_, fun c mem => ?_,
    fun c mem => ?_⟩
  · rw [List.append_assoc, ← whole, List.takeWhile_append_dropWhile]
  · exact List.mem_takeWhile_imp mem
  · exact List.mem_takeWhile_imp (List.mem_reverse.1 mem)

variable {before after : List Char}

theorem dropWhile_blanks (blank : ∀ c ∈ before, isBlank c = true) (some : cs ≠ [])
    (solid : ∀ c ∈ cs, isBlank c = false) (after : List Char) :
    (before ++ (cs ++ after)).dropWhile isBlank = cs ++ after := by
  obtain ⟨c, cs, rfl⟩ := List.exists_cons_of_ne_nil some
  have stays : ¬isBlank c = true := Bool.eq_false_iff.1 (solid c List.mem_cons_self)
  rw [List.dropWhile_append_of_pos blank, List.cons_append, List.dropWhile_cons_of_neg stays]

theorem trimList_append (blank : ∀ c ∈ before, isBlank c = true)
    (blank' : ∀ c ∈ after, isBlank c = true) (some : cs ≠ [])
    (solid : ∀ c ∈ cs, isBlank c = false) : trimList (before ++ cs ++ after) = cs := by
  have behind : (after.reverse ++ (cs.reverse ++ [])).dropWhile isBlank = cs.reverse ++ [] :=
    dropWhile_blanks (fun c mem => blank' c (List.mem_reverse.1 mem))
      (List.reverse_ne_nil_iff.2 some) (fun c mem => solid c (List.mem_reverse.1 mem)) []
  rw [List.append_nil] at behind
  rw [trimList, List.append_assoc, dropWhile_blanks blank some solid, List.reverse_append, behind,
    List.reverse_reverse]

end

end Text

namespace Files

def NameLetter (wildcards : Bool) (c : Char) : Prop :=
  'A' ≤ c ∧ c ≤ 'Z' ∨ '0' ≤ c ∧ c ≤ '9' ∨ wildcards = true ∧ (c = '*' ∨ c = '?')

instance (wildcards : Bool) (c : Char) : Decidable (NameLetter wildcards c) :=
  inferInstanceAs (Decidable ('A' ≤ c ∧ c ≤ 'Z' ∨ '0' ≤ c ∧ c ≤ '9' ∨
    wildcards = true ∧ (c = '*' ∨ c = '?')))

section

variable {wildcards : Bool} {c : Char}

theorem nameLetter_iff :
    NameLetter wildcards c ↔ isNameChar wildcards c = true ∧ c.isLower = false := by
  have capital : 'A' ≤ c ∧ c ≤ 'Z' ↔ 65 ≤ c.toNat ∧ c.toNat ≤ 90 := Iff.rfl
  have digit : '0' ≤ c ∧ c ≤ '9' ↔ 48 ≤ c.toNat ∧ c.toNat ≤ 57 := Iff.rfl
  have star : c = '*' → c.toNat = 42 := congrArg Char.toNat
  have question : c = '?' → c.toNat = 63 := congrArg Char.toNat
  simp only [NameLetter, isNameChar, Bool.or_eq_true, Bool.and_eq_true, beq_iff_eq, isAlphanum_iff,
    Text.isLower_eq_false_iff, capital, digit]
  grind

theorem NameLetter.toNat_cases (letter : NameLetter wildcards c) :
    65 ≤ c.toNat ∧ c.toNat ≤ 90 ∨ 48 ≤ c.toNat ∧ c.toNat ≤ 57 ∨ c.toNat = 42 ∨ c.toNat = 63 := by
  rcases letter with capital | digit | ⟨-, rfl | rfl⟩
  · exact .inl capital
  · exact .inr (.inl digit)
  · exact .inr (.inr (.inl rfl))
  · exact .inr (.inr (.inr rfl))

theorem NameLetter.ne_dot (letter : NameLetter wildcards c) : c ≠ '.' := by
  rintro rfl
  have := letter.toNat_cases
  revert this
  decide

theorem NameLetter.solid (letter : NameLetter wildcards c ∨ c = '.') :
    Text.isBlank c = false ∧ Text.upperCaseChar c = [c] := by
  have all : ∀ n < 91, 42 ≤ n → n ≠ 43 → Text.isBlank (Char.ofNat n) = false ∧
      Text.upperCaseChar (Char.ofNat n) = [Char.ofNat n] := by decide +kernel
  have code : 42 ≤ c.toNat ∧ c.toNat < 91 ∧ c.toNat ≠ 43 := by
    rcases letter with letter | rfl
    · have := letter.toNat_cases
      omega
    · decide
  have here := all c.toNat code.2.1 code.1 code.2.2
  rwa [Char.ofNat_toNat] at here

end

structure Word (wildcards : Bool) (most : Nat) (cs : List Char) : Prop where
  some : cs ≠ []
  fits : cs.length ≤ most
  letters : ∀ c ∈ cs, NameLetter wildcards c

inductive Written (wildcards : Bool) : List Char → List Char → Prop
  | bare {base : List Char} (word : Word wildcards 8 base) : Written wildcards base base
  | dotted {base : List Char} (word : Word wildcards 8 base) :
      Written wildcards (base ++ ['.']) base
  | whole {base extension : List Char} (word : Word wildcards 8 base)
      (word' : Word wildcards 3 extension) :
      Written wildcards (base ++ '.' :: extension) (base ++ '.' :: extension)

section

variable {wildcards : Bool} {written named : List Char}

theorem Word.undotted {most : Nat} (word : Word wildcards most written) : '.' ∉ written :=
  fun mem => (word.letters '.' mem).ne_dot rfl

namespace Written

theorem letters (h : Written wildcards written named) :
    written ≠ [] ∧ ∀ c ∈ written, NameLetter wildcards c ∨ c = '.' := by
  cases h with
  | bare word => exact ⟨word.some, fun c mem => .inl (word.letters c mem)⟩
  | dotted word =>
    refine ⟨by simp, fun c mem => ?_⟩
    rcases List.mem_append.1 mem with mem | mem
    · exact .inl (word.letters c mem)
    · exact .inr (List.mem_singleton.1 mem)
  | whole word word' =>
    refine ⟨by simp, fun c mem => ?_⟩
    rcases List.mem_append.1 mem with mem | mem
    · exact .inl (word.letters c mem)
    · exact (List.mem_cons.1 mem).symm.imp_left (word'.letters c)

theorem named_self (h : Written wildcards written named) : Written wildcards named named := by
  cases h with
  | bare word | dotted word => exact .bare word
  | whole word word' => exact .whole word word'

end Written

theorem parts_iff_written (capitals : ∀ c ∈ written, c.isLower = false) {name : String} :
    Parts wildcards name (splitName written).1 ((splitName written).2.getD []) ↔
      Written wildcards written name.toList := by
  have letter {c : Char} (inside : c ∈ written) (plain : isNameChar wildcards c = true) :
      NameLetter wildcards c := nameLetter_iff.2 ⟨plain, capitals c inside⟩
  have plain {most : Nat} {cs : List Char} (word : Word wildcards most cs) :
      ∀ c ∈ cs, isNameChar wildcards c = true :=
    fun c mem => (nameLetter_iff.1 (word.letters c mem)).1
  constructor
  · rintro ⟨some, fits, fits', plain, whole⟩
    rcases splitName_cases written with
      ⟨-, parts⟩ | ⟨base, extension, -, rfl, parts⟩ <;> rw [parts] at some fits fits' plain whole
    · rw [whole]
      exact .bare ⟨some, fits, fun c mem => letter mem (plain c (List.mem_append_left _ mem))⟩
    · have word : Word wildcards 8 base := ⟨some, fits, fun c mem =>
        letter (List.mem_append_left _ mem) (plain c (List.mem_append_left _ mem))⟩
      rw [Option.getD_some] at whole
      split at whole
      · rename_i none
        obtain rfl : extension = [] := none
        rw [whole]
        exact .dotted word
      · rename_i some'
        rw [whole]
        exact .whole word ⟨some', fits', fun c mem =>
          letter (by simp [mem]) (plain c (List.mem_append_right _ mem))⟩
  · intro h
    generalize named : name.toList = cs at h
    cases h with
    | bare word =>
      rw [splitName_of_not_mem word.undotted]
      exact ⟨word.some, word.fits, Nat.zero_le 3, by simpa using plain word, named⟩
    | dotted word =>
      rw [splitName_append word.undotted]
      exact ⟨word.some, word.fits, Nat.zero_le 3, by simpa using plain word, named⟩
    | whole word word' =>
      rw [splitName_append word.undotted]
      exact ⟨word.some, word.fits, word'.fits, List.forall_mem_append.2 ⟨plain word, plain word'⟩,
        named.trans (if_neg word'.some).symm⟩

end

section

variable {raw name : String} {wildcards : Bool}

theorem normalize_eq_some_iff_written :
    normalize raw wildcards = some name ↔ Written wildcards (upper raw) name.toList := by
  refine normalize_eq_some_iff.trans (parts_iff_written fun c mem => ?_)
  obtain ⟨letter, -, capital⟩ := List.mem_flatMap.1 mem
  exact Text.isLower_of_mem_upperCaseChar capital

theorem normalize_self (valid : normalize raw wildcards = some name) :
    normalize name wildcards = some name := by
  have written := (normalize_eq_some_iff_written.1 valid).named_self
  obtain ⟨some, letters⟩ := written.letters
  have solid (c : Char) (mem : c ∈ name.toList) := NameLetter.solid (letters c mem)
  have trimmed : Text.trimList name.toList = name.toList := by
    simpa using @Text.trimList_append name.toList [] [] nofun nofun some fun c mem =>
      (solid c mem).1
  have capitals : Text.upperCaseList name.toList = name.toList.map id :=
    Text.upperCaseList_eq_map fun c mem => (solid c mem).2
  rw [normalize_eq_some_iff_written, upper, trimmed, capitals, List.map_id]
  exact written

/-- A text of the first 128 characters spells a name. -/
def Spells (wildcards : Bool) (text : List Char) (name : String) : Prop :=
  ∃ before written after, text = before ++ written ++ after ∧
    (∀ c ∈ before ++ after, c ∈ Text.blanks) ∧
    Written wildcards (written.map Char.toUpper) name.toList

theorem normalize_eq_some_iff_spells (ascii : ∀ c ∈ raw.toList, c.toNat < 128) :
    normalize raw wildcards = some name ↔ Spells wildcards raw.toList name := by
  have upper_of_trimmed {written : List Char} (trimmed : Text.trimList raw.toList = written)
      (ascii : ∀ c ∈ written, c.toNat < 128) : upper raw = written.map Char.toUpper := by
    rw [upper, trimmed]
    exact Text.upperCaseList_eq_map fun c mem => Text.upperCaseChar_of_lt (ascii c mem)
  rw [normalize_eq_some_iff_written]
  constructor
  · intro h
    obtain ⟨before, after, whole, blank, blank'⟩ := Text.exists_blanks raw.toList
    rw [whole] at ascii
    refine ⟨before, _, after, whole, fun c mem => ?_, ?_⟩
    · rcases List.mem_append.1 mem with mem | mem
      · exact Text.mem_blanks (ascii c (by simp [mem])) (blank c mem)
      · exact Text.mem_blanks (ascii c (by simp [mem])) (blank' c mem)
    · rwa [← upper_of_trimmed rfl fun c mem => ascii c (by simp [mem])]
  · rintro ⟨before, written, after, whole, blank, h⟩
    rw [whole] at ascii
    obtain ⟨ahead, behind⟩ := List.forall_mem_append.1 blank
    obtain ⟨some, letters⟩ := h.letters
    have solid (c : Char) (mem : c ∈ written) : Text.isBlank c = false := by
      refine Bool.eq_false_iff.2 fun blank => ?_
      have same := (Text.of_mem_blanks c (Text.mem_blanks (ascii c (by simp [mem])) blank)).2
      have letter := letters c (same ▸ List.mem_map_of_mem mem)
      exact Bool.false_ne_true ((NameLetter.solid letter).1.symm.trans blank)
    have trimmed : Text.trimList raw.toList = written := by
      rw [whole]
      exact Text.trimList_append (fun c mem => (Text.of_mem_blanks c (ahead c mem)).1)
        (fun c mem => (Text.of_mem_blanks c (behind c mem)).1) (by simpa using some) solid
    rwa [upper_of_trimmed trimmed fun c mem => ascii c (by simp [mem])]

end

def Plain (name : String) : Prop :=
  (∃ raw wildcards, normalize raw wildcards = some name) ∧ isPattern name = false

theorem plain_of_normalize {raw name : String} (valid : normalize raw false = some name) :
    Plain name :=
  ⟨⟨raw, false, valid⟩, (normalize_of_false valid false).2⟩

end Files

end Atari800XL
