import Atari800XL.Proofs.Files.Store
import Mathlib.Data.List.TakeWhile

namespace Atari800XL.Files

theorem mem_suffixes {rest text : List UInt8} : rest ∈ suffixes text ↔ rest <:+ text := by
  induction text with
  | nil => rw [suffixes, List.mem_singleton, List.suffix_nil]
  | cons b text ih => rw [suffixes, List.mem_cons, ih, List.suffix_cons_iff]

theorem glob_star (text : List UInt8) : glob [star] text = true := by
  unfold glob
  rw [if_pos (beq_self_eq_true star)]
  exact List.any_eq_true.2 ⟨[], mem_suffixes.2 List.nil_suffix, rfl⟩

theorem glob_iff_of_literal {pattern : List UInt8}
    (literal : ∀ b ∈ pattern, b ≠ star ∧ b ≠ question) {text : List UInt8} :
    glob pattern text = true ↔ text = pattern := by
  induction pattern generalizing text with
  | nil =>
    rw [glob]
    exact List.isEmpty_iff
  | cons p pattern ih =>
    obtain ⟨first, others⟩ := List.forall_mem_cons.1 literal
    unfold glob
    rw [if_neg (by simpa using first.1)]
    cases text with
    | nil => simp
    | cons c rest =>
      have here : (p == question) = false := beq_false_of_ne first.2
      dsimp only
      rw [here, Bool.false_or, Bool.and_eq_true, beq_iff_eq, ih others, List.cons.injEq,
        @eq_comm _ p]

theorem utf8_eq_flatMap (cs : List Char) : utf8 cs = cs.flatMap String.utf8EncodeChar := by
  have bytes : (String.ofList cs).toUTF8 = cs.utf8Encode := String.toByteArray_ofList
  rw [utf8, bytes, List.utf8Encode, List.data_toByteArray]

theorem utf8_injective {cs cs' : List Char} (same : utf8 cs = utf8 cs') : cs = cs' := by
  have bytes : (String.ofList cs).toUTF8 = (String.ofList cs').toUTF8 :=
    ByteArray.ext (Array.ext' same)
  exact String.ofList_injective (String.toByteArray_inj.1 bytes)

theorem isAlphanum_iff {c : Char} : c.isAlphanum = true ↔
    65 ≤ c.toNat ∧ c.toNat ≤ 90 ∨ 97 ≤ c.toNat ∧ c.toNat ≤ 122 ∨ 48 ≤ c.toNat ∧ c.toNat ≤ 57 := by
  unfold Char.isAlphanum Char.isAlpha Char.isUpper Char.isLower Char.isDigit
  simp only [Bool.or_eq_true, Bool.and_eq_true, decide_eq_true_eq, ge_iff_le,
    UInt32.le_iff_toNat_le]
  exact or_assoc

theorem range_of_isNameChar {c : Char} (plain : isNameChar false c = true) :
    48 ≤ c.toNat ∧ c.toNat ≤ 57 ∨ 65 ≤ c.toNat ∧ c.toNat ≤ 90 ∨ 97 ≤ c.toNat ∧ c.toNat ≤ 122 := by
  have alphanumeric : c.isAlphanum = true := by simpa [isNameChar] using plain
  have := isAlphanum_iff.1 alphanumeric
  omega

theorem utf8_of_ascii {cs : List Char} (ascii : ∀ c ∈ cs, c.toNat < 128) :
    utf8 cs = cs.map fun c => UInt8.ofNat c.toNat := by
  rw [utf8_eq_flatMap]
  induction cs with
  | nil => rfl
  | cons c cs ih =>
    obtain ⟨first, others⟩ := List.forall_mem_cons.1 ascii
    have single : c.utf8Size = 1 := Char.utf8Size_eq_one_iff.2 (UInt32.le_iff_toNat_le.2 (by
      show c.toNat ≤ 127
      omega))
    rw [List.flatMap_cons, String.utf8EncodeChar_eq_singleton single, ih others]
    rfl

theorem ascii_of_isNameChar {c : Char} (plain : isNameChar false c = true) : c.toNat < 128 := by
  have := range_of_isNameChar plain
  omega

theorem literal_utf8 {cs : List Char} (plain : ∀ c ∈ cs, isNameChar false c = true) :
    ∀ b ∈ utf8 cs, b ≠ star ∧ b ≠ question := by
  rw [utf8_of_ascii fun c mem => ascii_of_isNameChar (plain c mem)]
  intro b mem
  obtain ⟨c, inName, rfl⟩ := List.mem_map.1 mem
  have code := range_of_isNameChar (plain c inName)
  have small : c.toNat < 256 := by omega
  have byte : (UInt8.ofNat c.toNat).toNat = c.toNat := UInt8.toNat_ofNat_of_lt' small
  constructor <;> intro same <;> rw [same] at byte <;> simp [star, question] at byte <;> omega

section

variable {cs base extension : List Char}

theorem splitName_of_not_mem (undotted : '.' ∉ cs) : splitName cs = (cs, none) := by
  have behind : cs.dropWhile (· != '.') = [] :=
    List.dropWhile_eq_nil_iff.2 fun c mem => bne_iff_ne.2 (ne_of_mem_of_not_mem mem undotted)
  rw [splitName, Text.cutList, behind]

theorem cutList_append {c : Char} {before : List Char} (free : c ∉ before) (after : List Char) :
    Text.cutList c (before ++ c :: after) = some (before, after) := by
  have goes : ∀ x ∈ before, (x != c) = true :=
    fun x mem => bne_iff_ne.2 (ne_of_mem_of_not_mem mem free)
  rw [Text.cutList, List.dropWhile_append_of_pos goes, List.takeWhile_append_of_pos goes]
  simp

theorem splitName_append (undotted : '.' ∉ base) (extension : List Char) :
    splitName (base ++ '.' :: extension) = (base, some extension) := by
  rw [splitName, cutList_append undotted]

theorem splitName_cases (cs : List Char) :
    ('.' ∉ cs ∧ splitName cs = (cs, none)) ∨
      ∃ base extension, '.' ∉ base ∧ cs = base ++ '.' :: extension ∧
        splitName cs = (base, some extension) := by
  by_cases dotted : '.' ∈ cs
  · obtain ⟨base, extension, rfl, undotted⟩ := List.eq_append_cons_of_mem dotted
    exact .inr ⟨base, extension, undotted, rfl, splitName_append undotted extension⟩
  · exact .inl ⟨dotted, splitName_of_not_mem dotted⟩

theorem splitName_fst_eq_iff (undotted : '.' ∉ base) :
    (splitName cs).1 = base ↔ cs = base ∨ ∃ extension, cs = base ++ '.' :: extension := by
  constructor
  · rintro rfl
    rcases splitName_cases cs with ⟨-, parts⟩ | ⟨base, extension, -, whole, parts⟩
    · exact .inl (by rw [parts])
    · exact .inr ⟨extension, by rw [parts, ← whole]⟩
  · rintro (rfl | ⟨extension, rfl⟩)
    · rw [splitName_of_not_mem undotted]
    · rw [splitName_append undotted]

theorem splitName_eq_iff (undotted : '.' ∉ base) (some : extension ≠ []) :
    (splitName cs).1 = base ∧ (splitName cs).2.getD [] = extension ↔
      cs = base ++ '.' :: extension := by
  constructor
  · rintro ⟨rfl, rfl⟩
    rcases splitName_cases cs with ⟨-, parts⟩ | ⟨base, extension, -, whole, parts⟩
    · rw [parts] at some
      exact absurd rfl some
    · rw [parts]
      exact whole
  · rintro rfl
    rw [splitName_append undotted]
    exact ⟨rfl, rfl⟩

theorem not_mem_of_plain (plain : ∀ c ∈ cs, isNameChar false c = true) : '.' ∉ cs := by
  intro mem
  have dot := plain '.' mem
  revert dot
  decide

theorem glob_utf8_iff (plain : ∀ c ∈ base, isNameChar false c = true) :
    glob (utf8 base) (utf8 cs) = true ↔ cs = base :=
  (glob_iff_of_literal (literal_utf8 plain)).trans ⟨utf8_injective, congrArg utf8⟩

theorem wildcardMatch_of_base {name : String} (named : name.toList = base)
    (plain : ∀ c ∈ base, isNameChar false c = true) (other : String) :
    wildcardMatch name other = true ↔ (splitName other.toList).1 = base := by
  have any : utf8 ['*'] = [star] := by decide
  rw [wildcardMatch, named, splitName_of_not_mem (not_mem_of_plain plain)]
  simp only [Option.getD_none, any, glob_star, Bool.and_true, glob_utf8_iff plain]

theorem wildcardMatch_of_extension {name : String} (named : name.toList = base ++ '.' :: extension)
    (plain : ∀ c ∈ base ++ extension, isNameChar false c = true) (other : String) :
    wildcardMatch name other = true ↔
      (splitName other.toList).1 = base ∧ (splitName other.toList).2.getD [] = extension := by
  obtain ⟨first, second⟩ := List.forall_mem_append.1 plain
  rw [wildcardMatch, named, splitName_append (not_mem_of_plain first)]
  simp only [Option.getD_some, Bool.and_eq_true, glob_utf8_iff first, glob_utf8_iff second]

end

theorem mem_dropWhile {α : Type} {p : α → Bool} {xs : List α} {x : α} (stays : p x = false)
    (mem : x ∈ xs) : x ∈ xs.dropWhile p := by
  rw [← List.takeWhile_append_dropWhile (p := p) (l := xs), List.mem_append] at mem
  refine mem.resolve_left fun goes => ?_
  exact Bool.false_ne_true (stays.symm.trans (List.mem_takeWhile_imp goes))

theorem mem_trimList {cs : List Char} {c : Char} (solid : Text.isBlank c = false) (mem : c ∈ cs) :
    c ∈ Text.trimList cs := by
  rw [Text.trimList, List.mem_reverse]
  exact mem_dropWhile solid (List.mem_reverse.2 (mem_dropWhile solid mem))

theorem not_mem_of_normalize {raw name : String} (valid : normalize raw false = some name)
    {c : Char} (solid : Text.isBlank c = false) (same : Text.upperCaseChar c = [c])
    (other : isNameChar false c = false) (dotless : c ≠ '.') : c ∉ raw.toList := by
  intro mem
  have inUpper : c ∈ upper raw :=
    List.mem_flatMap.2 ⟨c, mem_trimList solid mem, by rw [same]; exact List.mem_singleton_self c⟩
  have strange : c ∉ (splitName (upper raw)).1 ++ (splitName (upper raw)).2.getD [] :=
    fun mem => Bool.false_ne_true (other.symm.trans ((normalize_eq_some_iff.1 valid).plain c mem))
  rcases splitName_cases (upper raw) with ⟨-, parts⟩ | ⟨base, extension, -, whole, parts⟩
  · rw [parts] at strange
    exact strange (List.mem_append_left _ inUpper)
  · rw [parts] at strange
    rw [whole, List.mem_append, List.mem_cons] at inUpper
    rcases inUpper with inBase | dot | inExtension
    · exact strange (List.mem_append_left _ inBase)
    · exact dotless dot
    · exact strange (List.mem_append_right _ inExtension)

theorem Parts.splitName_eq {name : String} {base extension : List Char}
    (parts : Parts false name base extension) :
    (splitName name.toList).1 = base ∧ (splitName name.toList).2.getD [] = extension := by
  have undotted : '.' ∉ base := not_mem_of_plain (List.forall_mem_append.1 parts.plain).1
  rw [parts.whole]
  split
  · rename_i empty
    rw [splitName_of_not_mem undotted, empty]
    exact ⟨rfl, rfl⟩
  · rw [splitName_append undotted]
    exact ⟨rfl, rfl⟩

def Bare (name : String) : Prop := '.' ∉ name.toList

instance (name : String) : Decidable (Bare name) :=
  inferInstanceAs (Decidable ('.' ∉ name.toList))

def Means (name other : String) : Prop :=
  other = name ∨ Bare name ∧ ∃ extension, other.toList = name.toList ++ '.' :: extension

theorem wildcardMatch_iff_means {raw name : String} (valid : normalize raw false = some name)
    (other : String) : wildcardMatch name other = true ↔ Means name other := by
  obtain ⟨-, -, -, plain, named⟩ := normalize_eq_some_iff.1 valid
  generalize (splitName (upper raw)).1 = base at plain named
  generalize (splitName (upper raw)).2.getD [] = extension at plain named
  have inBase := (List.forall_mem_append.1 plain).1
  have undotted : '.' ∉ base := not_mem_of_plain inBase
  rw [Means, Bare, ← String.toList_inj]
  split at named
  · rw [wildcardMatch_of_base named inBase, splitName_fst_eq_iff undotted, named,
      and_iff_right undotted]
  · rename_i some
    rw [wildcardMatch_of_extension named plain, splitName_eq_iff undotted some, named]
    have dotted : '.' ∈ base ++ '.' :: extension := by simp
    simp only [dotted, not_true_eq_false, false_and, or_false]

theorem means_iff_of_not_bare {name other : String} (whole : ¬Bare name) :
    Means name other ↔ other = name :=
  or_iff_left fun h => whole h.1

end Atari800XL.Files
