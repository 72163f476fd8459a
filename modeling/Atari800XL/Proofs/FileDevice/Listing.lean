import Atari800XL.FileDevice.Directory
import Atari800XL.Proofs.FileDevice.Reading
import Atari800XL.Proofs.Files.Matching
import Mathlib.Data.List.Forall2

namespace Atari800XL.FileDevice.Directory

open Files

def text (bytes : List UInt8) : List Char := bytes.map fun b => Char.ofNat b.toNat

section

variable {cs : List Char} (ascii : ∀ c ∈ cs, c.toNat < 128)
include ascii

theorem length_utf8 : (utf8 cs).length = cs.length := by
  rw [utf8_of_ascii ascii, List.length_map]

theorem text_utf8 : text (utf8 cs) = cs := by
  rw [utf8_of_ascii ascii, text, List.map_map]
  refine (List.map_congr_left fun c mem => ?_).trans (List.map_id cs)
  have small : c.toNat < 256 := (ascii c mem).trans (by decide)
  show Char.ofNat (UInt8.ofNat c.toNat).toNat = c
  rw [UInt8.toNat_ofNat_of_lt' small, Char.ofNat_toNat]

theorem eol_not_mem_utf8 : eol ∉ utf8 cs := by
  rw [utf8_of_ascii ascii]
  intro mem
  obtain ⟨c, inText, same⟩ := List.mem_map.1 mem
  have code := congrArg UInt8.toNat same
  have small := ascii c inText
  rw [UInt8.toNat_ofNat_of_lt' (small.trans (by decide))] at code
  rw [code] at small
  revert small
  decide

end

def column (cs : List Char) (start width : Nat) : List Char := (cs.drop start).take width

theorem column_eq {cs field : List Char} (before behind : List Char)
    (whole : cs = before ++ (field ++ behind)) {start width : Nat} (here : before.length = start)
    (wide : field.length = width) :
    column cs start width = field := by
  rw [column, whole, ← here, List.drop_left, ← wide, List.take_left]

def unpadded (cs : List Char) : List Char := cs.takeWhile (· != ' ')

theorem length_padRight {width : Nat} {cs : List Char} (fits : cs.length ≤ width) :
    (padRight width cs).length = width := by
  rw [padRight, List.length_append, List.length_replicate]
  omega

theorem unpadded_padRight {cs : List Char} (solid : ' ' ∉ cs) (width : Nat) :
    unpadded (padRight width cs) = cs := by
  have goes : ∀ c ∈ cs, (c != ' ') = true :=
    fun c mem => bne_iff_ne.2 (ne_of_mem_of_not_mem mem solid)
  rw [unpadded, padRight, List.takeWhile_append_of_pos goes]
  cases width - cs.length with
  | zero => exact List.append_nil cs
  | succ n =>
    rw [List.replicate_succ, List.takeWhile_cons_of_neg (by decide)]
    exact List.append_nil cs

theorem mem_padRight {width : Nat} {cs : List Char} {c : Char} (mem : c ∈ padRight width cs) :
    c ∈ cs ∨ c = ' ' :=
  (List.mem_append.1 mem).imp_right List.eq_of_mem_replicate

def number (cs : List Char) : Nat := Nat.ofDigitChars 10 cs 0

theorem toList_toString (n : Nat) : (toString n).toList = Nat.toDigits 10 n := Nat.toList_repr

theorem number_threeDigits (n : Nat) : number (threeDigits n) = n := by
  have zeros (k : Nat) : Nat.ofDigitChars 10 (List.replicate k '0') 0 = 0 := by
    induction k with
    | zero => rfl
    | succ k ih => exact ih
  rw [number, threeDigits, toList_toString, Nat.ofDigitChars_append, zeros,
    Nat.ofDigitChars_toDigits (by decide) (by decide)]

theorem length_threeDigits {n : Nat} (small : n ≤ 999) : (threeDigits n).length = 3 := by
  have short : (Nat.toDigits 10 n).length ≤ 3 :=
    (Nat.length_toDigits_le_iff (by decide) (by decide)).2 (Nat.lt_succ_of_le small)
  rw [threeDigits, toList_toString, List.length_append, List.length_replicate]
  omega

theorem isDigit_of_mem_threeDigits {n : Nat} {c : Char} (mem : c ∈ threeDigits n) :
    c.isDigit = true := by
  rw [threeDigits, toList_toString] at mem
  rcases List.mem_append.1 mem with zero | digit
  · rw [List.eq_of_mem_replicate zero]
    rfl
  · exact Nat.isDigit_of_mem_toDigits (by decide) (by decide) digit

theorem ascii_of_isDigit {c : Char} (digit : c.isDigit = true) : c.toNat < 128 := by
  have plain : isNameChar false c = true := by
    rw [isNameChar, Char.isAlphanum, digit, Bool.or_true, Bool.true_or]
  exact ascii_of_isNameChar plain

structure Row where
  locked : Bool
  base : List Char
  extension : List Char
  sectors : Nat
  deriving DecidableEq, Repr, Inhabited

namespace Row

def ofBytes (bytes : List UInt8) : Row where
  locked := column (text bytes) 0 1 == ['*']
  base := unpadded (column (text bytes) 2 8)
  extension := unpadded (column (text bytes) 11 3)
  sectors := number (column (text bytes) 15 3)

def name (r : Row) : String :=
  String.ofList (if r.extension = [] then r.base else r.base ++ '.' :: r.extension)

end Row

def rowBytes (f : File) : List UInt8 := utf8 (line f.entry)

theorem sectors_le (size : Nat) : sectors size ≤ 999 := Nat.min_le_right _ _

section

variable {f : File} {base extension : List Char} (parts : Parts false f.name base extension)
include parts

theorem line_eq :
    line f.entry =
      [if f.locked then '*' else ' '] ++ (' ' :: (padRight 8 base ++
        (' ' :: (padRight 3 extension ++ (' ' :: threeDigits (sectors f.data.size)))))) := by
  obtain ⟨first, second⟩ := parts.splitName_eq
  have names : f.entry.name = f.name := rfl
  rw [line, names]
  generalize splitName f.name.toList = split at first second
  obtain ⟨base', extension'⟩ := split
  dsimp only at first second
  rw [← first, ← second]
  simp only [File.entry, List.append_assoc, List.cons_append]
  rfl

theorem length_line : (line f.entry).length = 18 := by
  rw [line_eq parts]
  simp only [List.length_append, List.length_cons, List.length_nil, length_padRight parts.fits,
    length_padRight parts.fits_extension, length_threeDigits (sectors_le f.data.size)]

theorem ascii_line : ∀ c ∈ line f.entry, c.toNat < 128 := by
  have blank : ' '.toNat < 128 := by decide
  have mark : (if f.locked then '*' else ' ').toNat < 128 := by split <;> decide
  have digits : ∀ c ∈ threeDigits (sectors f.data.size), c.toNat < 128 :=
    fun c mem => ascii_of_isDigit (isDigit_of_mem_threeDigits mem)
  obtain ⟨inBase, inExtension⟩ := List.forall_mem_append.1 parts.plain
  have padded {cs : List Char} (plain : ∀ c ∈ cs, isNameChar false c = true) (width : Nat) :
      ∀ c ∈ padRight width cs, c.toNat < 128 := fun c mem =>
    (mem_padRight mem).elim (fun mem => ascii_of_isNameChar (plain c mem)) fun same =>
      same ▸ blank
  rw [line_eq parts]
  simp only [List.forall_mem_append, List.forall_mem_cons]
  exact ⟨⟨mark, nofun⟩, blank, padded inBase 8, blank, padded inExtension 3, blank, digits⟩

theorem ofBytes_rowBytes :
    Row.ofBytes (rowBytes f) =
      { locked := f.locked, base, extension, sectors := sectors f.data.size } := by
  have solid {cs : List Char} (plain : ∀ c ∈ cs, isNameChar false c = true) : ' ' ∉ cs :=
    fun mem => absurd (plain ' ' mem) (by decide)
  obtain ⟨inBase, inExtension⟩ := List.forall_mem_append.1 parts.plain
  have wide := length_padRight parts.fits
  have wide' := length_padRight parts.fits_extension
  have whole := line_eq parts
  let mark := if f.locked then '*' else ' '
  let digits := threeDigits (sectors f.data.size)
  have marked : column (line f.entry) 0 1 = [mark] := column_eq [] _ whole rfl rfl
  have name : column (line f.entry) 2 8 = padRight 8 base := column_eq [mark, ' '] _ whole rfl wide
  have after : column (line f.entry) 11 3 = padRight 3 extension := by
    refine column_eq ([mark, ' '] ++ padRight 8 base ++ [' ']) (' ' :: digits) ?_ ?_ wide'
    · rw [whole, List.append_assoc, List.append_assoc]
      rfl
    · simp [wide]
  have size : column (line f.entry) 15 3 = digits := by
    refine column_eq ([mark, ' '] ++ padRight 8 base ++ (' ' :: padRight 3 extension ++ [' '])) []
      ?_ ?_ (length_threeDigits (sectors_le _))
    · rw [whole, List.append_assoc, List.append_assoc, List.append_assoc, List.append_nil]
      rfl
    · simp [wide, wide']
  have star : ([mark] == ['*']) = f.locked := by
    simp only [mark]
    cases f.locked <;> rfl
  rw [Row.ofBytes, rowBytes, text_utf8 (ascii_line parts), marked, name, after, size,
    unpadded_padRight (solid inBase), unpadded_padRight (solid inExtension), number_threeDigits,
    star]

end

/-- A line is of one length and tells of its file what there is to tell. -/
structure Describes (bytes : List UInt8) (f : File) : Prop where
  length : bytes.length = 18
  free : eol ∉ bytes
  parts : Parts false f.name (Row.ofBytes bytes).base (Row.ofBytes bytes).extension
  name : (Row.ofBytes bytes).name = f.name
  locked : (Row.ofBytes bytes).locked = f.locked
  sectors : (Row.ofBytes bytes).sectors = min ((f.data.size + 124) / 125) 999

theorem describes_rowBytes {f : File} {base extension : List Char}
    (parts : Parts false f.name base extension) : Describes (rowBytes f) f := by
  have row := ofBytes_rowBytes parts
  constructor
  · exact (length_utf8 (ascii_line parts)).trans (length_line parts)
  · exact eol_not_mem_utf8 (ascii_line parts)
  · rw [row]
    exact parts
  · rw [row, Row.name, ← parts.whole, String.ofList_toList]
  · rw [row]
  · rw [row]
    rfl

def toldSectors (lines : List (List UInt8)) : Nat :=
  lines.foldr (fun bytes n => (Row.ofBytes bytes).sectors + n) 0

structure TellsFree (bytes : List UInt8) (sectors : Nat) : Prop where
  length : bytes.length = 16
  free : eol ∉ bytes
  digits : ∀ c ∈ column (text bytes) 0 3, c.isDigit = true
  number : number (column (text bytes) 0 3) = sectors
  words : column (text bytes) 3 13 = " FREE SECTORS".toList

def freeBytes (files : List File) : List UInt8 := utf8 (freeLine (files.map File.entry))

theorem foldl_sectors {lines : List (List UInt8)} {files : List File}
    (described : List.Forall₂ Describes lines files) (n : Nat) :
    (files.map File.entry).foldl (fun n e => n + sectors e.size) n = n + toldSectors lines := by
  induction described generalizing n with
  | nil => rfl
  | @cons bytes f lines files first _ ih =>
    have told : (Row.ofBytes bytes).sectors = sectors f.data.size := first.sectors
    rw [List.map_cons, List.foldl_cons, ih, toldSectors, toldSectors, List.foldr_cons, told,
      ← Nat.add_assoc]
    rfl

theorem ascii_words : ∀ c ∈ " FREE SECTORS".toList, c.toNat < 128 := by
  have all : " FREE SECTORS".toList.all (fun c => c.toNat < 128) = true := by decide
  exact fun c mem => of_decide_eq_true (List.all_eq_true.1 all c mem)

theorem tellsFree_freeBytes {lines : List (List UInt8)} {files : List File}
    (described : List.Forall₂ Describes lines files) :
    TellsFree (freeBytes files) (999 - toldSectors lines) := by
  let words := " FREE SECTORS".toList
  let digits := threeDigits (999 - toldSectors lines)
  have whole : freeLine (files.map File.entry) = digits ++ words := by
    rw [freeLine, foldl_sectors described, Nat.zero_add]
    rfl
  have three : digits.length = 3 := length_threeDigits (Nat.sub_le _ _)
  have digit : ∀ c ∈ digits, c.isDigit = true := fun c mem => isDigit_of_mem_threeDigits mem
  have ascii : ∀ c ∈ freeLine (files.map File.entry), c.toNat < 128 := by
    rw [whole, List.forall_mem_append]
    exact ⟨fun c mem => ascii_of_isDigit (digit c mem), ascii_words⟩
  have first : column (freeLine (files.map File.entry)) 0 3 = digits :=
    column_eq [] words whole rfl three
  have second : column (freeLine (files.map File.entry)) 3 13 = words :=
    column_eq digits [] (by rw [whole, List.append_nil]) three rfl
  constructor
  · rw [freeBytes, length_utf8 ascii, whole, List.length_append, three]
    rfl
  · exact eol_not_mem_utf8 ascii
  · rw [freeBytes, text_utf8 ascii, first]
    exact digit
  · rw [freeBytes, text_utf8 ascii, first]
    exact number_threeDigits _
  · rw [freeBytes, text_utf8 ascii]
    exact second

theorem data_listing (files : List File) :
    (listing (files.map File.entry)).data.toList =
      (files.map rowBytes ++ [freeBytes files]).flatMap terminated := by
  rw [listing, List.flatMap_append, List.flatMap_map, List.flatMap_map, List.flatMap_singleton]
  rfl

end Atari800XL.FileDevice.Directory
