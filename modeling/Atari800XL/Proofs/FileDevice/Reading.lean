import Atari800XL.FileDevice.Channel
import Mathlib.Data.List.TakeWhile

namespace Atari800XL.FileDevice

namespace Channel

def rest (c : Channel) : List UInt8 := c.content.data.toList.drop c.position

theorem length_rest (c : Channel) : c.rest.length = c.remaining := List.length_drop

theorem extract_eq (c : Channel) (n : Nat) :
    c.content.extract c.position (c.position + n) = (c.rest.take n).toByteArray := by
  apply ByteArray.ext
  apply Array.ext'
  rw [ByteArray.data_extract, Array.toList_extract, List.extract_eq_take_drop,
    List.data_toByteArray, Nat.add_sub_cancel_left]
  rfl

theorem nextByte_eq (c : Channel) :
    c.nextByte = c.rest.head?.map fun byte => (byte, { c with position := c.position + 1 }) := by
  unfold nextByte rest
  split
  · rename_i inside
    rw [List.drop_eq_getElem_cons (by exact inside)]
    rfl
  · rename_i outside
    rw [List.drop_eq_nil_of_le (Nat.le_of_not_lt outside)]
    rfl

theorem getBytes_eq (c : Channel) (count : Nat) :
    c.getBytes count =
      ({ bytes := (c.rest.take count).toByteArray
         status := if count ≤ c.rest.length then .success else .endOfFile },
        { c with position := c.position + min count c.rest.length }) := by
  have short : min count c.rest.length < count ↔ ¬count ≤ c.rest.length := by omega
  rw [getBytes, ← length_rest]
  simp only [extract_eq, ← List.take_eq_take_min, short, ite_not]

end Channel

def terminated (record : List UInt8) : List UInt8 := record ++ [eol]

theorem length_terminated (record : List UInt8) :
    (terminated record).length = record.length + 1 :=
  List.length_append

/-- The record that comes next: all up to the first end of a record, or all that is left with an end
of its own. -/
def nextRecord (rest : List UInt8) : List UInt8 := terminated (rest.takeWhile (· != eol))

def recordPart (rest : List UInt8) (max : Nat) : List UInt8 :=
  if rest = [] then [] else (nextRecord rest).take max

/-- How a call for the next record ends. A last record without an end is taken for none if the
buffer has no room at all, and for a whole one if the buffer has no room for the end only. -/
def recordStatus (rest : List UInt8) (max : Nat) : Status :=
  if eol ∈ rest then
    if (nextRecord rest).length ≤ max then .success else .truncated
  else if min rest.length max = 0 then .endOfFile
  else if rest.length ≤ max then .success
  else .truncated

section

variable {rest record behind : List UInt8} {max : Nat}

theorem takeWhile_of_free (free : eol ∉ record) (behind : List UInt8) :
    (record ++ behind).takeWhile (· != eol) = record ++ behind.takeWhile (· != eol) :=
  List.takeWhile_append_of_pos fun _ mem => bne_iff_ne.2 (ne_of_mem_of_not_mem mem free)

theorem nextRecord_of_free (free : eol ∉ rest) : nextRecord rest = terminated rest := by
  have all := takeWhile_of_free free []
  rw [List.append_nil, List.takeWhile_nil, List.append_nil] at all
  rw [nextRecord, all]

theorem nextRecord_append (free : eol ∉ record) (behind : List UInt8) :
    nextRecord (record ++ eol :: behind) = terminated record := by
  rw [nextRecord, takeWhile_of_free free, List.takeWhile_cons_of_neg (by decide), List.append_nil]

@[simp] theorem nextRecord_nil : nextRecord [] = [eol] := rfl

@[simp] theorem nextRecord_eol (rest : List UInt8) : nextRecord (eol :: rest) = [eol] := by
  rw [nextRecord, List.takeWhile_cons_of_neg (by decide)]
  rfl

theorem nextRecord_cons {byte : UInt8} (goes : byte ≠ eol) (rest : List UInt8) :
    nextRecord (byte :: rest) = byte :: nextRecord rest := by
  rw [nextRecord, List.takeWhile_cons, if_pos (bne_iff_ne.2 goes)]
  rfl

theorem recordPart_of_lt (free : eol ∉ rest) (some : rest ≠ []) (fits : rest.length < max) :
    recordPart rest max = terminated rest := by
  rw [recordPart, if_neg some, nextRecord_of_free free]
  exact List.take_of_length_le ((length_terminated rest).trans_le fits)

theorem recordPart_of_le (free : eol ∉ rest) (full : max ≤ rest.length) :
    recordPart rest max = rest.take max := by
  rw [recordPart]
  split
  · rw [‹rest = []›, List.take_nil]
  · rw [nextRecord_of_free free, terminated, List.take_append_of_le_length full]

theorem length_recordPart_le (rest : List UInt8) (max : Nat) :
    (recordPart rest max).length ≤ max := by
  rw [recordPart]
  split
  · exact Nat.zero_le _
  · exact List.length_take_le _ _

theorem recordStatus_eq (some : rest ≠ []) :
    recordStatus rest max =
      if eol ∉ rest ∧ max = 0 then .endOfFile
      else if eol ∉ rest ∧ max = rest.length then .success
      else if (nextRecord rest).length ≤ max then .success
      else .truncated := by
  rw [recordStatus]
  by_cases ended : eol ∈ rest
  · simp only [ended, not_true_eq_false, false_and, if_false, if_true]
  · have positive : 0 < rest.length := List.length_pos_iff.2 some
    rw [if_neg ended, nextRecord_of_free ended, length_terminated]
    simp only [ended, not_false_eq_true, true_and]
    split_ifs <;> first | rfl | omega

end

namespace Channel

theorem findEol_eq (content : ByteArray) (i : Nat) :
    findEol content i = (content.data.toList.drop i).findIdx? (· == eol) := by
  fun_induction findEol content i with
  | case1 i inside ends =>
    rw [List.drop_eq_getElem_cons (by exact inside), List.findIdx?_cons]
    exact (if_pos ends).symm
  | case2 i inside goes ih =>
    rw [List.drop_eq_getElem_cons (by exact inside), List.findIdx?_cons, ih]
    exact (if_neg goes).symm
  | case3 i outside =>
    rw [List.drop_eq_nil_of_le (Nat.le_of_not_lt outside), List.findIdx?_nil]

theorem findIdx?_of_free {bytes : List UInt8} (free : eol ∉ bytes) :
    bytes.findIdx? (· == eol) = none :=
  List.findIdx?_eq_none_iff.2 fun _ mem => beq_false_of_ne (ne_of_mem_of_not_mem mem free)

variable (c : Channel) {record behind : List UInt8}

theorem getRecord_of_ended (free : eol ∉ record) (ended : c.rest = record ++ eol :: behind)
    (max : Nat) :
    c.getRecord max =
      ({ bytes := ((terminated record).take max).toByteArray
         status := if (terminated record).length ≤ max then .success else .truncated },
        { c with position := c.position + (terminated record).length }) := by
  have found : findEol c.content c.position = some record.length := by
    rw [findEol_eq]
    change c.rest.findIdx? _ = _
    rw [ended, List.findIdx?_append, findIdx?_of_free free, List.findIdx?_cons, beq_self_eq_true]
    exact congrArg some (Nat.zero_add _)
  have whole : c.rest = terminated record ++ behind := by
    rw [ended, terminated, List.append_assoc]
    rfl
  have part : c.rest.take (min (terminated record).length max) =
      (terminated record).take max := by
    rw [Nat.min_comm, ← List.take_take, whole, List.take_left]
  rw [getRecord, found]
  simp only [extract_eq, ← length_terminated, part]

theorem getRecord_of_free (free : eol ∉ c.rest) (max : Nat) :
    c.getRecord max =
      ({ bytes := (recordPart c.rest max).toByteArray, status := recordStatus c.rest max },
        { c with position := c.position + c.rest.length }) := by
  have found : findEol c.content c.position = none := by
    rw [findEol_eq]
    exact findIdx?_of_free free
  rw [getRecord, found]
  simp only [extract_eq, ← length_rest]
  refine Prod.ext ?_ rfl
  rw [recordStatus, if_neg free]
  by_cases nothing : min c.rest.length max = 0
  · have part : recordPart c.rest max = [] := by
      rcases Nat.min_eq_zero_iff.1 nothing with empty | none
      · rw [recordPart, if_pos (List.eq_nil_of_length_eq_zero empty)]
      · rw [none, recordPart_of_le free (Nat.zero_le _), List.take_zero]
    rw [if_pos nothing, if_pos nothing, part]
    rfl
  rw [if_neg nothing, if_neg nothing]
  rcases Nat.lt_or_ge c.rest.length max with fits | full
  · have some : c.rest ≠ [] := by
      rintro empty
      exact nothing (by rw [empty, List.length_nil, Nat.zero_min])
    rw [if_pos fits, if_pos (Nat.le_of_lt fits), recordPart_of_lt free some fits, List.take_length,
      terminated, List.toByteArray_append, ByteArray.append_toByteArray_singleton]
  · rw [if_neg (Nat.not_lt.2 full), recordPart_of_le free full]
    refine congrArg (Delivery.mk _) (if_congr ?_ rfl rfl)
    exact ⟨Nat.le_of_eq, fun le => Nat.le_antisymm le full⟩

theorem getRecord_eq (max : Nat) :
    c.getRecord max =
      ({ bytes := (recordPart c.rest max).toByteArray, status := recordStatus c.rest max },
        { c with position := c.position + min (nextRecord c.rest).length c.rest.length }) := by
  by_cases ended : eol ∈ c.rest
  · obtain ⟨record, behind, whole, free⟩ := List.eq_append_cons_of_mem ended
    have some : c.rest ≠ [] := List.ne_nil_of_mem ended
    have next : nextRecord c.rest = terminated record := by rw [whole, nextRecord_append free]
    have within : (terminated record).length ≤ c.rest.length := by
      rw [whole, length_terminated, List.length_append, List.length_cons]
      omega
    rw [c.getRecord_of_ended free whole, recordPart, if_neg some, recordStatus, if_pos ended, next,
      Nat.min_eq_left within]
  · have within : c.rest.length ≤ (nextRecord c.rest).length := by
      rw [nextRecord_of_free ended, length_terminated]
      exact Nat.le_succ _
    rw [c.getRecord_of_free ended, Nat.min_eq_right within]

end Channel

end Atari800XL.FileDevice
