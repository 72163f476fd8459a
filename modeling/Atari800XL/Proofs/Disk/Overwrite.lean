import Atari800XL.Disk.Image
import Atari800XL.Proofs.Bytes

namespace Atari800XL.Disk

def zeros (n : Nat) : ByteArray := ⟨Array.replicate n 0⟩

theorem size_zeros (n : Nat) : (zeros n).size = n := Array.size_replicate

namespace Image

def overwrite (d : Image) (start : Nat) (data : ByteArray) : Image :=
  { d with
    bytes := d.bytes.extract 0 start ++ data
      ++ d.bytes.extract (start + data.size) d.bytes.size }

section

variable {d : Image} {start : Nat} {data : ByteArray} (fits : start + data.size ≤ d.bytes.size)

include fits

theorem size_extract_zero {n : Nat} (h : n ≤ start + data.size) :
    (d.bytes.extract 0 n).size = n := by
  rw [ByteArray.size_extract]
  omega

theorem size_replaced : (d.bytes.extract 0 start ++ data).size = start + data.size := by
  rw [ByteArray.size_append, size_extract_zero fits (Nat.le_add_right _ _)]

theorem size_overwrite : (d.overwrite start data).bytes.size = d.bytes.size := by
  rw [overwrite, ByteArray.size_append, size_replaced fits, ByteArray.size_extract]
  omega

theorem extract_overwrite :
    (d.overwrite start data).bytes.extract start (start + data.size) = data := by
  have before := size_extract_zero fits (Nat.le_add_right _ _)
  rw [overwrite, extract_append_of_le_left (Nat.le_of_eq (size_replaced fits).symm)]
  exact ByteArray.extract_append_eq_right before.symm (by rw [before])

theorem extract_overwrite_of_within {a b : Nat} (low : start ≤ a) (high : b ≤ start + data.size) :
    (d.overwrite start data).bytes.extract a b = data.extract (a - start) (b - start) := by
  have before := size_extract_zero fits (Nat.le_add_right _ _)
  have replaced := size_replaced fits
  rw [overwrite, extract_append_of_le_left (Nat.le_trans high (Nat.le_of_eq replaced.symm)),
    extract_append_of_le_right (Nat.le_trans (Nat.le_of_eq before) low), before]

theorem extract_overwrite_of_apart {a b : Nat} (apart : b ≤ start ∨ start + data.size ≤ a) :
    (d.overwrite start data).bytes.extract a b = d.bytes.extract a b := by
  have before := size_extract_zero fits (Nat.le_add_right _ _)
  have replaced := size_replaced fits
  have same := size_extract_zero fits (Nat.le_refl _)
  -- Both images end in the same bytes, behind a beginning of the same size.
  have whole : d.bytes = d.bytes.extract 0 (start + data.size)
      ++ d.bytes.extract (start + data.size) d.bytes.size := by
    rw [← ByteArray.extract_eq_extract_append_extract _ (Nat.zero_le _) fits,
      ByteArray.extract_zero_size]
  rcases apart with left | right
  · rw [overwrite, ByteArray.append_assoc,
      extract_append_of_le_left (Nat.le_trans left (Nat.le_of_eq before.symm)),
      ByteArray.extract_extract]
    congr 1 <;> omega
  · calc
      (d.overwrite start data).bytes.extract a b =
          (d.bytes.extract (start + data.size) d.bytes.size).extract (a - (start + data.size))
            (b - (start + data.size)) := by
        rw [overwrite, extract_append_of_le_right (Nat.le_trans (Nat.le_of_eq replaced) right),
          replaced]
      _ = d.bytes.extract a b := by
        rw [← same, ← extract_append_of_le_right (Nat.le_trans (Nat.le_of_eq same) right), same,
          ← whole]

end

section

variable {d new : Image} {start length : Nat} {data : ByteArray} {sector other : UInt16}

theorem headerSize_le_place (d : Image) (sector : UInt16) : headerSize ≤ (d.place sector).1 := by
  unfold place
  dsimp only
  split <;> simp only [bodyStart] <;> omega

theorem place_before {d : Image} (pos : sector ≠ 0) (lt : sector.toNat < other.toNat) :
    (d.place sector).1 + (d.place sector).2 ≤ (d.place other).1 := by
  have first : 0 < sector.toNat := by
    have ne : sector.toNat ≠ 0 := fun h => pos (UInt16.toNat_inj.1 h)
    omega
  unfold place
  dsimp only
  split
  · split
    · simp only [headerSize, bootSectors, bootSectorSize] at *
      omega
    · simp only [headerSize, bootSectors, bootSectorSize, bodyStart] at *
      omega
  · rename_i body
    rw [if_neg (by omega)]
    have step : (sector.toNat - bootSectors - 1 + 1) * d.sectorSize ≤
        (other.toNat - bootSectors - 1) * d.sectorSize :=
      Nat.mul_le_mul_right _ (by omega)
    rw [Nat.add_mul, Nat.one_mul] at step
    dsimp only
    omega

theorem sector?_eq_some_iff : d.sector? sector = some (start, length) ↔
    sector ≠ 0 ∧ d.place sector = (start, length) ∧ start + length ≤ d.bytes.size := by
  unfold sector?
  by_cases zero : sector = 0
  · simp [zero]
  · simp only [if_neg zero]
    generalize d.place sector = place
    obtain ⟨a, b⟩ := place
    dsimp only
    split
    next fits =>
      simp only [Option.some.injEq, Prod.mk.injEq, ne_eq, zero, not_false_eq_true, true_and]
      constructor
      · rintro ⟨rfl, rfl⟩
        exact ⟨⟨rfl, rfl⟩, fits⟩
      · exact And.left
    next small =>
      simp only [reduceCtorEq, Prod.mk.injEq, false_iff, not_and]
      rintro - ⟨rfl, rfl⟩
      exact small

theorem apart_of_ne {a n b m : Nat} (h : d.sector? sector = some (a, n))
    (h' : d.sector? other = some (b, m)) (ne : other ≠ sector) : b + m ≤ a ∨ a + n ≤ b := by
  obtain ⟨pos, place, -⟩ := sector?_eq_some_iff.1 h
  obtain ⟨pos', place', -⟩ := sector?_eq_some_iff.1 h'
  rcases Nat.lt_or_gt_of_ne (fun same => ne (UInt16.toNat_inj.1 same)) with before | behind
  · left
    simpa only [place, place'] using place_before (d := d) pos' before
  · right
    simpa only [place, place'] using place_before (d := d) pos behind

theorem sector?_overwrite (fits : start + data.size ≤ d.bytes.size) (sector : UInt16) :
    (d.overwrite start data).sector? sector = d.sector? sector := by
  rw [sector?, size_overwrite fits]
  rfl

theorem readSector_overwrite (h : d.sector? sector = some (start, data.size)) :
    (d.overwrite start data).readSector sector = some data := by
  have fits := (sector?_eq_some_iff.1 h).2.2
  rw [readSector, sector?_overwrite fits, h]
  exact congrArg some (extract_overwrite fits)

theorem readSector_overwrite_of_ne (h : d.sector? sector = some (start, data.size))
    (ne : other ≠ sector) : (d.overwrite start data).readSector other = d.readSector other := by
  have fits := (sector?_eq_some_iff.1 h).2.2
  rw [readSector, sector?_overwrite fits, readSector]
  cases h' : d.sector? other with
  | none => rfl
  | some place =>
    obtain ⟨b, m⟩ := place
    exact congrArg some (extract_overwrite_of_apart fits (apart_of_ne h h' ne))

theorem header_overwrite (h : d.sector? sector = some (start, data.size)) :
    (d.overwrite start data).bytes.extract 0 headerSize = d.bytes.extract 0 headerSize := by
  obtain ⟨-, place, fits⟩ := sector?_eq_some_iff.1 h
  have behind := d.headerSize_le_place sector
  rw [place] at behind
  exact extract_overwrite_of_apart fits (.inl behind)

theorem writeSector_eq_overwrite (writable : d.writable = true)
    (h : d.sector? sector = some (start, data.size)) :
    d.writeSector sector data = some (d.overwrite start data) := by
  have all : data.extract 0 data.size = data := ByteArray.extract_zero_size
  unfold writeSector
  rw [writable, h]
  simp only [Bool.not_true, Bool.false_eq_true, if_false, if_true]
  rw [ByteArray.copySlice_eq_append, overwrite, Nat.zero_add, all, Nat.sub_zero,
    ByteArray.size_data, ByteArray.size_data, Nat.min_self, writable]

theorem eq_overwrite_of_writeSector (h : d.writeSector sector data = some new) :
    d.writable = true ∧ ∃ start, d.sector? sector = some (start, data.size) ∧
      new = d.overwrite start data := by
  have written := h
  unfold writeSector at h
  split at h
  · cases h
  · rename_i writable
    have writable : d.writable = true := by simpa using writable
    split at h
    · cases h
    · rename_i start length place
      split at h
      · rename_i same
        rw [← same] at place
        rw [writeSector_eq_overwrite writable place] at written
        exact ⟨writable, start, place, (Option.some.inj written).symm⟩
      · cases h

theorem format_eq_overwrite (writable : d.writable = true) :
    d.format = some (d.overwrite headerSize (zeros (d.bytes.size - headerSize))) := by
  have nothing : d.bytes.extract (headerSize + (d.bytes.size - headerSize)) d.bytes.size =
      ByteArray.empty := ByteArray.extract_eq_empty_iff.2 (by omega)
  rw [format, if_pos writable, overwrite, size_zeros, nothing, ByteArray.append_empty]
  rfl

theorem eq_overwrite_of_format (h : d.format = some new) :
    d.writable = true ∧ new = d.overwrite headerSize (zeros (d.bytes.size - headerSize)) := by
  have formatted := h
  unfold format at h
  split at h
  · rename_i writable
    rw [format_eq_overwrite writable] at formatted
    exact ⟨writable, (Option.some.inj formatted).symm⟩
  · cases h

end

end Image

end Atari800XL.Disk
