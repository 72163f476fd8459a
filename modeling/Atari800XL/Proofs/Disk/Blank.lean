import Mathlib.Algebra.Group.Nat.Defs
import Atari800XL.Proofs.Disk.Sectors

namespace Atari800XL.Disk.Image

variable {name : String} {sectors size payload : Nat} {d : Image}

def blankBytes (sectors size : Nat) : ByteArray :=
  (header (payloadSize sectors size) size).toByteArray ++ zeros (payloadSize sectors size)

theorem blank_eq_parse (name : String) (sectors size : Nat) :
    blank name sectors size = parse name (blankBytes sectors size) := by
  have bytes : (⟨(header (payloadSize sectors size) size).toArray ++
      Array.replicate (payloadSize sectors size) 0⟩ : ByteArray) = blankBytes sectors size :=
    ByteArray.ext (by rw [blankBytes, ByteArray.data_append, List.data_toByteArray]; rfl)
  rw [blank, ← bytes]

theorem size_header (payload size : Nat) :
    (header payload size).toByteArray.size = headerSize := List.size_toByteArray

theorem byteAt_header (payload size : Nat) {i : Nat} (h : i < headerSize) :
    byteAt (header payload size).toByteArray i = (header payload size).get ⟨i, h⟩ := by
  rw [byteAt, dif_pos (Nat.lt_of_lt_of_eq h (size_header payload size).symm)]
  simp only [ByteArray.getElem_eq_getElem_data, List.data_toByteArray, List.getElem_toArray,
    List.get_eq_getElem]

theorem size_blankBytes (sectors size : Nat) :
    (blankBytes sectors size).size = headerSize + payloadSize sectors size := by
  rw [blankBytes, ByteArray.size_append, size_header, size_zeros]

theorem byteAt_append {x y : ByteArray} {i : Nat} (h : i < x.size) :
    byteAt (x ++ y) i = byteAt x i := by
  have inside : i < (x ++ y).size := by
    rw [ByteArray.size_append]
    omega
  rw [byteAt, dif_pos inside, byteAt, dif_pos h, ByteArray.getElem_append_left h]

theorem byteAt_blankBytes (sectors size : Nat) {i : Nat} (h : i < headerSize) :
    byteAt (blankBytes sectors size) i = (header (payloadSize sectors size) size).get ⟨i, h⟩ := by
  rw [blankBytes, byteAt_append (Nat.lt_of_lt_of_eq h (size_header _ _).symm), byteAt_header _ _ h]

theorem toNat_bytes2 (n : Nat) :
    (UInt8.ofNat n).toNat + 256 * (UInt8.ofNat (n / 256)).toNat = n % 2 ^ 16 := by
  rw [UInt8.toNat_ofNat', UInt8.toNat_ofNat']
  omega

theorem toNat_bytes3 (n : Nat) :
    (UInt8.ofNat n).toNat + 256 * (UInt8.ofNat (n / 256)).toNat +
      65536 * (UInt8.ofNat (n / 65536)).toNat = n % 2 ^ 24 := by
  rw [UInt8.toNat_ofNat', UInt8.toNat_ofNat', UInt8.toNat_ofNat']
  omega

theorem parse_blankBytes (name : String) (sectors size : Nat) :
    parse name (blankBytes sectors size) =
      match Density.ofSectorSize? (size % 2 ^ 16) with
      | none => .error (.diskImage name (.sectorSize (size % 2 ^ 16)))
      | some density =>
        .ok { name, bytes := blankBytes sectors size, density, writable := true } := by
  have whole : ¬(blankBytes sectors size).size < headerSize := by
    rw [size_blankBytes]
    omega
  have field {i : Nat} (h : i < headerSize) := byteAt_blankBytes sectors size h
  have magic : (byteAt (blankBytes sectors size) 0 != 0x96 ||
      byteAt (blankBytes sectors size) 1 != 0x02) = false := by
    rw [field (by decide), field (by decide)]
    rfl
  have two : (byteAt (blankBytes sectors size) 4).toNat +
      256 * (byteAt (blankBytes sectors size) 5).toNat = size % 2 ^ 16 := by
    rw [field (by decide), field (by decide)]
    exact toNat_bytes2 size
  have writable : (byteAt (blankBytes sectors size) 15 &&& 0x01 == 0) = true := by
    rw [field (by decide)]
    show ((0 : UInt8) &&& 0x01 == 0) = true
    decide
  rw [parse, if_neg whole, magic, if_neg Bool.false_ne_true, two]
  dsimp only
  cases Density.ofSectorSize? (size % 2 ^ 16) with
  | none => rfl
  | some density =>
    dsimp only
    rw [writable]

theorem sectorCount_of_size {n : Nat}
    (h : d.bytes.size = headerSize + payloadSize n d.sectorSize) : d.sectorCount = n := by
  have space : d.bytes.size - headerSize = payloadSize n d.sectorSize := by omega
  refine Nat.le_antisymm (Nat.le_of_not_lt fun more => ?_) ?_
  · have fits := (d.payloadSize_le_iff (n + 1)).2 more
    have some := d.sectorSize_pos
    rw [space, payloadSize_succ] at fits
    split at fits
    · simp only [bootSectorSize] at fits
      omega
    · omega
  · exact (d.payloadSize_le_iff n).1 (Nat.le_of_eq space.symm)

/-- The sectors of the size in the header that fill the space for sectors of the given size. -/
def blankCount (sectors size : Nat) : Nat :=
  min sectors bootSectors + (sectors - bootSectors) * (size / (size % 2 ^ 16))

theorem blankCount_of_lt (sectors : Nat) (pos : 0 < size) (h : size < 2 ^ 16) :
    blankCount sectors size = sectors := by
  rw [blankCount, Nat.mod_eq_of_lt h, Nat.div_self pos]
  omega

theorem payloadSize_blankCount (sectors : Nat) (divides : size % 2 ^ 16 ∣ size) :
    payloadSize (blankCount sectors size) (size % 2 ^ 16) = payloadSize sectors size := by
  obtain few | many := Nat.le_total sectors bootSectors
  · have count : blankCount sectors size = sectors := by
      rw [blankCount, Nat.min_eq_left few, Nat.sub_eq_zero_of_le few, Nat.zero_mul, Nat.add_zero]
    rw [count, payloadSize_of_le few, payloadSize_of_le few]
  · rw [blankCount, Nat.min_eq_right many, payloadSize_of_ge (Nat.le_add_right ..),
      payloadSize_of_ge many, Nat.add_sub_cancel_left, Nat.mul_assoc, Nat.div_mul_cancel divides]

/-- An image as it is made: `sectors` of them, all of them empty. -/
structure IsBlank (d : Image) (name : String) (sectors size payload : Nat) : Prop where
  name : d.name = name
  writable : d.writable = true
  sectorSize : d.sectorSize = size
  sectorCount : d.sectorCount = sectors
  empty : ∀ s : UInt16, 1 ≤ s.toNat → s.toNat ≤ sectors →
    d.readSector s = some (zeros (if s.toNat ≤ bootSectors then bootSectorSize else size))
  size : d.bytes.size = headerSize + payload
  /-- The header holds the low bits of the number of paragraphs. -/
  paragraphs : (byteAt d.bytes 2).toNat + 256 * (byteAt d.bytes 3).toNat +
    65536 * (byteAt d.bytes 6).toNat = payload / 16 % 2 ^ 24
  restored : parse d.name d.bytes = .ok d

theorem readSector_zeros {s : UInt16} (bytes : d.bytes = blankBytes sectors size)
    (pos : 1 ≤ s.toNat) (counted : s.toNat ≤ d.sectorCount) :
    d.readSector s = some (zeros (d.lengthOf s)) := by
  have place := sector?_eq_some_iff_counted.2 ⟨d.place_eq pos, pos, counted⟩
  have behind := d.headerSize_le_place s
  have fits := (sector?_eq_some_iff.1 place).2.2
  have header := size_header (payloadSize sectors size) size
  rw [d.place_eq pos] at behind
  rw [bytes, size_blankBytes] at fits
  rw [readSector_eq place, bytes, blankBytes,
    extract_append_of_le_right (Nat.le_trans (Nat.le_of_eq header) behind), extract_zeros, header]
  congr 2
  omega

theorem dvd_of_ofSectorSize? {density : Density}
    (h : Density.ofSectorSize? (size % 2 ^ 16) = some density) :
    density.sectorSize = size % 2 ^ 16 ∧ size % 2 ^ 16 ∣ size := by
  unfold Density.ofSectorSize? at h
  split at h
  · rename_i low
    cases h
    rw [low]
    exact ⟨rfl, by omega⟩
  · rename_i low
    cases h
    rw [low]
    exact ⟨rfl, by omega⟩
  · cases h

theorem isBlank_of_ofSectorSize? {density : Density} (name : String) (sectors : Nat)
    (h : Density.ofSectorSize? (size % 2 ^ 16) = some density) :
    IsBlank { name, bytes := blankBytes sectors size, density, writable := true } name
      (blankCount sectors size) (size % 2 ^ 16) (payloadSize sectors size) := by
  obtain ⟨own, divides⟩ := dvd_of_ofSectorSize? h
  generalize image : ({ name, bytes := blankBytes sectors size, density, writable := true } : Image)
    = d
  have bytes : d.bytes = blankBytes sectors size := image ▸ rfl
  have length : d.sectorSize = size % 2 ^ 16 := image ▸ own
  have whole : d.bytes.size = headerSize + payloadSize sectors size := bytes ▸ size_blankBytes ..
  have count : d.sectorCount = blankCount sectors size := by
    apply sectorCount_of_size
    rw [whole, length, payloadSize_blankCount sectors divides]
  refine ⟨image ▸ rfl, image ▸ rfl, length, count, fun s pos counted => ?_, whole, ?_, ?_⟩
  · rw [readSector_zeros bytes pos (count ▸ counted), lengthOf, length]
  · have field {i : Nat} (h : i < headerSize) := byteAt_blankBytes sectors size h
    rw [bytes, field (by decide), field (by decide), field (by decide)]
    exact toNat_bytes3 _
  · rw [bytes, parse_blankBytes, h, ← image]

theorem ofSectorSize?_isSome_iff (n : Nat) :
    (Density.ofSectorSize? n).isSome ↔ n = 128 ∨ n = 256 := by
  unfold Density.ofSectorSize?
  split <;> simp_all

/-- An empty image of a size that there is, is as it was asked for, whatever the number of sectors.
Of any other size only the low sixteen bits are looked at: if they are a size that there is, the
image has sectors of that size, and as many as fill the space; if not, it is refused. -/
theorem isBlank_blank (name : String) (sectors size : Nat) :
    (size = 128 ∨ size = 256 → ∃ d, blank name sectors size = .ok d ∧
        d.IsBlank name sectors size (payloadSize sectors size)) ∧
      ((∃ d, blank name sectors size = .ok d) ↔ size % 2 ^ 16 = 128 ∨ size % 2 ^ 16 = 256) ∧
      (∀ d, blank name sectors size = .ok d →
        d.IsBlank name (blankCount sectors size) (size % 2 ^ 16) (payloadSize sectors size)) ∧
      ∀ fault, blank name sectors size = .error fault →
        fault = .diskImage name (.sectorSize (size % 2 ^ 16)) := by
  have made := parse_blankBytes name sectors size
  rw [← blank_eq_parse] at made
  have known := ofSectorSize?_isSome_iff (size % 2 ^ 16)
  rw [made, ← known]
  cases density : Density.ofSectorSize? (size % 2 ^ 16) with
  | none =>
    rw [density] at known
    refine ⟨fun there => ?_, ⟨nofun, nofun⟩, nofun, fun fault same => (Except.error.inj same).symm⟩
    have small : size % 2 ^ 16 = size := Nat.mod_eq_of_lt (by omega)
    rw [← small] at there
    exact absurd (known.2 there) Bool.false_ne_true
  | some density' =>
    have blank := isBlank_of_ofSectorSize? name sectors density
    refine ⟨fun there => ⟨_, rfl, ?_⟩, iff_of_true ⟨_, rfl⟩ rfl, ?_, nofun⟩
    · have small : size < 2 ^ 16 := by omega
      rwa [blankCount_of_lt sectors (by omega) small, Nat.mod_eq_of_lt small] at blank
    · rintro d same
      cases same
      exact blank

theorem isBlank_blank_wrapped :
    (∃ d, blank "D" 4 256 = .ok d ∧ d.sectorSize = 256 ∧ d.sectorCount = 4) ∧
      (65664 ≠ 128 ∧ 65664 ≠ 256) ∧
      ∃ d, blank "D" 4 65664 = .ok d ∧ d.sectorSize = 128 ∧ d.sectorCount = 516 := by
  obtain ⟨good, -, -, -⟩ := isBlank_blank "D" 4 256
  obtain ⟨d, made, asked⟩ := good (.inr rfl)
  obtain ⟨-, wrapped, whole, -⟩ := isBlank_blank "D" 4 65664
  obtain ⟨d', made'⟩ := wrapped.2 (.inl rfl)
  have given := whole d' made'
  exact ⟨⟨d, made, asked.sectorSize, asked.sectorCount⟩, by decide,
    d', made', given.sectorSize, given.sectorCount⟩

end Atari800XL.Disk.Image
