import Atari800XL.Proofs.Disk.Overwrite

namespace Atari800XL.Disk

theorem extract_zeros (n a b : Nat) : (zeros n).extract a b = zeros (min b n - a) := by
  apply ByteArray.ext
  rw [ByteArray.data_extract]
  exact Array.extract_replicate

namespace Image

variable {d : Image} {sector other : UInt16} {start length : Nat} {data : ByteArray}

theorem sectorSize_pos (d : Image) : 0 < d.sectorSize := by
  unfold sectorSize
  cases d.density <;> decide

def lengthOf (d : Image) (sector : UInt16) : Nat :=
  if sector.toNat ≤ bootSectors then bootSectorSize else d.sectorSize

theorem lengthOf_pos (d : Image) (sector : UInt16) : 0 < d.lengthOf sector := by
  unfold lengthOf
  split
  · decide
  · exact d.sectorSize_pos

def sectorsEnd (d : Image) : Nat := headerSize + payloadSize d.sectorCount d.sectorSize

theorem payloadSize_of_le {n : Nat} (h : n ≤ bootSectors) (size : Nat) :
    payloadSize n size = n * bootSectorSize := by
  rw [payloadSize, Nat.min_eq_left h, Nat.sub_eq_zero_of_le h, Nat.zero_mul, Nat.add_zero]

theorem payloadSize_of_ge {n : Nat} (h : bootSectors ≤ n) (size : Nat) :
    payloadSize n size = bootSectors * bootSectorSize + (n - bootSectors) * size := by
  rw [payloadSize, Nat.min_eq_right h]

theorem payloadSize_succ (n size : Nat) :
    payloadSize (n + 1) size =
      payloadSize n size + if n + 1 ≤ bootSectors then bootSectorSize else size := by
  split
  · rename_i boot
    rw [payloadSize_of_le boot, payloadSize_of_le (Nat.le_of_succ_le boot), Nat.succ_mul]
  · have body : bootSectors ≤ n := by omega
    rw [payloadSize_of_ge (by omega), payloadSize_of_ge body, Nat.succ_sub body, Nat.succ_mul,
      Nat.add_assoc]

theorem payloadSize_le {n m : Nat} (h : n ≤ m) (size : Nat) :
    payloadSize n size ≤ payloadSize m size := by
  induction h with
  | refl => exact Nat.le_refl _
  | step _ ih =>
    rw [payloadSize_succ]
    exact Nat.le_add_right_of_le ih

theorem place_eq (d : Image) (pos : 1 ≤ sector.toNat) :
    d.place sector =
      (headerSize + payloadSize (sector.toNat - 1) d.sectorSize, d.lengthOf sector) := by
  unfold place lengthOf
  dsimp only
  split
  · rw [payloadSize_of_le (by omega)]
  · rw [payloadSize_of_ge (by omega), Nat.sub_right_comm, bodyStart, Nat.add_assoc]

theorem place_end (d : Image) (pos : 1 ≤ sector.toNat) :
    (d.place sector).1 + (d.place sector).2 =
      headerSize + payloadSize sector.toNat d.sectorSize := by
  have step := payloadSize_succ (sector.toNat - 1) d.sectorSize
  rw [Nat.sub_add_cancel pos] at step
  rw [d.place_eq pos, lengthOf, step, Nat.add_assoc]

theorem payloadSize_le_iff (d : Image) (n : Nat) :
    payloadSize n d.sectorSize ≤ d.bytes.size - headerSize ↔ n ≤ d.sectorCount := by
  have pos := d.sectorSize_pos
  unfold sectorCount
  dsimp only
  generalize d.bytes.size - headerSize = payload
  by_cases few : n ≤ bootSectors
  · rw [payloadSize_of_le few]
    split
    · exact (Nat.le_div_iff_mul_le (by decide)).symm
    · have boot : n * bootSectorSize ≤ bootSectors * bootSectorSize := Nat.mul_le_mul_right _ few
      exact ⟨fun _ => Nat.le_trans few (Nat.le_add_right _ _), fun _ => by omega⟩
  · have body : 1 * d.sectorSize ≤ (n - bootSectors) * d.sectorSize :=
      Nat.mul_le_mul_right _ (by omega)
    rw [payloadSize_of_ge (by omega)]
    split
    · -- Such an image has boot sectors only.
      have count : payload / bootSectorSize ≤ bootSectors :=
        Nat.div_le_of_le_mul (by rwa [Nat.mul_comm])
      omega
    · have count := Nat.le_div_iff_mul_le pos (x := n - bootSectors)
        (y := payload - bootSectors * bootSectorSize)
      omega

theorem ne_zero_iff : sector ≠ 0 ↔ 1 ≤ sector.toNat := by
  rw [ne_eq, ← UInt16.toNat_inj, UInt16.toNat_zero]
  omega

theorem sector?_eq_some_iff_counted : d.sector? sector = some (start, length) ↔
    d.place sector = (start, length) ∧ 1 ≤ sector.toNat ∧ sector.toNat ≤ d.sectorCount := by
  rw [sector?_eq_some_iff, ne_zero_iff, ← payloadSize_le_iff]
  constructor
  · rintro ⟨pos, place, fits⟩
    have stop := d.place_end pos
    rw [place] at stop
    exact ⟨place, pos, by omega⟩
  · rintro ⟨place, pos, counted⟩
    have stop := d.place_end pos
    have some : 0 < (d.place sector).2 := by
      rw [d.place_eq pos]
      exact d.lengthOf_pos sector
    have behind := d.headerSize_le_place sector
    rw [place] at stop some behind
    exact ⟨pos, place, by omega⟩

theorem readSector_eq (place : d.sector? sector = some (start, length)) :
    d.readSector sector = some (d.bytes.extract start (start + length)) := by
  rw [readSector, place]
  rfl

theorem exists_sector?_of_readSector (h : d.readSector sector = some data) :
    ∃ start, d.sector? sector = some (start, data.size) ∧
      data = d.bytes.extract start (start + data.size) := by
  obtain ⟨⟨start, length⟩, place, rfl⟩ := Option.map_eq_some_iff.1 h
  have fits := (sector?_eq_some_iff.1 place).2.2
  have size : (d.bytes.extract start (start + length)).size = length := by
    rw [ByteArray.size_extract]
    omega
  dsimp only
  rw [size]
  exact ⟨start, place, rfl⟩

theorem size_of_readSector (h : d.readSector sector = some data) :
    data.size = d.lengthOf sector := by
  obtain ⟨start, place, -⟩ := exists_sector?_of_readSector h
  obtain ⟨place, pos, -⟩ := sector?_eq_some_iff_counted.1 place
  rw [d.place_eq pos, Prod.mk.injEq] at place
  exact place.2.symm

theorem isSome_readSector_iff :
    (d.readSector sector).isSome ↔ 1 ≤ sector.toNat ∧ sector.toNat ≤ d.sectorCount := by
  rw [readSector, Option.isSome_map, Option.isSome_iff_exists]
  constructor
  · rintro ⟨⟨start, length⟩, place⟩
    exact (sector?_eq_some_iff_counted.1 place).2
  · intro counted
    exact ⟨d.place sector, sector?_eq_some_iff_counted.2 ⟨rfl, counted⟩⟩

structure LaidOut (d : Image) : Prop where
  readable : ∀ s, (d.readSector s).isSome ↔ 1 ≤ s.toNat ∧ s.toNat ≤ d.sectorCount
  size : ∀ s data, d.readSector s = some data →
    data.size = if s.toNat ≤ bootSectors then bootSectorSize else d.sectorSize
  read : ∀ s start length, d.sector? s = some (start, length) →
    d.readSector s = some (d.bytes.extract start (start + length))
  behind : ∀ s start length, d.sector? s = some (start, length) → headerSize ≤ start
  first : ∀ start length, d.sector? 1 = some (start, length) → start = headerSize
  next : ∀ s t start length start' length', d.sector? s = some (start, length) →
    d.sector? t = some (start', length') → t.toNat = s.toNat + 1 → start' = start + length
  apart : ∀ s t start length start' length', d.sector? s = some (start, length) →
    d.sector? t = some (start', length') → s ≠ t →
    start + length ≤ start' ∨ start' + length' ≤ start

theorem laidOut (d : Image) : d.LaidOut where
  readable _ := isSome_readSector_iff
  size _ _ h := size_of_readSector h
  read _ _ _ place := readSector_eq place
  behind s _ _ place := by
    have behind := d.headerSize_le_place s
    rwa [(sector?_eq_some_iff.1 place).2.1] at behind
  first _ _ place := (Prod.mk.inj (sector?_eq_some_iff.1 place).2.1).1.symm
  next s t start length start' length' place place' next := by
    obtain ⟨place, pos, -⟩ := sector?_eq_some_iff_counted.1 place
    obtain ⟨place', pos', -⟩ := sector?_eq_some_iff_counted.1 place'
    have stop := d.place_end pos
    rw [place] at stop
    rw [d.place_eq pos', next, Nat.add_sub_cancel, ← stop] at place'
    exact (Prod.mk.inj place').1.symm
  apart s t _ _ _ _ place place' ne := (apart_of_ne place' place ne).imp id id

inductive Request
  | write (sector : UInt16) (data : ByteArray)
  | format
  | setWritable (writable : Bool)

def request (d : Image) : Request → Option Image
  | .write sector data => d.writeSector sector data
  | .format => d.format
  | .setWritable writable => some { d with writable }

def serve (d : Image) (r : Request) : Image := (d.request r).getD d

def serveAll (d : Image) (rs : List Request) : Image := rs.foldl serve d

def granted (d : Image) : List Request → List Request
  | [] => []
  | r :: rs => if (d.request r).isSome then r :: (d.serve r).granted rs else (d.serve r).granted rs

def writableAfter (d : Image) (rs : List Request) : Bool :=
  rs.foldl (fun writable r => match r with
    | .setWritable writable => writable
    | _ => writable) d.writable

def Request.leaves (sector : UInt16) (length : Nat) : Request → Option ByteArray
  | .write other data => if other = sector then some data else none
  | .format => some (zeros length)
  | .setWritable _ => none

structure SameShape (d d' : Image) : Prop where
  size : d'.bytes.size = d.bytes.size
  density : d'.density = d.density

namespace SameShape

theorem refl (d : Image) : d.SameShape d := ⟨rfl, rfl⟩

variable {d'' : Image} (h : d.SameShape d')
include h

theorem trans (h' : d'.SameShape d'') : d.SameShape d'' :=
  ⟨h'.size.trans h.size, h'.density.trans h.density⟩

theorem sectorSize : d'.sectorSize = d.sectorSize := congrArg Density.sectorSize h.density

theorem sectorCount : d'.sectorCount = d.sectorCount := by
  rw [Image.sectorCount, h.size, h.sectorSize, Image.sectorCount]

theorem sector? (sector : UInt16) : d'.sector? sector = d.sector? sector := by
  rw [Image.sector?, place, h.size, h.sectorSize, Image.sector?, place]

theorem lengthOf (sector : UInt16) : d'.lengthOf sector = d.lengthOf sector := by
  rw [Image.lengthOf, h.sectorSize, Image.lengthOf]

theorem sectorsEnd : d'.sectorsEnd = d.sectorsEnd := by
  rw [Image.sectorsEnd, h.sectorCount, h.sectorSize, Image.sectorsEnd]

end SameShape

theorem sameShape_overwrite (fits : start + data.size ≤ d.bytes.size) :
    d.SameShape (d.overwrite start data) := ⟨size_overwrite fits, rfl⟩

theorem fits_format (whole : headerSize ≤ d.bytes.size) :
    headerSize + (zeros (d.bytes.size - headerSize)).size ≤ d.bytes.size := by
  rw [size_zeros]
  omega

theorem sameShape_serve (whole : headerSize ≤ d.bytes.size) (r : Request) :
    d.SameShape (d.serve r) := by
  unfold serve
  cases granted : d.request r with
  | none => exact .refl d
  | some new =>
    cases r with
    | write sector data =>
      obtain ⟨-, start, place, rfl⟩ := eq_overwrite_of_writeSector granted
      exact sameShape_overwrite (sector?_eq_some_iff.1 place).2.2
    | format =>
      obtain ⟨-, rfl⟩ := eq_overwrite_of_format granted
      exact sameShape_overwrite (fits_format whole)
    | setWritable writable =>
      obtain rfl := Option.some.inj granted
      exact ⟨rfl, rfl⟩

theorem sameShape_serveAll (whole : headerSize ≤ d.bytes.size) (rs : List Request) :
    d.SameShape (d.serveAll rs) := by
  induction rs generalizing d with
  | nil => exact .refl d
  | cons r rs ih =>
    have served := sameShape_serve whole r
    exact served.trans (ih (by rwa [served.size]))

theorem isSome_writeSector_iff : (d.writeSector sector data).isSome ↔
    d.writable = true ∧ 1 ≤ sector.toNat ∧ sector.toNat ≤ d.sectorCount ∧
      data.size = d.lengthOf sector := by
  rw [Option.isSome_iff_exists]
  constructor
  · rintro ⟨new, written⟩
    obtain ⟨writable, start, place, -⟩ := eq_overwrite_of_writeSector written
    obtain ⟨place, pos, counted⟩ := sector?_eq_some_iff_counted.1 place
    rw [d.place_eq pos] at place
    exact ⟨writable, pos, counted, (Prod.mk.inj place).2.symm⟩
  · rintro ⟨writable, pos, counted, size⟩
    have place : d.sector? sector =
        some (headerSize + payloadSize (sector.toNat - 1) d.sectorSize, data.size) := by
      rw [size, ← d.place_eq pos]
      exact sector?_eq_some_iff_counted.2 ⟨rfl, pos, counted⟩
    exact ⟨_, writeSector_eq_overwrite writable place⟩

theorem isSome_format_iff : d.format.isSome ↔ d.writable = true := by
  unfold format
  split <;> simp_all

theorem writable_serve (d : Image) (r : Request) :
    (d.serve r).writable = d.writableAfter [r] := by
  cases r with
  | write sector data =>
    show ((d.writeSector sector data).getD d).writable = d.writable
    cases written : d.writeSector sector data with
    | none => rfl
    | some new =>
      obtain ⟨-, start, -, rfl⟩ := eq_overwrite_of_writeSector written
      rfl
  | format =>
    show (d.format.getD d).writable = d.writable
    cases formatted : d.format with
    | none => rfl
    | some new =>
      obtain ⟨-, rfl⟩ := eq_overwrite_of_format formatted
      rfl
  | setWritable writable => rfl

theorem writable_serveAll (d : Image) (rs : List Request) :
    (d.serveAll rs).writable = d.writableAfter rs := by
  induction rs generalizing d with
  | nil => rfl
  | cons r rs ih =>
    have served := ih (d.serve r)
    rw [writableAfter, writable_serve] at served
    exact served

theorem readSector_format (whole : headerSize ≤ d.bytes.size)
    (h : d.readSector sector = some data) :
    (d.overwrite headerSize (zeros (d.bytes.size - headerSize))).readSector sector =
      some (zeros data.size) := by
  obtain ⟨start, place, -⟩ := exists_sector?_of_readSector h
  obtain ⟨-, placed, fits⟩ := sector?_eq_some_iff.1 place
  have behind := d.headerSize_le_place sector
  rw [placed] at behind
  have all := fits_format whole
  rw [← (sameShape_overwrite all).sector?] at place
  rw [readSector_eq place, extract_overwrite_of_within all behind, extract_zeros]
  · congr 2
    omega
  · rw [size_zeros]
    omega

theorem readSector_serve (whole : headerSize ≤ d.bytes.size)
    (h : d.readSector sector = some data) (r : Request) :
    (d.serve r).readSector sector =
      some (if (d.request r).isSome then (r.leaves sector data.size).getD data else data) := by
  unfold serve
  cases granted : d.request r with
  | none => exact h
  | some new =>
    rw [Option.getD_some, Option.isSome_some, if_pos rfl]
    cases r with
    | write other written =>
      obtain ⟨-, start, place, rfl⟩ := eq_overwrite_of_writeSector granted
      rw [Request.leaves]
      split
      · rename_i same
        subst same
        exact readSector_overwrite place
      · rename_i ne
        rw [readSector_overwrite_of_ne place (Ne.symm ne), h]
        rfl
    | format =>
      obtain ⟨-, rfl⟩ := eq_overwrite_of_format granted
      exact readSector_format whole h
    | setWritable writable =>
      obtain rfl := Option.some.inj granted
      exact h

theorem extract_serve_write {a b : Nat} (outside : b ≤ headerSize ∨ d.sectorsEnd ≤ a) :
    (d.serve (.write sector data)).bytes.extract a b = d.bytes.extract a b := by
  show ((d.writeSector sector data).getD d).bytes.extract a b = _
  cases written : d.writeSector sector data with
  | none => rfl
  | some new =>
    obtain ⟨-, start, place, rfl⟩ := eq_overwrite_of_writeSector written
    have fits := (sector?_eq_some_iff.1 place).2.2
    have behind := d.headerSize_le_place sector
    obtain ⟨placed, pos, counted⟩ := sector?_eq_some_iff_counted.1 place
    have stop := d.place_end pos
    have last := payloadSize_le counted d.sectorSize
    rw [placed] at behind stop
    unfold sectorsEnd at outside
    refine extract_overwrite_of_apart fits ?_
    dsimp only at behind stop
    omega

theorem readSector_serveAll (whole : headerSize ≤ d.bytes.size)
    (h : d.readSector sector = some data) (rs : List Request) :
    (d.serveAll rs).readSector sector =
      some (((d.granted rs).reverse.findSome? (Request.leaves sector data.size)).getD data) := by
  induction rs generalizing d data with
  | nil => exact h
  | cons r rs ih =>
    have served := readSector_serve whole h r
    have shape := sameShape_serve whole r
    have same := size_of_readSector served
    rw [shape.lengthOf, ← size_of_readSector h] at same
    have rest := ih (by rwa [shape.size]) served
    rw [same] at rest
    rw [serveAll, List.foldl_cons]
    refine rest.trans (congrArg some ?_)
    rw [granted]
    split
    · rw [List.reverse_cons, List.findSome?_append]
      cases (granted (d.serve r) rs).reverse.findSome? _ with
      | none => cases leaves : r.leaves sector data.size <;> simp [leaves]
      | some left => rfl
    · rfl

theorem size_of_parse {name : String} {bytes : ByteArray} (h : parse name bytes = .ok d) :
    headerSize ≤ d.bytes.size ∧ d.bytes = bytes := by
  unfold parse at h
  split at h
  · cases h
  · rename_i whole
    split at h
    · cases h
    · dsimp only at h
      split at h
      · cases h
      · cases h
        exact ⟨Nat.not_lt.1 whole, rfl⟩

theorem header_serve (whole : headerSize ≤ d.bytes.size) (r : Request) :
    (d.serve r).bytes.extract 0 headerSize = d.bytes.extract 0 headerSize := by
  cases r with
  | write sector data => exact extract_serve_write (.inl (Nat.le_refl _))
  | format =>
    show (d.format.getD d).bytes.extract 0 headerSize = _
    cases formatted : d.format with
    | none => rfl
    | some new =>
      obtain ⟨-, rfl⟩ := eq_overwrite_of_format formatted
      exact extract_overwrite_of_apart (fits_format whole) (.inl (Nat.le_refl _))
  | setWritable writable => rfl

theorem header_serveAll (whole : headerSize ≤ d.bytes.size) (rs : List Request) :
    (d.serveAll rs).bytes.extract 0 headerSize = d.bytes.extract 0 headerSize := by
  induction rs generalizing d with
  | nil => rfl
  | cons r rs ih =>
    have served := (sameShape_serve whole r).size
    exact (ih (by rwa [served])).trans (header_serve whole r)

/-- What an image is after some requests. -/
structure After (d : Image) (rs : List Request) (now : Image) : Prop where
  laidOut : now.LaidOut
  count : now.sectorCount = d.sectorCount
  /-- A write is granted exactly if the image is not protected, has the sector, and the data fills
  it. -/
  write : ∀ s data, (now.request (.write s data)).isSome ↔
    d.writableAfter rs = true ∧ (1 ≤ s.toNat ∧ s.toNat ≤ d.sectorCount) ∧
      data.size = if s.toNat ≤ bootSectors then bootSectorSize else d.sectorSize
  format : (now.request .format).isSome ↔ d.writableAfter rs = true
  /-- A sector holds what the last granted request that reached it left there. -/
  read : ∀ s, now.readSector s = (d.readSector s).map fun original =>
    ((d.granted rs).reverse.findSome? (Request.leaves s original.size)).getD original
  size : now.bytes.size = d.bytes.size
  header : now.bytes.extract 0 headerSize = d.bytes.extract 0 headerSize
  /-- A write changes nothing before the sectors or behind them. -/
  outside : ∀ s data a b, b ≤ headerSize ∨ d.sectorsEnd ≤ a →
    (now.serve (.write s data)).bytes.extract a b = now.bytes.extract a b
  refused : ∀ r, now.request r = none → now.serve r = now

/-- An image that passes for one is an array of sectors, whatever has been asked of it. -/
theorem array_of_sectors {name : String} {bytes : ByteArray} (h : parse name bytes = .ok d)
    (rs : List Request) : d.bytes = bytes ∧ d.After rs (d.serveAll rs) := by
  obtain ⟨whole, same⟩ := size_of_parse h
  have shape := sameShape_serveAll whole rs
  refine ⟨same, ?_⟩
  exact
    { laidOut := laidOut _
      count := shape.sectorCount
      write := fun s data => by
        rw [request, isSome_writeSector_iff, writable_serveAll, shape.sectorCount, shape.lengthOf,
          and_assoc, lengthOf]
      format := by rw [request, isSome_format_iff, writable_serveAll]
      read := fun s => by
        cases read : d.readSector s with
        | some data => exact readSector_serveAll whole read rs
        | none =>
          -- There is no such sector before, and none after.
          have missing : ¬(d.readSector s).isSome := by simp [read]
          rw [isSome_readSector_iff, ← shape.sectorCount, ← isSome_readSector_iff] at missing
          simpa using missing
      size := shape.size
      header := header_serveAll whole rs
      outside := fun s data a b outside =>
        extract_serve_write (by rwa [shape.sectorsEnd])
      refused := fun r refused => by rw [serve, refused, Option.getD_none] }

def sample : Image :=
  { name := "S.ATR"
    bytes := ⟨(header 640 256).toArray⟩ ++ zeros 643
    density := .double
    writable := true }

theorem parse_sample : parse "S.ATR" sample.bytes = .ok sample := by
  have whole : ¬sample.bytes.size < headerSize := by decide +kernel
  have magic : (byteAt sample.bytes 0 != 0x96 || byteAt sample.bytes 1 != 0x02) = false := by
    decide +kernel
  have size : (byteAt sample.bytes 4).toNat + 256 * (byteAt sample.bytes 5).toNat = 256 := by
    decide +kernel
  have writable : (byteAt sample.bytes 15 &&& 0x01 == 0) = true := by decide +kernel
  rw [parse, if_neg whole, magic, if_neg Bool.false_ne_true, size, writable]
  rfl

theorem array_of_sectors_sample :
    let rs : List Request := [.write 4 (zeros 256), .setWritable false, .format, .write 1 (zeros 128)]
    parse "S.ATR" sample.bytes = .ok sample ∧ sample.After rs (sample.serveAll rs) := by
  intro rs
  exact ⟨parse_sample, (array_of_sectors parse_sample rs).2⟩

end Image

end Atari800XL.Disk
