import Atari800XL.Proofs.FileDevice.Listing
import Atari800XL.Proofs.FileDevice.Records

namespace Atari800XL.FileDevice

open Files

def Ahead (d : FileDevice) (i : ChannelIndex) (bytes : List UInt8) : Prop :=
  ∃ c, d.channel i = some c ∧ c.mode.readable = true ∧ c.rest = bytes

def Receipt.ofEnd : Receipt where
  handled := true
  status := Status.endOfFile.code
  length := 0
  bytes := []

namespace RecordInput

variable {i : ChannelIndex} (g : RecordInput i) {d : FileDevice}

theorem delivers_ahead {record rest : List UInt8} (free : eol ∉ record)
    (fits : record.length < g.length.toNat) (ahead : d.Ahead i (terminated record ++ rest)) :
    g.receipt d = .ofRecord record ∧ (g.call d).device.Ahead i rest := by
  obtain ⟨c, recorded, readable, left⟩ := ahead
  have room : (terminated record).length ≤ g.length.toNat := by
    rw [length_terminated]
    exact fits
  have ended : c.rest = record ++ eol :: rest := left.trans (List.append_assoc _ _ _)
  have got := c.getRecord_of_ended free ended g.length.toNat
  rw [List.take_of_length_le room, if_pos room] at got
  obtain ⟨receipt, next, -⟩ := g.receipt_of_delivery recorded readable got room
  rw [length_terminated] at receipt
  refine ⟨receipt, _, next, readable, ?_⟩
  rw [Channel.rest, ← List.drop_drop]
  show c.rest.drop (terminated record).length = rest
  rw [left, List.drop_left]

theorem delivers_end (ahead : d.Ahead i []) :
    g.receipt d = .ofEnd ∧ (g.call d).device.Ahead i [] := by
  obtain ⟨c, recorded, readable, left⟩ := ahead
  have free : eol ∉ c.rest := by
    rw [left]
    exact List.not_mem_nil
  have got := c.getRecord_of_free free g.length.toNat
  rw [left, List.length_nil] at got
  obtain ⟨receipt, next, -⟩ := g.receipt_of_delivery recorded readable got (Nat.zero_le _)
  exact ⟨receipt, _, next, readable, left⟩

end RecordInput

/-- What the call of this number finds when these records are in front of the first one. -/
def Receipt.ofNumber (records : List (List UInt8)) (k : Nat) : Receipt :=
  records[k]?.elim .ofEnd .ofRecord

theorem getRecords_ahead {i : ChannelIndex} {d : FileDevice} {records : List (List UInt8)}
    {room : Nat} (whole : ∀ record ∈ records, eol ∉ record ∧ record.length < room)
    {gets : List (RecordInput i)} (fits : ∀ g ∈ gets, room ≤ g.length.toNat)
    (ahead : d.Ahead i (records.flatMap terminated)) :
    (d.getRecords gets).1 = (List.range gets.length).map (Receipt.ofNumber records) := by
  induction gets generalizing d records with
  | nil => rfl
  | cons g gets ih =>
    obtain ⟨here, later⟩ := List.forall_mem_cons.1 fits
    have first : g.receipt d = .ofNumber records 0 ∧
        (g.call d).device.Ahead i (records.tail.flatMap terminated) := by
      cases records with
      | nil => exact g.delivers_end ahead
      | cons record records =>
        obtain ⟨free, short⟩ := whole record List.mem_cons_self
        exact g.delivers_ahead free (Nat.lt_of_lt_of_le short here) ahead
    obtain ⟨receipt, next⟩ := first
    have rest := ih (fun record mem => whole record (List.mem_of_mem_tail mem)) later next
    have shifted : Receipt.ofNumber records ∘ Nat.succ = Receipt.ofNumber records.tail :=
      funext fun k => by rw [Receipt.ofNumber, List.getElem?_tail]; rfl
    rw [List.length_cons, List.range_succ_eq_map, List.map_cons, List.map_map, shifted, ← rest,
      ← receipt]
    rfl

/-- A call to open the directory of a pattern, whose control block is marked closed. With no pattern
in the name all files are meant. -/
structure Listing (i : ChannelIndex) (pattern : String) extends Request i .opening where
  closed : (Iocb.ofChannel i).handlerId memory = Iocb.closedId
  mode_eq : OpenMode.ofCode? ((Iocb.ofChannel i).mode memory) = some .directory
  own : (Iocb.ofChannel i).namesOwnDevice memory = true
  unit : UInt8
  text : List Char
  target : splitDevice ((Iocb.ofChannel i).target memory) = some (unit, text)
  pattern_eq : (if text.isEmpty then .ok "*.*" else normalize? text true) = .ok pattern

def matching (s : Store) (pattern : String) : List File :=
  s.files.filter fun f => wildcardMatch pattern f.name

namespace Listing

variable {i : ChannelIndex} {pattern : String} (o : Listing i pattern)

theorem openDirectory_eq (s : Store) :
    openDirectory s o.text =
      .ok
        { name := pattern, mode := .directory, content := Directory.listing (s.list pattern) } := by
  have named := o.pattern_eq
  unfold openDirectory
  split at named <;> rename_i empty
  · obtain rfl := Except.ok.inj named
    rw [if_pos empty]
    rfl
  · rw [if_neg empty, named]
    rfl

theorem call_opens (d : FileDevice) :
    (o.call d).EndsWith .success ∧
      (o.call d).device.Ahead i
        (((matching d.store pattern).map Directory.rowBytes ++
          [Directory.freeBytes (matching d.store pattern)]).flatMap terminated) := by
  let c : Channel :=
    { name := pattern, mode := .directory, content := Directory.listing (d.store.list pattern) }
  have prepared : prepare d.store ((Iocb.ofChannel i).target o.memory)
      ((Iocb.ofChannel i).mode o.memory) = .ok (o.unit, c) := by
    rw [prepare, o.target, o.mode_eq]
    simp only [o.openDirectory_eq]
    rfl
  obtain ⟨success, device⟩ := o.call_of_prepare o.closed o.own prepared
  have readable : OpenMode.directory.readable = true := by decide
  refine ⟨success, c, ?_, readable, Directory.data_listing _⟩
  rw [device]
  exact channel_setChannel _ _ _

end Listing

open Directory

/-- A directory is read record by record by calls that have room for its lines. Each file that the
pattern matches has one record, in the order of the names, which go up, so that none comes twice;
its name, its lock and its sectors are found again at fixed columns. One more record tells how many
sectors are left. From then on there is the end. -/
theorem lists_directory {i : ChannelIndex} {pattern : String} (o : Listing i pattern)
    (d : FileDevice) (ordered : d.store.Ordered)
    (named : ∀ f ∈ d.store.files, ∃ base extension, Parts false f.name base extension)
    (gets : List (RecordInput i)) (room : ∀ g ∈ gets, 19 ≤ g.length.toNat) :
    let opened := o.call d
    let files := matching d.store pattern
    opened.EndsWith .success ∧
      files.Pairwise (fun f g => f.name < g.name) ∧
      ∃ lines last, List.Forall₂ Describes lines files ∧
        TellsFree last (999 - toldSectors lines) ∧
        (opened.device.getRecords gets).1 =
          (List.range gets.length).map (Receipt.ofNumber (lines ++ [last])) := by
  intro opened files
  have lines : ∀ f ∈ files, Describes (rowBytes f) f := by
    intro f mem
    obtain ⟨base, extension, parts⟩ := named f (List.mem_filter.1 mem).1
    exact describes_rowBytes parts
  have described : List.Forall₂ Describes (files.map rowBytes) files := by
    rw [List.forall₂_map_left_iff, List.forall₂_same]
    exact lines
  have free := tellsFree_freeBytes described
  obtain ⟨success, ahead⟩ := o.call_opens d
  have short : ∀ record ∈ files.map rowBytes ++ [freeBytes files],
      eol ∉ record ∧ record.length < 19 := by
    rw [List.forall_mem_append, List.forall_mem_map, List.forall_mem_singleton]
    refine ⟨fun f mem => ⟨(lines f mem).free, ?_⟩, free.free, ?_⟩
    · rw [(lines f mem).length]
      decide
    · rw [free.length]
      decide
  exact ⟨success, List.Pairwise.filter _ ordered, files.map rowBytes, freeBytes files, described,
    free, getRecords_ahead short room ahead⟩

def sampleWildcard : List UInt8 :=
  [0x48, 0x3A, 0x2A, 0x2E, 0x54, 0x3F, 0x3F, eol] ++ List.replicate 56 0

def sampleListing : Listing Scene.channel "*.T??" where
  cpu := { regs := { x := 16 } }
  memory :=
    Scene.memory { id := 0xFF, command := 0x03, mode := 0x06, buffer := sampleWildcard }
      Scene.channel
  x := Scene.x_channel
  code := by
    rw [Scene.command_memory]
    rfl
  closed := Scene.handlerId_memory _ Scene.channel
  mode_eq := by
    rw [Scene.mode_memory]
    rfl
  own := by
    rw [Scene.namesOwnDevice_memory _ Scene.channel rfl]
    rfl
  unit := 1
  text := ['*', '.', 'T', '?', '?']
  target := by
    rw [Scene.target_memory _ Scene.channel rfl]
    rfl
  pattern_eq := by decide +kernel

def sampleLockedFile : File :=
  { name := "FOO.TXT", data := ⟨Array.replicate 126 0⟩, locked := true }

def sampleEmptyFile : File := { name := "LONGNAME.TAB", data := ⟨#[]⟩ }

def sampleCatalogue : FileDevice :=
  { store :=
      { files := [{ name := "A.B", data := ⟨#[0x78]⟩ }, sampleLockedFile, sampleEmptyFile] } }

theorem lists_directory_sample :
    let gets := List.replicate 4 (sampleGetRecord 19 (by decide))
    sampleCatalogue.store.Ordered ∧
      (∀ f ∈ sampleCatalogue.store.files, ∃ base extension, Parts false f.name base extension) ∧
      (∀ g ∈ gets, 19 ≤ (RecordInput.length g).toNat) ∧
      ∃ first second last, Describes first sampleLockedFile ∧ (Row.ofBytes first).sectors = 2 ∧
        Describes second sampleEmptyFile ∧ TellsFree last 997 ∧
        (((sampleListing.call sampleCatalogue).device).getRecords gets).1 =
          [.ofRecord first, .ofRecord second, .ofRecord last, .ofEnd] := by
  intro gets
  have ordered : sampleCatalogue.store.Ordered := by
    refine .cons (List.forall_mem_cons.2 ⟨?_, List.forall_mem_singleton.2 ?_⟩)
      (.cons (List.forall_mem_singleton.2 ?_) (List.pairwise_singleton _ _)) <;> decide +kernel
  have named : ∀ f ∈ sampleCatalogue.store.files,
      ∃ base extension, Parts false f.name base extension := by
    have parts {name : String} (valid : normalize name false = some name) :
        ∃ base extension, Parts false name base extension :=
      ⟨_, _, normalize_eq_some_iff.1 valid⟩
    refine List.forall_mem_cons.2 ⟨parts ?_, List.forall_mem_cons.2
      ⟨parts ?_, List.forall_mem_singleton.2 (parts ?_)⟩⟩ <;> decide +kernel
  have room : ∀ g ∈ gets, 19 ≤ (RecordInput.length g).toNat := by
    intro g mem
    rw [List.eq_of_mem_replicate mem, RecordInput.length, sampleGetRecord,
      Scene.bufferLength_memory]
    decide
  have files : matching sampleCatalogue.store "*.T??" = [sampleLockedFile, sampleEmptyFile] := by
    have left : wildcardMatch "*.T??" "A.B" = false := by decide +kernel
    have first : wildcardMatch "*.T??" sampleLockedFile.name = true := by decide +kernel
    have second : wildcardMatch "*.T??" sampleEmptyFile.name = true := by decide +kernel
    simp [matching, sampleCatalogue, left, first, second]
  obtain ⟨-, -, lines, last, described, free, receipts⟩ :=
    lists_directory sampleListing sampleCatalogue ordered named gets room
  rw [files] at described
  cases described with
  | @cons first _ lines _ here described =>
  cases described with
  | @cons second _ lines _ there described =>
  cases described
  have size : sampleLockedFile.data.size = 126 := Array.size_replicate
  have sectors : (Row.ofBytes first).sectors = 2 := by
    rw [here.sectors, size]
    rfl
  have none : (Row.ofBytes second).sectors = 0 := there.sectors
  rw [toldSectors, List.foldr_cons, List.foldr_cons, sectors, none] at free
  exact ⟨ordered, named, room, first, second, last, here, sectors, there, free, receipts⟩

end Atari800XL.FileDevice
