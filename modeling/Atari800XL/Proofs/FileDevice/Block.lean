import Atari800XL.FileDevice.Basic
import Atari800XL.Proofs.Memory.Buffer

namespace Atari800XL.FileDevice

theorem channelOf?_eq_some_iff {x : UInt8} {i : ChannelIndex} :
    channelOf? x = some i ↔ x = 16 * UInt8.ofNat i.val := by
  constructor
  · intro h
    unfold channelOf? at h
    split at h
    · rename_i valid
      obtain rfl := Option.some.inj h
      have aligned : x.toNat % 2 ^ 4 = 0 := by
        rw [← Nat.and_two_pow_sub_one_eq_mod]
        exact congrArg UInt8.toNat valid.1
      have := x.toNat_lt
      apply UInt8.toNat_inj.1
      rw [UInt8.toNat_mul, UInt8.toNat_ofNat']
      show x.toNat = 16 * (x.toNat / 16 % 256) % 256
      omega
    · cases h
  · rintro rfl
    revert i
    decide

theorem channel_setChannel (d : FileDevice) (i : ChannelIndex) (c : Option Channel) :
    (d.setChannel i c).channel i = c :=
  Vector.getElem_set_self _

theorem setChannel_setChannel (d : FileDevice) (i : ChannelIndex) (c c' : Option Channel) :
    (d.setChannel i c).setChannel i c' = d.setChannel i c' := by
  simp [setChannel]

theorem channel_setChannel_of_ne {i j : ChannelIndex} (d : FileDevice) (ne : j ≠ i)
    (c : Option Channel) : (d.setChannel i c).channel j = d.channel j :=
  Vector.getElem_set_ne i.isLt j.isLt fun same => ne (Fin.ext same.symm)

theorem setChannel_channel (d : FileDevice) (i : ChannelIndex) :
    d.setChannel i (d.channel i) = d := by
  simp [setChannel, channel]

namespace Iocb

variable {m : Memory} {i : ChannelIndex} {a : UInt16}

def InRam (b : Iocb) (m : Memory) : Prop :=
  ∀ k < 16, m.accessAt (b.base + UInt16.ofNat k) = .ram

def page : Nat := 3

theorem page_ofChannel (i : ChannelIndex) :
    ∀ k < 16, ((ofChannel i).base + UInt16.ofNat k).toNat / 256 = page := by
  revert i
  decide

theorem inRam_of_low (low : m.LowIsRam) (i : ChannelIndex) : (ofChannel i).InRam m := by
  have below : ∀ i, ∀ k < 16,
      ((ofChannel i).base + UInt16.ofNat k).toNat < Memory.lowEnd := by decide
  exact fun k lt => low _ (below i k lt)

theorem InRam.congr {b : Iocb} {m' : Memory} (h : b.InRam m) (pokes : m.Pokes m') : b.InRam m' := by
  intro k lt
  rw [pokes.accessAt, h k lt]

def nameOf (bytes : List UInt8) : List Char :=
  (bytes.takeWhile fun byte => !(byte == eol || byte == 0 || byte == 0x20)).map
    fun byte => Char.ofNat (byte &&& 0x7F).toNat

theorem readText_eq (m : Memory) (address : UInt16) (n : Nat) :
    readText m address n = nameOf (m.peekAll address n) := by
  induction n generalizing address with
  | zero => rfl
  | succ n ih =>
    rw [readText, Memory.peekAll, nameOf]
    split
    · rename_i ends
      rw [List.takeWhile_cons_of_neg (by simp [ends])]
      rfl
    · rename_i goes
      rw [List.takeWhile_cons_of_pos (by simpa using goes), List.map_cons, ih]
      rfl

end Iocb

structure Scene where
  id : UInt8
  command : UInt8
  length : UInt16 := 0
  mode : UInt8 := 0
  buffer : List UInt8 := []
  fits : buffer.length ≤ 0x1000 := by decide

namespace Scene

theorem one_lt_count : 1 < Iocb.count := by decide

def channel : ChannelIndex := ⟨1, one_lt_count⟩

theorem x_channel : (16 : UInt8) = 16 * UInt8.ofNat channel.val := rfl

def block (s : Scene) : List UInt8 :=
  [s.id, 1, s.command, 1, 0x00, 0x06, 0, 0, lowByte s.length, highByte s.length, s.mode]

def memory (s : Scene) (i : ChannelIndex) : Memory :=
  ((Memory.create (Bytes.replicate _ 0) none).pokeAll (Iocb.ofChannel i).base s.block).pokeAll
    0x0600 s.buffer

variable (s : Scene) (i : ChannelIndex)

theorem low_memory : (s.memory i).LowIsRam :=
  ((Memory.lowIsRam_create _ _).pokeAll _ _).pokeAll _ _

theorem peekAll_memory : (s.memory i).peekAll 0x0600 s.buffer.length = s.buffer := by
  have below : (0x0600 : UInt16).toNat + 0x1000 ≤ Memory.lowEnd := by decide
  have := s.fits
  exact ((Memory.lowIsRam_create _ _).pokeAll _ _).peekAll_pokeAll (by omega)

theorem peek_block {k : Nat} (lt : k < 16) :
    (s.memory i).peek ((Iocb.ofChannel i).base + UInt16.ofNat k) = s.block.getD k 0 := by
  have places : ∀ i, (Iocb.ofChannel i).base.toNat + 16 ≤ Memory.lowEnd ∧ ∀ k < 16,
      ((Iocb.ofChannel i).base + UInt16.ofNat k).toNat < Memory.lowEnd ∧
        0x1000 ≤ ((Iocb.ofChannel i).base + UInt16.ofNat k - 0x0600).toNat ∧
        ((Iocb.ofChannel i).base + UInt16.ofNat k - (Iocb.ofChannel i).base).toNat = k := by decide
  obtain ⟨base, fields⟩ := places i
  obtain ⟨low, beyond, field⟩ := fields k lt
  have below : (0x0600 : UInt16).toNat + 0x1000 ≤ Memory.lowEnd := by decide
  have created := Memory.lowIsRam_create (Bytes.replicate _ 0) none
  have size : s.block.length = 11 := rfl
  have fits := s.fits
  rw [memory, (created.pokeAll _ _).peek_pokeAll (by omega), List.getD_eq_getElem?_getD,
    List.getElem?_eq_none (by omega), Option.getD_none, created.peek_pokeAll (by omega), field,
    Memory.peek_create_of_low _ _ low]

theorem peekWord_block {k : Nat} (lt : k + 1 < 16) :
    (s.memory i).peekWord ((Iocb.ofChannel i).base + UInt16.ofNat k) =
      word (s.block.getD k 0) (s.block.getD (k + 1) 0) := by
  have next : (Iocb.ofChannel i).base + UInt16.ofNat k + 1 =
      (Iocb.ofChannel i).base + UInt16.ofNat (k + 1) := by
    rw [UInt16.ofNat_add, UInt16.add_assoc]
    rfl
  rw [Memory.peekWord, next, s.peek_block i (Nat.lt_of_succ_lt lt), s.peek_block i lt]

@[simp] theorem handlerId_memory : (Iocb.ofChannel i).handlerId (s.memory i) = s.id :=
  (congrArg _ (UInt16.add_zero _).symm).trans (s.peek_block i (k := 0) (by decide))

@[simp] theorem command_memory : (Iocb.ofChannel i).command (s.memory i) = s.command :=
  s.peek_block i (k := 2) (by decide)

@[simp] theorem bufferAddress_memory : (Iocb.ofChannel i).bufferAddress (s.memory i) = 0x0600 :=
  (s.peekWord_block i (k := 4) (by decide)).trans (by decide : word 0x00 0x06 = 0x0600)

@[simp] theorem bufferLength_memory : (Iocb.ofChannel i).bufferLength (s.memory i) = s.length :=
  (s.peekWord_block i (k := 8) (by decide)).trans (word_lowByte_highByte s.length)

@[simp] theorem mode_memory : (Iocb.ofChannel i).mode (s.memory i) = s.mode &&& 0x0F :=
  congrArg (· &&& 0x0F) (s.peek_block i (k := 10) (by decide))

theorem peekAll_buffer (size : s.length.toNat = s.buffer.length) :
    (s.memory i).peekAll ((Iocb.ofChannel i).bufferAddress (s.memory i))
      ((Iocb.ofChannel i).bufferLength (s.memory i)).toNat = s.buffer := by
  rw [bufferLength_memory, size, bufferAddress_memory, peekAll_memory]

theorem namesOwnDevice_memory {byte : UInt8} {bytes : List UInt8} (h : s.buffer = byte :: bytes) :
    (Iocb.ofChannel i).namesOwnDevice (s.memory i) = (byte == 0x48) := by
  have all := s.peekAll_memory i
  rw [h] at all
  rw [Iocb.namesOwnDevice, bufferAddress_memory, (List.cons.inj all).1]

theorem target_memory (h : s.buffer.length = 64) :
    (Iocb.ofChannel i).target (s.memory i) = Iocb.nameOf s.buffer := by
  rw [Iocb.target, bufferAddress_memory, Iocb.readText_eq, ← h, peekAll_memory]

theorem buffer_memory (small : s.length.toNat ≤ 0x1000) :
    ∀ k < ((Iocb.ofChannel i).bufferLength (s.memory i)).toNat,
      (s.memory i).accessAt
          ((Iocb.ofChannel i).bufferAddress (s.memory i) + UInt16.ofNat k) = .ram ∧
        ((Iocb.ofChannel i).bufferAddress (s.memory i) + UInt16.ofNat k).toNat / 256 ≠
          Iocb.page := by
  have start : (0x0600 : UInt16).toNat = 0x0600 := rfl
  have below : 0x1600 ≤ Memory.lowEnd := by decide
  rw [bufferLength_memory, bufferAddress_memory]
  intro k lt
  refine ⟨(s.low_memory i).accessAt_add (by omega), ?_⟩
  rw [UInt16.toNat_add, UInt16.toNat_ofNat', start, Iocb.page]
  omega

end Scene

end Atari800XL.FileDevice
