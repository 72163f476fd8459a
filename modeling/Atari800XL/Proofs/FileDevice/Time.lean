import Atari800XL.FileDevice.Basic

namespace Atari800XL.FileDevice

def mostBytes : Nat := 0x10000

theorem one_le_mostBytes : 1 ≤ mostBytes := by decide

theorem length_lt (b : Iocb) (m : Memory) : (b.bufferLength m).toNat < mostBytes :=
  (b.bufferLength m).toNat_lt

namespace Channel

theorem size_extract_le (content : ByteArray) (i n : Nat) :
    (content.extract i (i + n)).size ≤ n := by
  rw [ByteArray.size_extract]
  omega

theorem size_getBytes_le (c : Channel) (count : Nat) : (c.getBytes count).1.bytes.size ≤ count := by
  have size := size_extract_le c.content c.position (min count c.remaining)
  exact Nat.le_trans size (Nat.min_le_left _ _)

theorem size_getRecord_le (c : Channel) (max : Nat) : (c.getRecord max).1.bytes.size ≤ max := by
  unfold getRecord
  dsimp only
  split
  · exact Nat.le_trans (size_extract_le _ _ _) (Nat.min_le_right _ _)
  · dsimp only
    split
    · exact Nat.zero_le max
    · split
      · have size := size_extract_le c.content c.position c.remaining
        rw [ByteArray.size_push]
        omega
      · exact size_extract_le _ _ _

end Channel

section

variable (d : FileDevice) (m : Memory) (i : ChannelIndex) (c : Channel)

theorem transferred_opening : (d.opening m i).transferred = 0 := by
  unfold opening
  dsimp only
  split
  · rfl
  · split <;> rfl

theorem transferred_getRecord_le : (d.getRecord m i c).transferred ≤ mostBytes := by
  unfold getRecord
  dsimp only
  split
  · exact Nat.zero_le _
  · exact Nat.le_trans (c.size_getRecord_le _) (Nat.le_of_lt (length_lt _ m))

theorem transferred_getBytes_le : (d.getBytes m i c).transferred ≤ mostBytes := by
  unfold getBytes
  dsimp only
  split
  · exact Nat.zero_le _
  · split
    · split
      · exact Nat.zero_le _
      · exact one_le_mostBytes
    · exact Nat.le_trans (c.size_getBytes_le _) (Nat.le_of_lt (length_lt _ m))

theorem written_putFrom_le (record : Bool) (address : UInt16) (written n : Nat) :
    (putFrom m record c address written n).2.1 ≤ written + n := by
  induction n generalizing c address written with
  | zero => exact Nat.le_refl _
  | succ n ih =>
    unfold putFrom
    dsimp only
    split
    · exact Nat.add_le_add_left (Nat.le_add_left 1 n) written
    · have rest := ih (c.put (m.peek address)) (address + 1) (written + 1)
      omega

theorem transferred_putData_le (a : UInt8) (record : Bool) :
    (d.putData m i c a record).transferred ≤ mostBytes := by
  unfold putData
  dsimp only
  split
  · exact Nat.zero_le _
  · split
    · exact one_le_mostBytes
    · have length := length_lt (Iocb.ofChannel i) m
      have written := written_putFrom_le m c record ((Iocb.ofChannel i).bufferAddress m) 0
        ((Iocb.ofChannel i).bufferLength m).toNat
      generalize putFrom m record c _ 0 _ = put at written ⊢
      obtain ⟨c, count, ended⟩ := put
      dsimp only at written ⊢
      split
      · dsimp only
        omega
      · dsimp only
        omega

theorem transferred_point : (d.point m i c).transferred = 0 := by
  unfold point
  split
  · rfl
  · split <;> rfl

theorem transferred_note : (d.note m i c).transferred = 0 := by
  unfold note
  split <;> rfl

theorem transferred_onTarget (f : List Char → Status × Files.Store) :
    (d.onTarget m i f).transferred = 0 := by
  unfold onTarget
  split <;> rfl

theorem transferred_carryOut_le (a : UInt8) (command : Command) :
    (d.carryOut m i a command).transferred ≤ mostBytes := by
  have still {n : Nat} (h : n = 0) : n ≤ mostBytes := h ▸ Nat.zero_le _
  unfold carryOut
  split
  · rename_i c _
    cases command with
    | opening => exact still (d.transferred_opening m i)
    | getRecord => exact d.transferred_getRecord_le m i c
    | getBytes => exact d.transferred_getBytes_le m i c
    | putRecord => exact d.transferred_putData_le m i c a true
    | putBytes => exact d.transferred_putData_le m i c a false
    | point => exact still (d.transferred_point m i c)
    | note => exact still (d.transferred_note m i c)
    | file command => exact still (d.transferred_onTarget m i _)
    | _ => exact Nat.zero_le _
  · split
    · exact still (d.transferred_opening m i)
    · exact still (d.transferred_onTarget m i _)
    · exact still (d.transferred_onTarget m i _)

end

def longestCall : Nat := callCycles.toNat + mostBytes * byteCycles.toNat

structure Called.Timed (cpu : Cpu) (called : Called) : Prop where
  taken : called.handled = true →
    ∃ c : UInt64, called.cpu.total = cpu.total + c ∧ 0 < c.toNat ∧ c.toNat ≤ longestCall
  left : called.handled = false → called.cpu = cpu

variable (cpu : Cpu)

theorem timed_finish (i : ChannelIndex) {r : Reply} (h : r.transferred ≤ mostBytes) :
    (finish cpu i r).Timed cpu where
  taken _ := by
    have product : r.transferred * byteCycles.toNat ≤ mostBytes * byteCycles.toNat :=
      Nat.mul_le_mul_right _ h
    have bytes : (UInt64.ofNat r.transferred * byteCycles).toNat =
        r.transferred * byteCycles.toNat := by
      have few : r.transferred < UInt64.size := Nat.lt_of_le_of_lt h (by decide)
      rw [UInt64.toNat_mul, UInt64.toNat_ofNat_of_lt' few]
      exact Nat.mod_eq_of_lt (Nat.lt_of_le_of_lt product (by decide))
    have cost : (callCycles + UInt64.ofNat r.transferred * byteCycles).toNat =
        callCycles.toNat + r.transferred * byteCycles.toNat := by
      rw [UInt64.toNat_add, bytes]
      exact Nat.mod_eq_of_lt (Nat.lt_of_le_of_lt (Nat.add_le_add_left product _) (by decide))
    refine ⟨_, rfl, ?_, ?_⟩
    · rw [cost]
      exact Nat.lt_of_lt_of_le (by decide) (Nat.le_add_right _ _)
    · rw [cost]
      exact Nat.add_le_add_left product _
  left handled := by cases handled

theorem timed_left (d : FileDevice) (m : Memory) :
    Called.Timed cpu { handled := false, device := d, memory := m, cpu } where
  taken handled := by cases handled
  left _ := rfl

theorem timed_call (d : FileDevice) (m : Memory) : (d.call cpu m).Timed cpu := by
  unfold call
  split
  · exact timed_left cpu d m
  · dsimp only
    split
    · exact timed_finish cpu _ (d.transferred_carryOut_le m _ _ _)
    · exact timed_left cpu d m

theorem timed_putByte (d : FileDevice) (m : Memory) : (d.putByte cpu m).Timed cpu := by
  unfold putByte
  dsimp only
  split
  · exact timed_finish cpu _ (Nat.zero_le _)
  · split
    · exact timed_finish cpu _ (Nat.zero_le _)
    · exact timed_finish cpu _ one_le_mostBytes

end Atari800XL.FileDevice
