import Atari800XL.FileDevice.Basic
import Atari800XL.Proofs.Bytes
import Atari800XL.Proofs.Memory.Low

namespace Atari800XL.FileDevice

open Memory

theorem pokes_foldl {σ : Type} {f : Memory × σ → UInt8 → Memory × σ}
    (one : ∀ (x : Memory × σ) byte, x.1.Pokes (f x byte).1) (list : List UInt8) (x : Memory × σ) :
    x.1.Pokes (list.foldl f x).1 := by
  induction list generalizing x with
  | nil => exact .refl
  | cons byte list ih => exact (one x byte).trans (ih (f x byte))

section

variable (b : Iocb) (m : Memory)

theorem pokes_deliver (bytes : ByteArray) : m.Pokes (b.deliver m bytes) := by
  rw [Iocb.deliver, Iocb.setBufferLength, foldl_eq_foldl_toList]
  exact .poke _ _ (.poke _ _ (pokes_foldl (fun _ _ => .poke _ _ .refl) _ (m, _)))

theorem pokes_claim (unit : UInt8) : m.Pokes (b.claim m unit) :=
  .poke _ _ (.poke _ _ (.poke _ _ (.poke _ _ .refl)))

theorem pokes_setOffset (offset : Nat) : m.Pokes (b.setOffset m offset) :=
  .poke _ _ (.poke _ _ (.poke _ _ .refl))

end

variable (d : FileDevice) (m : Memory) (i : ChannelIndex) (c : Channel)

theorem pokes_opening : m.Pokes (d.opening m i).memory := by
  unfold opening
  dsimp only
  split
  · exact .refl
  · split
    · exact .refl
    · exact pokes_claim _ m _

theorem pokes_getRecord : m.Pokes (d.getRecord m i c).memory := by
  unfold getRecord
  dsimp only
  split
  · exact .refl
  · generalize c.getRecord _ = got
    exact pokes_deliver _ m _

theorem pokes_getBytes : m.Pokes (d.getBytes m i c).memory := by
  unfold getBytes
  dsimp only
  split
  · exact .refl
  · split
    · split <;> exact .refl
    · generalize c.getBytes _ = got
      exact pokes_deliver _ m _

theorem pokes_putData (a : UInt8) (record : Bool) : m.Pokes (d.putData m i c a record).memory := by
  unfold putData
  dsimp only
  split
  · exact .refl
  · split <;> exact .refl

theorem pokes_point : m.Pokes (d.point m i c).memory := by
  unfold point
  split
  · exact .refl
  · split <;> exact .refl

theorem pokes_note : m.Pokes (d.note m i c).memory := by
  unfold note
  split
  · exact .refl
  · exact pokes_setOffset _ m _

theorem pokes_onTarget (f : List Char → Status × Files.Store) :
    m.Pokes (d.onTarget m i f).memory := by
  unfold onTarget
  split <;> exact .refl

theorem pokes_carryOut (a : UInt8) (command : Command) :
    m.Pokes (d.carryOut m i a command).memory := by
  unfold carryOut
  split
  · rename_i c _
    cases command with
    | opening => exact pokes_opening d m i
    | close => exact .poke _ _ .refl
    | getRecord => exact pokes_getRecord d m i c
    | getBytes => exact pokes_getBytes d m i c
    | putRecord => exact pokes_putData d m i c a true
    | putBytes => exact pokes_putData d m i c a false
    | status => exact .refl
    | point => exact pokes_point d m i c
    | note => exact pokes_note d m i c
    | file command => exact pokes_onTarget d m i _
    | unknown => exact .refl
  · split
    · exact pokes_opening d m i
    · exact pokes_onTarget d m i _
    · exact pokes_onTarget d m i _

theorem pokes_finish {m : Memory} (cpu : Cpu) {r : Reply} (h : m.Pokes r.memory) :
    m.Pokes (finish cpu i r).memory :=
  .poke _ _ h

theorem pokes_call (cpu : Cpu) : m.Pokes (d.call cpu m).memory := by
  unfold call
  split
  · exact .refl
  · dsimp only
    split
    · exact pokes_finish _ cpu (pokes_carryOut d m _ _ _)
    · exact .refl

theorem pokes_putByte (cpu : Cpu) : m.Pokes (d.putByte cpu m).memory := by
  unfold putByte
  dsimp only
  split
  · exact pokes_finish _ cpu .refl
  · split
    · exact pokes_finish _ cpu .refl
    · exact pokes_finish _ cpu .refl

end Atari800XL.FileDevice
