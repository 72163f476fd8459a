import Atari800XL.Disk.Sio

namespace Atari800XL.Disk

namespace Reply

def maxDelay : UInt64 := ackDelay

def Timed (r : Reply) : Prop := 0 < r.delay ∧ r.delay ≤ maxDelay

instance (r : Reply) : Decidable r.Timed := inferInstanceAs (Decidable (_ ∧ _))

theorem timed_ack : ack.Timed := by decide
theorem timed_nak : nak.Timed := by decide
theorem timed_complete : complete.Timed := by decide
theorem timed_error : error.Timed := by decide

theorem timed_frame (payload : ByteArray) : ∀ r ∈ frame payload, r.Timed := by
  have timed : 0 < byteDelay ∧ byteDelay ≤ maxDelay := by decide
  intro r hr
  obtain ⟨byte, -, rfl⟩ := List.mem_map.1 hr
  exact timed

end Reply

namespace Sio

inductive Form : List Reply → Prop
  | refused : Form [.nak]
  | accepted : Form [.ack]
  | completed : Form [.ack, .complete]
  | failed : Form [.ack, .error]
  | delivered (payload : ByteArray) : Form (.ack :: .complete :: Reply.frame payload)

def WellTimed (replies : List Reply) : Prop := replies ≠ [] ∧ ∀ r ∈ replies, r.Timed

theorem Form.wellTimed {replies : List Reply} (h : Form replies) : WellTimed replies := by
  cases h with
  | refused => exact ⟨by simp, by simpa using Reply.timed_nak⟩
  | accepted => exact ⟨by simp, by simpa using Reply.timed_ack⟩
  | completed => exact ⟨by simp, by simpa using ⟨Reply.timed_ack, Reply.timed_complete⟩⟩
  | failed => exact ⟨by simp, by simpa using ⟨Reply.timed_ack, Reply.timed_error⟩⟩
  | delivered payload =>
    exact ⟨by simp, List.forall_mem_cons.2 ⟨Reply.timed_ack,
      List.forall_mem_cons.2 ⟨Reply.timed_complete, Reply.timed_frame payload⟩⟩⟩

theorem form_answer (image : Image) (device : Nat) (command : Option Command) (sector : UInt16) :
    Form (answer image device command sector).replies := by
  unfold answer
  split
  · exact .refused
  · split
    · exact .refused
    · exact .delivered _
  · exact .delivered _
  · split
    · exact .refused
    · exact .accepted
  · split
    · exact .failed
    · exact .delivered _
  · exact .accepted

structure Answers (s : Sio) (step : Step) : Prop where
  renewed : step.renewed = true → Form step.sio.replies
  kept : step.renewed = false → step.sio.replies = s.replies

variable (s : Sio) (rack : Rack)

theorem answers_finishCommand (frame : ByteArray) : s.Answers (s.finishCommand rack frame) := by
  unfold finishCommand
  dsimp only
  split
  · exact ⟨nofun, fun _ => rfl⟩
  · split
    · exact ⟨fun _ => .refused, nofun⟩
    · exact ⟨fun _ => form_answer _ _ _ _, nofun⟩

theorem answers_finishData (p : Pending) (frame : ByteArray) :
    s.Answers (s.finishData rack p frame) := by
  unfold finishData
  dsimp only
  split
  · exact ⟨fun _ => .refused, nofun⟩
  · split
    · exact ⟨fun _ => .refused, nofun⟩
    · refine ⟨fun _ => ?_, nofun⟩
      split
      · exact .completed
      · exact .failed

theorem answers_putByte (byte : UInt8) : s.Answers (s.putByte rack byte) := by
  unfold putByte
  split
  · split
    · dsimp only
      split
      · exact answers_finishCommand s rack _
      · exact ⟨nofun, fun _ => rfl⟩
    · exact ⟨nofun, fun _ => rfl⟩
  · dsimp only
    split
    · exact answers_finishData s rack _ _
    · exact ⟨nofun, fun _ => rfl⟩

theorem replies_setCommandLine (asserted : Bool) :
    (s.setCommandLine asserted).replies = s.replies := by
  unfold setCommandLine
  split <;> rfl

end Sio

end Atari800XL.Disk
