import Atari800XL.Proofs.FileDevice.Block

namespace Atari800XL.FileDevice

/-- Without a channel the command goes by the letter at the buffer address. -/
def Command.goesByName : Command → Bool
  | .status | .file _ => true
  | _ => false

/-- The call is left to the operating system, with all as it was. -/
structure Called.LeftAlone (c : Called) (d : FileDevice) (cpu : Cpu) (m : Memory) : Prop where
  handled : c.handled = false
  device : c.device = d
  memory : c.memory = m
  cpu : c.cpu = cpu

variable {d : FileDevice} {cpu : Cpu} {m : Memory} {i : ChannelIndex} {command : Command}

theorem claims_eq_true_of_channel {c : Channel} (recorded : d.channel i = some c)
    (other : command ≠ .opening) : d.claims m i command = true := by
  cases command with
  | opening => exact absurd rfl other
  | _ => simp only [claims, recorded]

theorem claims_eq_of_vacant (vacant : d.channel i = none) (other : command ≠ .opening) :
    d.claims m i command = (command.goesByName && (Iocb.ofChannel i).namesOwnDevice m) := by
  cases command with
  | opening => exact absurd rfl other
  | _ => simp only [claims, vacant, Command.goesByName, Bool.true_and, Bool.false_and]

theorem claims_eq_false_iff (other : command ≠ .opening) :
    d.claims m i command = false ↔
      d.channel i = none ∧
        (command.goesByName = true → (Iocb.ofChannel i).namesOwnDevice m = false) := by
  cases recorded : d.channel i with
  | some c => simp [claims_eq_true_of_channel recorded other]
  | none => simp [claims_eq_of_vacant recorded other]

theorem call_of_claims (channel : channelOf? cpu.regs.x = some i)
    (claimed : d.claims m i (.ofByte ((Iocb.ofChannel i).command m)) = true) :
    (d.call cpu m).handled = true := by
  rw [call, channel]
  simp only [claimed, if_true]
  rfl

theorem call_of_not_claims (channel : channelOf? cpu.regs.x = some i)
    (left : d.claims m i (.ofByte ((Iocb.ofChannel i).command m)) = false) :
    (d.call cpu m).LeftAlone d cpu m := by
  rw [call, channel]
  simp only [left, Bool.false_eq_true, if_false]
  exact ⟨rfl, rfl, rfl, rfl⟩

/-- A call other than to open is left alone, with all as it was, if no channel is recorded for its
control block and the letter at its buffer address is not the device's or does not matter to the
command; and in no other case, whatever handler the control block names. -/
theorem leftAlone_call_iff (d : FileDevice) (cpu : Cpu) (m : Memory) (i : ChannelIndex)
    (x : cpu.regs.x = 16 * UInt8.ofNat i.val)
    (other : Command.ofByte ((Iocb.ofChannel i).command m) ≠ .opening) :
    (d.call cpu m).LeftAlone d cpu m ↔
      d.channel i = none ∧
        ((Command.ofByte ((Iocb.ofChannel i).command m)).goesByName = true →
          (Iocb.ofChannel i).namesOwnDevice m = false) := by
  have channel := channelOf?_eq_some_iff.2 x
  rw [← claims_eq_false_iff other]
  constructor
  · intro left
    cases claimed : d.claims m i (.ofByte ((Iocb.ofChannel i).command m)) with
    | false => rfl
    | true =>
      have taken := call_of_claims channel claimed
      rw [left.handled] at taken
      cases taken
  · exact call_of_not_claims channel

theorem leftAlone_call_status :
    let scene : Scene := { id := 0x01, command := 0x0D, buffer := [0x44, 0x3A] }
    let m := scene.memory Scene.channel
    let cpu : Cpu := { regs := { x := 16 } }
    (Iocb.ofChannel Scene.channel).handlerId m = 0x01 ∧
      Command.ofByte ((Iocb.ofChannel Scene.channel).command m) = .status ∧
      (FileDevice.call {} cpu m).LeftAlone {} cpu m := by
  intro scene m cpu
  have status : Command.ofByte ((Iocb.ofChannel Scene.channel).command m) = .status := by
    rw [scene.command_memory]
    rfl
  have other : Command.ofByte ((Iocb.ofChannel Scene.channel).command m) ≠ .opening := by
    rw [status]
    exact nofun
  have letter : (Iocb.ofChannel Scene.channel).namesOwnDevice m = false :=
    scene.namesOwnDevice_memory Scene.channel rfl
  exact ⟨scene.handlerId_memory Scene.channel, status,
    (leftAlone_call_iff {} cpu m Scene.channel rfl other).2 ⟨rfl, fun _ => letter⟩⟩

theorem handled_call_stale :
    let scene : Scene := { id := 0x01, command := 0x07, length := 3 }
    let m := scene.memory Scene.channel
    let stale : Channel := { name := "A.BIN", mode := .read, content := ⟨#[0x78, 0x79, 0x7A]⟩ }
    let cpu : Cpu := { regs := { x := 16 } }
    (Iocb.ofChannel Scene.channel).handlerId m = 0x01 ∧
      ((FileDevice.setChannel {} Scene.channel (some stale)).call cpu m).handled = true := by
  intro scene m stale cpu
  have channel : channelOf? cpu.regs.x = some Scene.channel := channelOf?_eq_some_iff.2 rfl
  have other : Command.ofByte ((Iocb.ofChannel Scene.channel).command m) ≠ .opening := by
    rw [scene.command_memory]
    exact nofun
  exact ⟨scene.handlerId_memory Scene.channel,
    call_of_claims channel (claims_eq_true_of_channel (c := stale) rfl other)⟩

end Atari800XL.FileDevice
