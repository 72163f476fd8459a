import Atari800XL.Proofs.Machine.Fittings
import Atari800XL.Proofs.Machine.InStep

namespace Atari800XL

open FileDevice

namespace Machine

variable {same : Prop} {ahead : Int} {m m' : Machine}

def level (m : Machine) : Float32 := m.board.pokey.sound.sampler.filter.state

def withLevel (m : Machine) (level : Float32) : Machine :=
  { m with board.pokey.sound.sampler.filter.state := level }

/-- What is outside of the machines is the same: how they are fitted out, their ROMs, their disks,
the files of the host, and the sticks, buttons, keys and paddles as the host holds them. -/
structure SameOutside (m m' : Machine) : Prop where
  setup : m.board.setup = m'.board.setup
  os : m.board.memory.os = m'.board.memory.os
  basic : m.board.memory.basic = m'.board.memory.basic
  rack : m.board.rack = m'.board.rack
  store : m.board.device.store = m'.board.device.store
  sticks : m.board.pia.sticks = m'.board.pia.sticks
  triggers : m.board.gtia.triggers = m'.board.gtia.triggers
  consoleKeys : m.board.gtia.consoleKeys = m'.board.gtia.consoleKeys
  paddles : m.board.pokey.paddles = m'.board.pokey.paddles

namespace InStep

theorem installHooks (h : m.InStep same ahead m') :
    m.installHooks.InStep same ahead m'.installHooks := by
  obtain ⟨cpu, board⟩ := m
  obtain ⟨cpu', board'⟩ := m'
  obtain ⟨rfl, h⟩ := h
  obtain ⟨frames, pokey⟩ := h
  unfold Machine.installHooks
  dsimp only
  split
  · exact ⟨rfl, .intro frames pokey⟩
  · exact ⟨rfl, .intro frames pokey⟩

theorem expectLine (h : m.InStep same ahead m') : m.expectLine.InStep same ahead m'.expectLine := by
  obtain ⟨cpu, board⟩ := m
  obtain ⟨cpu', board'⟩ := m'
  obtain ⟨rfl, h⟩ := h
  obtain ⟨frames, pokey⟩ := h
  exact ⟨rfl, .intro frames pokey⟩

end InStep

namespace SameOutside

variable (h : m.SameOutside m')
include h

theorem powered : m.powered = m'.powered := by
  have pins : m.board.pia.reset.portBPins = m'.board.pia.reset.portBPins := rfl
  rw [Machine.powered, Machine.powered, Memory.reset, Memory.reset, h.os, h.basic, pins]

variable (fit : m.board.fittings = m'.board.fittings) (level : same → m.level = m'.level)
include fit level

theorem board_powered (memory : Memory) :
    (m.board.powered memory).InStep same (m'.board.frames - m.board.frames)
      (m'.board.powered memory) := by
  have antic : m.board.antic.reset = m'.board.antic.reset := by
    have lines : m.board.antic.linesPerFrame = m'.board.antic.linesPerFrame :=
      congrArg Board.Fittings.linesPerFrame fit
    rw [Antic.reset, lines, Antic.reset]
  have gtia : { m.board.gtia.reset with cartridge := memory.basicMapped } =
      { m'.board.gtia.reset with cartridge := memory.basicMapped } := by
    have pal : m.board.gtia.pal = m'.board.gtia.pal := congrArg Board.Fittings.pal fit
    simp only [Gtia.reset, pal, h.triggers, h.consoleKeys]
  have pia : m.board.pia.reset = m'.board.pia.reset := by
    rw [Pia.reset, h.sticks, Pia.reset]
  have device : m.board.device.closeAll = m'.board.device.closeAll := by
    rw [closeAll, h.store, closeAll]
  have sound : (m.board.pokey.sound.reset 0).InStep same (m'.board.pokey.sound.reset 0) :=
    .reset (congrArg Board.Fittings.sound fit) level 0
  have pokey : (m.board.pokey.reset 0).InStep same (m'.board.pokey.reset 0) := by
    rw [Pokey.reset, Pokey.reset, h.paddles]
    exact .intro sound
  unfold Board.powered
  rw [h.setup, h.rack, antic, gtia, pia, device]
  refine .intro ?_ pokey
  dsimp only
  omega

theorem hardReset :
    m.hardReset.InStep same (m'.board.frames - m.board.frames) m'.hardReset := by
  have cleared : m.cleared.InStep same (m'.board.frames - m.board.frames) m'.cleared := by
    rw [cleared_eq, cleared_eq, h.powered]
    exact ⟨rfl, h.board_powered fit level m'.powered⟩
  have hooked : m.hooked.InStep same (m'.board.frames - m.board.frames) m'.hooked := by
    unfold hooked
    rw [cleared.board.setup]
    split
    · exact cleared.installHooks
    · exact cleared
  exact hooked.expectLine

end SameOutside

namespace InStep

variable (h : m.InStep same ahead m')
include h

theorem sameOutside : m.SameOutside m' := by
  obtain ⟨cpu, board⟩ := m
  obtain ⟨cpu', board'⟩ := m'
  obtain ⟨rfl, h⟩ := h
  obtain ⟨-, pokey⟩ := h
  cases pokey
  exact ⟨rfl, rfl, rfl, rfl, rfl, rfl, rfl, rfl, rfl⟩

theorem fittings : m.board.fittings = m'.board.fittings := by
  have sound := h.board.pokey.sound.fittings
  obtain ⟨cpu, board⟩ := m
  obtain ⟨cpu', board'⟩ := m'
  obtain ⟨rfl, h⟩ := h
  cases h
  exact congrArg (Board.Fittings.mk _ _ _) sound

theorem hardReset : m.hardReset.InStep same ahead m'.hardReset := by
  have counted := h.board.frames
  have ahead : ahead = m'.board.frames - m.board.frames := by omega
  rw [ahead]
  exact h.sameOutside.hardReset h.fittings h.board.pokey.sound.sampler.level

end InStep

def samples (m : Machine) : Op → List Float32
  | .call (.takeSamples n) => (m.takeSamples n).1
  | _ => []

def samplesOf (m : Machine) : List Op → List (List Float32)
  | [] => []
  | op :: ops => m.samples op :: (m.apply op).samplesOf ops

namespace InStep

theorem samples (h : m.InStep same ahead m') (op : Op) :
    (m.samples op).length = (m'.samples op).length ∧
      (same → m.samples op = m'.samples op) := by
  unfold Machine.samples
  split
  · rename_i n
    exact ⟨(h.takeSamples n).1, (h.takeSamples n).2.1⟩
  · exact ⟨rfl, fun _ => rfl⟩

theorem apply (h : m.InStep same ahead m') (hosted : m.Hosted) {op : Op} (room : m.HasRoom op) :
    (m.apply op).InStep same ahead (m'.apply op) := by
  cases op with
  | run cycles => exact h.run hosted room
  | runFrame =>
    rw [Machine.apply, Machine.apply, Machine.runFrame, Machine.runFrame, h.board.antic]
    exact h.runWhileFrame h.board.frames hosted room
  | call c => exact h.perform c
  | hardReset => exact h.hardReset

theorem applyAll {ops : List Op} (h : m.InStep same ahead m') (hosted : m.Hosted)
    (room : m.HasRoomFor ops) :
    (m.applyAll ops).InStep same ahead (m'.applyAll ops) ∧
      (m.samplesOf ops).map List.length = (m'.samplesOf ops).map List.length ∧
        (same → m.samplesOf ops = m'.samplesOf ops) := by
  induction ops generalizing m m' with
  | nil => exact ⟨h, rfl, fun _ => rfl⟩
  | cons op ops ih =>
    obtain ⟨length, now⟩ := h.samples op
    obtain ⟨after, lengths, later⟩ := ih (h.apply hosted room.1) (hosted.apply room.1) room.2
    refine ⟨after, ?_, fun holds => ?_⟩
    · rw [samplesOf, samplesOf, List.map_cons, List.map_cons, length, lengths]
    · rw [samplesOf, samplesOf, now holds, later holds]

end InStep

/-- A host cannot tell the machines apart, but by what they have told, by their sounds and by the
number of their pictures. -/
structure LooksLike (m m' : Machine) : Prop where
  cpu : m.cpu = m'.cpu
  memory : m.board.memory = m'.board.memory
  screen : m.board.screen = m'.board.screen
  schedule : m.board.schedule = m'.board.schedule
  rack : m.board.rack = m'.board.rack
  device : m.board.device = m'.board.device
  read : ∀ address, (m.board.read address).1 = (m'.board.read address).1

theorem InStep.looksLike (h : m.InStep same ahead m') : m.LooksLike m' := by
  have read (address : UInt16) := (h.board.read address).1
  obtain ⟨cpu, board⟩ := m
  obtain ⟨cpu', board'⟩ := m'
  obtain ⟨rfl, h⟩ := h
  cases h
  exact ⟨rfl, rfl, rfl, rfl, rfl, rfl, read⟩

/-- Two machines with the same surroundings that are reset look alike ever after, and take their
samples at the same time. The samples of the one are those of the other with the filter at the level
where it was. -/
theorem looksLike_of_hardReset (hosted : m.Hosted) (hosted' : m'.Hosted)
    (outside : m.SameOutside m') {ops : List Op} (room : m.hardReset.HasRoomFor ops) :
    (m.hardReset.applyAll ops).LooksLike (m'.hardReset.applyAll ops) ∧
      (m.hardReset.samplesOf ops).map List.length = (m'.hardReset.samplesOf ops).map List.length ∧
      m.hardReset.samplesOf ops = (m'.withLevel m.level).hardReset.samplesOf ops := by
  have fit : m.board.fittings = m'.board.fittings := by
    rw [hosted.fitted, hosted'.fitted, outside.setup]
  have alike := outside.hardReset fit fun level : m.level = m'.level => level
  obtain ⟨after, lengths, -⟩ := alike.applyAll (.hardReset hosted) room
  have outside' : m.SameOutside (m'.withLevel m.level) := { outside with }
  have level := outside'.hardReset fit fun _ : True => rfl
  obtain ⟨-, -, samples⟩ := level.applyAll (.hardReset hosted) room
  exact ⟨after.looksLike, lengths, samples trivial⟩

theorem sameOutside_keyDown (m : Machine) (key : UInt8) (shift control : Bool) :
    m.SameOutside (m.keyDown key shift control) := by
  have paddles (p : Pokey) (code : UInt8) : p.paddles = (p.keyDown code).2.paddles := by
    unfold Pokey.keyDown Pokey.raise
    split <;> rfl
  unfold keyDown
  dsimp only
  split <;> exact ⟨rfl, rfl, rfl, rfl, rfl, rfl, rfl, rfl, paddles (m.board.pokey.setShift shift) _⟩

theorem looksLike_of_hardReset_keyDown :
    let m := (assembled {} (Memory.create Session.blankOs none) {} {}).hardReset
    let m' := m.keyDown 0x41 false false
    let ops : List Op := [.run 1000, .call (.takeSamples 10), .hardReset, .run 1000]
    m.Hosted ∧ m'.Hosted ∧ m.SameOutside m' ∧ m.hardReset.HasRoomFor ops ∧
      (m.hardReset.applyAll ops).LooksLike (m'.hardReset.applyAll ops) ∧
      (m.hardReset.samplesOf ops).map List.length = (m'.hardReset.samplesOf ops).map List.length ∧
      m.hardReset.samplesOf ops = (m'.withLevel m.level).hardReset.samplesOf ops := by
  intro m m' ops
  have hosted : m.Hosted := .powerOn {} Session.blankOs none {} {}
  have hosted' : m'.Hosted := .call (.keyDown 0x41 false false) hosted
  have outside : m.SameOutside m' := m.sameOutside_keyDown 0x41 false false
  have room : m.hardReset.HasRoomFor ops :=
    ⟨hasRoom_hardReset _, trivial, trivial, hasRoom_hardReset _, trivial⟩
  exact ⟨hosted, hosted', outside, room, looksLike_of_hardReset hosted hosted' outside room⟩

end Machine

end Atari800XL
