import Atari800XL.Proofs.Machine.Beside

/-! Sound is not heard by the machine that makes it. Two machines whose sound settings differ, and
from which samples are taken at different times, read the same and become the same. -/

namespace Atari800XL

open FileDevice

namespace Machine

variable {m m' : Machine}

def silent (m : Machine) : Machine := { m with board := m.board.silent }

structure Alike (m m' : Machine) : Prop where
  cpu : m.cpu = m'.cpu
  board : Board.Alike m.cpu.total m.board m'.board

/-- What is left of a machine when its sound and the settings of it are left out. -/
def unheard (m : Machine) : Machine :=
  { m with board := { m.board with
      setup := m.board.setup.silent
      pokey := { m.board.pokey with sound := default } } }

namespace Alike

variable (h : m.Alike m')
include h

theorem symm : m'.Alike m := ⟨h.cpu.symm, h.cpu ▸ h.board.symm⟩

theorem silent_eq : m.silent = m'.silent := by
  rw [silent, silent, h.cpu, h.board.silent]

theorem unheard_eq : m.unheard = m'.unheard := by
  show m.silent.unheard = m'.silent.unheard
  rw [h.silent_eq]

end Alike

def Call.Mute (c : Call) : Prop := ∀ n, c ≠ .takeSamples n

theorem keyDown_silent (m : Machine) (key : UInt8) (shift control : Bool) :
    m.silent.keyDown key shift control = (m.keyDown key shift control).silent := by
  have down := Pokey.keyDown_silent (m.board.pokey.setShift shift)
    (Keyboard.scanCode key shift control)
  unfold keyDown
  dsimp only
  rw [show m.silent.board.pokey.setShift shift = (m.board.pokey.setShift shift).silent from rfl,
    down]
  split <;> rfl

theorem perform_silent (m : Machine) {c : Call} (mute : c.Mute) :
    m.silent.perform c = (m.perform c).silent := by
  cases c with
  | takeSamples n => exact absurd rfl (mute n)
  | keyDown key shift control => exact m.keyDown_silent key shift control
  | typeChar c =>
    simp only [perform, typeChar]
    cases Keyboard.keyFor c with
    | none => rfl
    | some key => exact m.keyDown_silent key.1 key.2 false
  | breakKey =>
    have down : m.silent.board.pokey.breakDown = _ := m.board.pokey.breakDown_silent
    simp only [perform, breakKey]
    rw [down]
    split <;> rfl
  | upload slot name data =>
    have rack : m.silent.board.rack = m.board.rack := rfl
    simp only [perform, upload, rack]
    cases m.board.rack.upload slot name data <;> rfl
  | mount slot device =>
    have rack : m.silent.board.rack = m.board.rack := rfl
    simp only [perform, mount, rack]
    cases m.board.rack.mount slot device <;> rfl
  | _ => rfl

theorem sound_keyDown (m : Machine) (key : UInt8) (shift control : Bool) :
    (m.keyDown key shift control).board.pokey.sound = m.board.pokey.sound := by
  have sound := Pokey.sound_keyDown (m.board.pokey.setShift shift)
    (Keyboard.scanCode key shift control)
  unfold keyDown
  dsimp only
  split <;> exact sound

theorem sound_perform (m : Machine) {c : Call} (mute : c.Mute) :
    (m.perform c).board.pokey.sound = m.board.pokey.sound := by
  cases c with
  | takeSamples n => exact absurd rfl (mute n)
  | keyDown key shift control => exact m.sound_keyDown key shift control
  | typeChar c =>
    simp only [perform, typeChar]
    cases Keyboard.keyFor c with
    | none => rfl
    | some key => exact m.sound_keyDown key.1 key.2 false
  | breakKey =>
    have sound := m.board.pokey.sound_raise Pokey.Source.breakKey
    simp only [perform, breakKey]
    split <;> exact sound
  | upload slot name data =>
    simp only [perform, upload]
    cases m.board.rack.upload slot name data <;> rfl
  | mount slot device =>
    simp only [perform, mount]
    cases m.board.rack.mount slot device <;> rfl
  | _ => rfl

theorem Alike.perform (h : m.Alike m') {c : Call} (mute : c.Mute) :
    (m.perform c).Alike (m'.perform c) := by
  have same : (m.perform c).silent = (m'.perform c).silent := by
    rw [← perform_silent m mute, h.silent_eq, perform_silent m' mute]
  have cpu := congrArg Machine.cpu same
  have board := congrArg Machine.board same
  refine ⟨cpu, board, ?_, ?_⟩
  · rw [total_perform]
    exact h.board.left.of_sound_eq (m.sound_perform mute)
  · rw [total_perform]
    exact h.board.right.of_sound_eq (m'.sound_perform mute)

theorem Alike.takeSamples (h : m.Alike m') (n : Nat) : (m.takeSamples n).2.Alike m' := by
  have caught : (m.board.pokey.catchUp m.cpu.total).sound.Tuned m.cpu.total :=
    h.board.left.catchUp m.board.pokey.settings
  refine ⟨h.cpu, ?_, ⟨caught.cyclic, caught.done_le⟩, h.board.right⟩
  rw [← h.board.silent]
  exact congrArg (fun pokey => { m.board with setup := m.board.setup.silent, pokey })
    (Pokey.silent_drain h.board.left.cyclic m.cpu.total n)

theorem cleared_silent (m : Machine) : m.silent.cleared.silent = m.cleared.silent := by
  have memory : m.silent.powered = m.powered := rfl
  rw [cleared_eq, cleared_eq, memory]
  simp only [silent, Board.powered_silent]

theorem installHooks_silent (m : Machine) : m.silent.installHooks = m.installHooks.silent := by
  have peek (address : UInt16) :
      m.silent.board.memory.peek address = m.board.memory.peek address := rfl
  unfold installHooks
  dsimp only
  rw [peek]
  split <;> rfl

theorem hooked_silent (m : Machine) : m.silent.hooked.silent = m.hooked.silent := by
  have fileDevice : m.silent.cleared.board.setup.fileDevice = m.cleared.board.setup.fileDevice :=
    rfl
  unfold hooked
  rw [fileDevice]
  split
  · rw [← installHooks_silent, cleared_silent, installHooks_silent]
  · exact m.cleared_silent

def expectLine (m : Machine) : Machine :=
  { m with
    board := { m.board with
      schedule := m.board.schedule.set .lineFetch (nextLineStart m.cpu.total)
      }.tell [.hardReset m.cpu.regs.pc] }

theorem expectLine_silent (m : Machine) : m.silent.expectLine = m.expectLine.silent := rfl

theorem hardReset_silent (m : Machine) : m.silent.hardReset.silent = m.hardReset.silent := by
  show m.silent.hooked.expectLine.silent = m.hooked.expectLine.silent
  rw [← expectLine_silent, hooked_silent, expectLine_silent]

theorem pokey_installHooks (m : Machine) : m.installHooks.board.pokey = m.board.pokey := by
  unfold installHooks
  dsimp only
  split <;> rfl

theorem pokey_hardReset (m : Machine) : m.hardReset.board.pokey = m.board.pokey.reset 0 := by
  have cleared : m.cleared.board.pokey = m.board.pokey.reset 0 := rfl
  show m.hooked.board.pokey = _
  unfold hooked
  split
  · rw [pokey_installHooks, cleared]
  · exact cleared

theorem Alike.hardReset (h : m.Alike m') : m.hardReset.Alike m'.hardReset := by
  have same : m.hardReset.silent = m'.hardReset.silent := by
    rw [← m.hardReset_silent, h.silent_eq, m'.hardReset_silent]
  have cpu := congrArg Machine.cpu same
  have board := congrArg Machine.board same
  refine ⟨cpu, board, ?_, ?_⟩
  · rw [Board.Tuned, pokey_hardReset]
    exact Pokey.tuned_reset _ UInt64.zero_le
  · rw [Board.Tuned, pokey_hardReset]
    exact Pokey.tuned_reset _ UInt64.zero_le

theorem alike_assembled (setup : Setup) (audio : Bool) (sampleRate : UInt32) (memory : Memory)
    (store : Files.Store) (flags : TraceFlags) :
    (assembled setup memory store flags).Alike
      (assembled { setup with audio, sampleRate } memory store flags) :=
  ⟨rfl, rfl, Pokey.Sound.tuned_create _ _ _, Pokey.Sound.tuned_create _ _ _⟩

def readsOfRun (m : Machine) (cycles : UInt64) : List (UInt16 × UInt8) :=
  (m.cpu.run ({ bus := m.board } : Tapped Board) (m.cpu.total + cycles)).2.reads

def readsWhileFrame (m : Machine) (frames : Nat) : Nat → List (UInt16 × UInt8)
  | 0 => []
  | lines + 1 =>
    if m.board.frames = frames then
      (m.run Display.cyclesPerLine).readsWhileFrame frames lines ++
        m.readsOfRun Display.cyclesPerLine
    else []

def readsOfReset (m : Machine) : List (UInt16 × UInt8) :=
  (({} : Cpu).reset ({ bus := m.powered } : Tapped Memory)).2.reads

theorem Alike.goes (h : m.Alike m') (hosted : m.Hosted) {cycles : UInt64}
    (room : m.cpu.total.toNat + cycles.toNat + longestCall + longestDelay < never.toNat) :
    ∃ (cpu : Cpu) (x y : Tapped Board),
      Tapped.Goes (Tapped.runTo (m.cpu.total + cycles)) m.cpu { bus := m.board } cpu x ∧
        Tapped.Goes (Tapped.runTo (m.cpu.total + cycles)) m.cpu { bus := m'.board } cpu y ∧
          Tapped.Alike cpu.total x y := by
  obtain ⟨s, reach, rfl⟩ := hosted.reachable
  obtain ⟨s', travels, -⟩ := reach.run cycles room
  obtain ⟨x, y, goes, goes', -, after⟩ :=
    Tapped.follow_travels travels reach (x := { bus := s.machine.board })
      (y := { bus := m'.board }) ⟨rfl, h.board, rfl⟩
  exact ⟨s'.cpu, x, y, goes, goes', after⟩

theorem run_of_goes {cpu : Cpu} {x : Tapped Board} {cycles : UInt64}
    (goes : Tapped.Goes (Tapped.runTo (m.cpu.total + cycles)) m.cpu
      { bus := m.board } cpu x) :
    m.run cycles = ⟨cpu, x.bus⟩ ∧ m.readsOfRun cycles = x.reads :=
  ⟨congrArg (fun run : Cpu × Board => Machine.mk run.1 run.2) goes.board,
    congrArg (fun run : Cpu × Tapped Board => run.2.reads) goes.tapped⟩

theorem Alike.run (h : m.Alike m') (hosted : m.Hosted) {cycles : UInt64}
    (room : m.cpu.total.toNat + cycles.toNat + longestCall + longestDelay < never.toNat) :
    (m.run cycles).Alike (m'.run cycles) ∧ m.readsOfRun cycles = m'.readsOfRun cycles := by
  obtain ⟨cpu, x, y, goes, goes', after⟩ := h.goes hosted room
  rw [h.cpu] at goes'
  obtain ⟨run, read⟩ := run_of_goes goes
  obtain ⟨run', read'⟩ := run_of_goes goes'
  rw [run, run', read, read']
  exact ⟨⟨rfl, after.board⟩, after.reads⟩

theorem Hosted.total_run (hosted : m.Hosted) {cycles : UInt64}
    (room : m.cpu.total.toNat + cycles.toNat + longestCall + longestDelay < never.toNat) :
    (m.run cycles).cpu.total.toNat ≤ m.cpu.total.toNat + cycles.toNat + longestCall := by
  obtain ⟨s, reach, rfl⟩ := hosted.reachable
  obtain ⟨s', -, run, -, total⟩ := reach.run cycles room
  rw [← run]
  exact total

theorem Alike.runWhileFrame (frames : Nat) {lines : Nat} (h : m.Alike m') (hosted : m.Hosted)
    (room : m.cpu.total.toNat + lines * (Display.cyclesPerLine.toNat + longestCall) +
      longestDelay < never.toNat) :
    (m.runWhileFrame frames lines).Alike (m'.runWhileFrame frames lines) ∧
      m.readsWhileFrame frames lines = m'.readsWhileFrame frames lines := by
  induction lines generalizing m m' with
  | zero => exact ⟨h, rfl⟩
  | succ lines ih =>
    have same : m.board.frames = m'.board.frames := Board.frames_eq h.board.silent
    rw [Nat.succ_mul] at room
    rw [Machine.runWhileFrame, Machine.runWhileFrame, readsWhileFrame, readsWhileFrame, same]
    split
    · have line : m.cpu.total.toNat + Display.cyclesPerLine.toNat + longestCall + longestDelay <
          never.toNat := by omega
      have total := hosted.total_run line
      obtain ⟨alike, read⟩ := h.run hosted line
      obtain ⟨alike, later⟩ := ih alike (.run _ hosted line) (by omega)
      exact ⟨alike, by rw [read, later]⟩
    · exact ⟨h, rfl⟩

theorem Alike.readsOfReset_eq (h : m.Alike m') : m.readsOfReset = m'.readsOfReset := by
  show m.silent.readsOfReset = m'.silent.readsOfReset
  rw [h.silent_eq]

inductive Op
  | run (cycles : UInt64)
  | runFrame
  | call (c : Call)
  | hardReset

def apply (m : Machine) : Op → Machine
  | .run cycles => m.run cycles
  | .runFrame => m.runFrame
  | .call c => m.perform c
  | .hardReset => m.hardReset

def reads (m : Machine) : Op → List (UInt16 × UInt8)
  | .run cycles => m.readsOfRun cycles
  | .runFrame => m.readsWhileFrame m.board.frames (2 * m.board.antic.linesPerFrame)
  | .call _ => []
  | .hardReset => m.readsOfReset

def HasRoom (m : Machine) : Op → Prop
  | .run cycles =>
    m.cpu.total.toNat + cycles.toNat + longestCall + longestDelay < never.toNat
  | .runFrame =>
    m.cpu.total.toNat + 2 * m.board.antic.linesPerFrame *
      (Display.cyclesPerLine.toNat + longestCall) + longestDelay < never.toNat
  | .call _ | .hardReset => True

def applyAll (m : Machine) (ops : List Op) : Machine := ops.foldl apply m

def readsOf (m : Machine) : List Op → List (UInt16 × UInt8)
  | [] => []
  | op :: ops => (m.apply op).readsOf ops ++ m.reads op

def HasRoomFor (m : Machine) : List Op → Prop
  | [] => True
  | op :: ops => m.HasRoom op ∧ (m.apply op).HasRoomFor ops

/-- The scripts differ in where samples are taken and in how many, and in nothing else. -/
inductive SameButSamples : List Op → List Op → Prop
  | nil : SameButSamples [] []
  | cons {ops ops' : List Op} (op : Op) : SameButSamples ops ops' →
      SameButSamples (op :: ops) (op :: ops')
  | left {ops ops' : List Op} (n : Nat) : SameButSamples ops ops' →
      SameButSamples (.call (.takeSamples n) :: ops) ops'
  | right {ops ops' : List Op} (n : Nat) : SameButSamples ops ops' →
      SameButSamples ops (.call (.takeSamples n) :: ops')

theorem Hosted.apply {op : Op} (hosted : m.Hosted) (room : m.HasRoom op) : (m.apply op).Hosted := by
  cases op with
  | run cycles => exact .run cycles hosted room
  | runFrame => exact .runFrame hosted room
  | call c => exact .call c hosted
  | hardReset => exact .hardReset hosted

theorem Alike.apply {op : Op} (h : m.Alike m') (hosted : m.Hosted) (room : m.HasRoom op) :
    (m.apply op).Alike (m'.apply op) ∧ m.reads op = m'.reads op := by
  cases op with
  | run cycles => exact h.run hosted room
  | runFrame =>
    have frames : m.board.frames = m'.board.frames := Board.frames_eq h.board.silent
    have antic : m.board.antic = m'.board.antic := Board.antic_eq h.board.silent
    have run := h.runWhileFrame m.board.frames hosted room
    simp only [Machine.apply, reads, runFrame, ← frames, ← antic]
    exact run
  | call c =>
    refine ⟨?_, rfl⟩
    by_cases samples : ∃ n, c = .takeSamples n
    · obtain ⟨n, rfl⟩ := samples
      exact ((h.takeSamples n).symm.takeSamples n).symm
    · exact h.perform (not_exists.1 samples)
  | hardReset => exact ⟨h.hardReset, h.readsOfReset_eq⟩

theorem Alike.applyAll {ops ops' : List Op} (same : SameButSamples ops ops') (h : m.Alike m')
    (hosted : m.Hosted) (room : m.HasRoomFor ops) :
    (m.applyAll ops).Alike (m'.applyAll ops') ∧ m.readsOf ops = m'.readsOf ops' := by
  induction same generalizing m m' with
  | nil => exact ⟨h, rfl⟩
  | cons op _ ih =>
    obtain ⟨alike, read⟩ := h.apply hosted room.1
    obtain ⟨alike, later⟩ := ih alike (hosted.apply room.1) room.2
    exact ⟨alike, by rw [readsOf, readsOf, read, later]⟩
  | left n _ ih =>
    obtain ⟨alike, later⟩ := ih (h.takeSamples n) (.call (.takeSamples n) hosted) room.2
    exact ⟨alike, (List.append_nil _).trans later⟩
  | right n _ ih =>
    obtain ⟨alike, later⟩ := ih (h.symm.takeSamples n).symm hosted room
    exact ⟨alike, later.trans (List.append_nil _).symm⟩

/-- Two machines that are fitted out alike but for their sound, and treated alike but for the samples
that are taken from them, read the same from when they are switched on, and are the same but for
their sound wherever the scripts end. -/
theorem unheard_applyAll_eq (setup : Setup) (audio : Bool) (sampleRate : UInt32)
    (os : Bytes RomKind.os.size) (basic : Option (Bytes RomKind.basic.size)) (store : Files.Store)
    (flags : TraceFlags) {ops ops' : List Op} (same : SameButSamples ops ops')
    (room : (assembled setup (Memory.create os basic) store flags).hardReset.HasRoomFor ops) :
    let m := assembled setup (Memory.create os basic) store flags
    let m' := assembled { setup with audio, sampleRate } (Memory.create os basic) store flags
    m.readsOf (.hardReset :: ops) = m'.readsOf (.hardReset :: ops') ∧
      (m.applyAll (.hardReset :: ops)).unheard = (m'.applyAll (.hardReset :: ops')).unheard := by
  have alike := alike_assembled setup audio sampleRate (Memory.create os basic) store flags
  have reset := alike.readsOfReset_eq
  obtain ⟨alike, read⟩ := alike.hardReset.applyAll same (.powerOn setup os basic store flags) room
  refine ⟨?_, alike.unheard_eq⟩
  rw [readsOf, readsOf]
  exact congr (congrArg HAppend.hAppend read) reset

theorem hasRoom_hardReset (m : Machine) : m.hardReset.HasRoom (.run 1000) := by
  show m.hardReset.cpu.total.toNat + _ + _ + _ < _
  rw [total_hardReset]
  decide

theorem unheard_applyAll_eq_reset :
    let ops : List Op := [.run 1000, .call (.takeSamples 10), .hardReset, .run 1000]
    let ops' : List Op := [.call (.takeSamples 3), .run 1000, .hardReset, .run 1000]
    let m := assembled {} (Memory.create Session.blankOs none) {} {}
    let m' := assembled { audio := false, sampleRate := 8000 }
      (Memory.create Session.blankOs none) {} {}
    SameButSamples ops ops' ∧ m.hardReset.HasRoomFor ops ∧
      m.readsOf (.hardReset :: ops) = m'.readsOf (.hardReset :: ops') ∧
        (m.applyAll (.hardReset :: ops)).unheard =
          (m'.applyAll (.hardReset :: ops')).unheard := by
  intro ops ops' m m'
  have same : SameButSamples ops ops' :=
    .right 3 (.cons (.run 1000) (.left 10 (.cons .hardReset (.cons (.run 1000) .nil))))
  have room : m.hardReset.HasRoomFor ops :=
    ⟨hasRoom_hardReset _, trivial, trivial, hasRoom_hardReset _, trivial⟩
  exact ⟨same, room, unheard_applyAll_eq {} false 8000 Session.blankOs none {} {} same room⟩

end Machine

end Atari800XL
