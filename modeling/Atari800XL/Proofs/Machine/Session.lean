import Atari800XL.Machine.Basic
import Atari800XL.Proofs.Machine.Observed

namespace Atari800XL

namespace Machine

inductive Call
  | takeSamples (n : Nat)
  | takeNotices
  | keyDown (key : UInt8) (shift control : Bool)
  | typeChar (c : Char)
  | keyUp
  | breakKey
  | setConsole (start select option : Bool)
  | setJoystick (port : Nat) (directions : UInt8) (fire : Bool)
  | setPaddle (n : Nat) (position : UInt8)
  | upload (slot : Nat) (name : String) (data : ByteArray)
  | mount (slot device : Nat)
  | unmount (device : Nat)

def perform (m : Machine) : Call → Machine
  | .takeSamples n => (m.takeSamples n).2
  | .takeNotices => m.takeNotices.2
  | .keyDown key shift control => m.keyDown key shift control
  | .typeChar c => (m.typeChar c).2
  | .keyUp => m.keyUp
  | .breakKey => m.breakKey
  | .setConsole start select option => m.setConsole start select option
  | .setJoystick port directions fire => m.setJoystick port directions fire
  | .setPaddle n position => m.setPaddle n position
  | .upload slot name data =>
    match m.upload slot name data with
    | .ok (_, m, _) => m
    | .error _ => m
  | .mount slot device =>
    match m.mount slot device with
    | .ok (m, _) => m
    | .error _ => m
  | .unmount device => m.unmount device

end Machine

/-- The longest time that a chip adds to the clock: the period of a joined pair of dividers. -/
def longestDelay : Nat := 0x10000 * Display.cyclesPerLine.toNat

/-- No delay carries a deadline past the end of time. -/
def Fits (cycle : UInt64) : Prop := cycle.toNat + longestDelay < never.toNat

instance (cycle : UInt64) : Decidable (Fits cycle) := inferInstanceAs (Decidable (_ < _))

theorem Fits.mono {a b : UInt64} (h : Fits b) (hab : a ≤ b) : Fits a :=
  Nat.lt_of_le_of_lt (Nat.add_le_add_right (UInt64.le_iff_toNat_le.1 hab) _) h

theorem Fits.add {cycle delay : UInt64} (h : Fits cycle) (short : delay.toNat ≤ longestDelay) :
    (cycle + delay).toNat = cycle.toNat + delay.toNat ∧ cycle + delay ≠ never := by
  have sum : cycle.toNat + delay.toNat < never.toNat :=
    Nat.lt_of_le_of_lt (Nat.add_le_add_left short _) h
  have exact : (cycle + delay).toNat = cycle.toNat + delay.toNat := by
    rw [UInt64.toNat_add]
    exact Nat.mod_eq_of_lt (Nat.lt_trans sum (by decide))
  refine ⟨exact, ?_⟩
  intro same
  rw [same] at exact
  exact absurd exact (Nat.ne_of_gt sum)

/-- A machine and what has happened to it since it was switched on. -/
structure Session where
  cpu : Cpu
  observed : Observed

namespace Session

def machine (s : Session) : Machine := ⟨s.cpu, s.observed.board⟩

def fresh (m : Machine) : Session := ⟨m.hardReset.cpu, { board := m.hardReset.board }⟩

def handle (s : Session) (event : Event) (deadline : UInt64) : Session :=
  let (cpu, observed) := s.observed.handle s.cpu event deadline
  { cpu, observed }

def move (s : Session) (target : UInt64) : Session :=
  let (cpu, observed) := s.cpu.move s.observed target
  { cpu, observed }

def call (s : Session) (c : Machine.Call) : Session :=
  let m := s.machine.perform c
  { cpu := m.cpu, observed := { s.observed with board := m.board } }

def due (s : Session) : Option (Event × UInt64) := s.observed.board.schedule.due s.cpu.total

inductive Step (s : Session) : Session → Prop
  | handle {event : Event} {deadline : UInt64} : Fits s.cpu.total →
      s.due = some (event, deadline) → Step s (s.handle event deadline)
  | move {target : UInt64} : Fits s.cpu.total → s.cpu.total < target → s.due = none →
      Step s (s.move target)
  | call (c : Machine.Call) : Step s (s.call c)
  | hardReset : Step s (fresh s.machine)

/-- The states of a machine that is switched on for the first time and then run and called. -/
inductive Reachable : Session → Prop
  | powerOn (setup : Setup) (os : Bytes RomKind.os.size) (basic : Option (Bytes RomKind.basic.size))
      (store : Files.Store) (flags : TraceFlags) :
      Reachable (fresh (Machine.assembled setup (Memory.create os basic) store flags))
  | step {s s' : Session} : Reachable s → Step s s' → Reachable s'

def blankOs : Bytes RomKind.os.size := Bytes.replicate _ 0

def blankMachine : Machine := Machine.assembled {} (Memory.create blankOs none) {} {}

theorem reachable_blank : (fresh blankMachine).Reachable := .powerOn {} blankOs none {} {}

end Session

end Atari800XL
