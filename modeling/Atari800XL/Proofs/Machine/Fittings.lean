import Atari800XL.Proofs.Gtia.Composition
import Atari800XL.Proofs.Machine.Running
import Atari800XL.Proofs.Machine.Tapped
import Atari800XL.Proofs.Pokey.InStep
import Atari800XL.Proofs.Pokey.Silence

namespace Atari800XL

open Function

namespace Pokey

theorem Sampler.fittings_emit (s : Sampler) : s.emit.fittings = s.fittings := by
  have capacity (level : Float32) : (s.queue.push level).capacity = s.queue.capacity := by
    unfold Ring.push
    dsimp only
    split
    · rfl
    · exact Array.size_setIfInBounds
  exact congrArg (Fittings.mk s.nominalStep s.filter.alpha) (capacity _)

theorem Sampler.fittings_add (s : Sampler) (level : UInt32) :
    (s.add level).fittings = s.fittings := by
  obtain ⟨nominalStep, step, phase, sum, count, filter, queue⟩ := s
  unfold Sampler.add
  dsimp only
  split
  · rw [fittings_emit, fittings, fittings]
  · rw [fittings, fittings]

namespace Sound

theorem fittings_play (n : Nat) (settings : Settings) (g : Generator) (out : Sampler) :
    (play n settings g out).2.fittings = out.fittings := by
  induction n generalizing g out with
  | zero => rfl
  | succ n ih => exact (ih (g.step settings) _).trans (out.fittings_add _)

theorem fittings_catchUp (s : Sound) (now : UInt64) (settings : Settings) :
    (s.catchUp now settings).fittings = s.fittings := by
  unfold catchUp
  split
  · rfl
  · dsimp only
    split
    · rfl
    · split
      · exact congrArg (Fittings.mk s.enabled) (fittings_play _ _ _ _)
      · rfl

end Sound

variable (p : Pokey)

theorem fittings_read (register : UInt8) (now : UInt64) :
    (p.read register now).2.sound.fittings = p.sound.fittings := by
  unfold read
  dsimp only
  split
  case h_3 =>
    split
    · rfl
    · exact p.sound.fittings_catchUp now p.settings
  all_goals rfl

theorem fittings_write (register value : UInt8) (now : UInt64) (s : Schedule) :
    (p.write register value now s).1.sound.fittings = p.sound.fittings := by
  have caught : (p.catchUp now).sound.fittings = p.sound.fittings :=
    p.sound.fittings_catchUp now p.settings
  rw [← caught]
  unfold write setSerialControl
  dsimp only
  generalize p.catchUp now = p
  split
  case h_15 =>
    split
    · rfl
    · split <;> rfl
  all_goals rfl

theorem fittings_reset (now : UInt64) : (p.reset now).sound.fittings = p.sound.fittings := by
  rw [Sound.fittings, Sound.fittings, Sampler.fittings, Sampler.fittings]
  rfl

end Pokey

namespace Antic

variable (a : Antic)

theorem linesPerFrame_write (register value : UInt8) (s : Schedule) :
    (a.write register value s).1.linesPerFrame = a.linesPerFrame := by
  unfold write
  split <;> rfl

theorem gtia_followList (s : LineState) (m : Memory) (line : Nat) (lineStart : UInt64) :
    (s.followList m line lineStart).gtia = s.gtia := by
  unfold LineState.followList
  split
  · rfl
  · split <;> rfl

theorem gtia_drawPlayfield (s : LineState) (m : Memory) (line : Nat) :
    (s.drawPlayfield m line).gtia = s.gtia := by
  unfold LineState.drawPlayfield
  split <;> rfl

end Antic

namespace Gtia

structure Wiring where
  pal : Bool
  cartridge : Bool

variable (g : Gtia)

def wiring : Wiring where
  pal := g.pal
  cartridge := g.cartridge

theorem wiring_write (register value : UInt8) : (g.write register value).wiring = g.wiring := by
  unfold write
  dsimp only
  iterate 8 (split; · rfl)
  split <;> rfl

theorem wiring_fetchObjects (m : Memory) (line : Nat) (dmaControl pageBase : UInt8) :
    (g.fetchObjects m line dmaControl pageBase).2.wiring = g.wiring := by
  obtain ⟨missiles, players, fetched⟩ := g.fetchObjects_eq m line dmaControl pageBase
  rw [fetched]
  rfl

theorem wiring_drawLine (line : Display.Line) : (g.drawLine line).1.wiring = g.wiring := by
  rw [drawn_drawLine.gtia]
  rfl

end Gtia

namespace Antic

variable (a : Antic)

theorem wiring_display (s : LineState) (m : Memory) (line : Nat) (lineStart : UInt64) :
    (s.display m line lineStart).gtia.wiring = s.gtia.wiring := by
  unfold LineState.display LineState.drawObjects
  dsimp only
  rw [Gtia.wiring_drawLine, gtia_drawPlayfield, gtia_followList]
  exact Gtia.wiring_fetchObjects _ _ _ _ _

theorem wiring_processLine (m : Memory) (g : Gtia) (start : UInt64) (s : Schedule) :
    (a.processLine m g start s).gtia.wiring = g.wiring := by
  unfold processLine
  dsimp only
  split
  · exact wiring_display _ _ _ _
  · rfl

end Antic

structure Board.Fittings where
  setup : Setup
  linesPerFrame : Nat
  pal : Bool
  sound : Pokey.Sound.Fittings

def Setup.fittings (s : Setup) : Board.Fittings where
  setup := s
  linesPerFrame := s.video.linesPerFrame
  pal := s.video == .pal
  sound := (Pokey.Sound.create s.video.clockRate s.sampleRate s.audio).fittings

namespace Board

variable (b : Board)

def fittings : Fittings where
  setup := b.setup
  linesPerFrame := b.antic.linesPerFrame
  pal := b.gtia.pal
  sound := b.pokey.sound.fittings

theorem fittings_read (address : UInt16) : (b.read address).2.fittings = b.fittings := by
  unfold read
  split
  case h_4 => exact congrArg (Fittings.mk _ _ _) (b.pokey.fittings_read _ b.clock)
  all_goals rfl

theorem fittings_expectReply (now : UInt64) : (b.expectReply now).fittings = b.fittings := by
  rw [expectReply_eq]
  rfl

theorem fittings_writePokey (register value : UInt8) :
    (b.writePokey register value).fittings = b.fittings := by
  have sound := b.pokey.fittings_write register value b.clock b.schedule
  unfold writePokey
  dsimp only
  split
  · exact (fittings_expectReply _ _).trans (congrArg (Fittings.mk _ _ _) sound)
  · exact congrArg (Fittings.mk _ _ _) sound

theorem fittings_write (address : UInt16) (value : UInt8) :
    (b.write address value).fittings = b.fittings := by
  unfold write
  split
  case h_3 =>
    exact congrArg (Fittings.mk _ _ · _) (congrArg Gtia.Wiring.pal (b.gtia.wiring_write _ value))
  case h_4 => exact b.fittings_writePokey _ value
  case h_6 =>
    exact congrArg (Fittings.mk _ · _ _) (b.antic.linesPerFrame_write _ value b.schedule)
  case h_5 => rw [fittings, applyPorts, fittings]
  all_goals rfl

theorem fittings_takeHook (hook : Hook) (cpu : Cpu) :
    (takeHook hook cpu b).2.2.fittings = b.fittings := by
  cases hook <;> rfl

theorem fittings_expectNext (deadline : UInt64) : (b.expectNext deadline).fittings = b.fittings := by
  rw [expectNext_eq]
  rfl

theorem fittings_settle (event : Event) (deadline : UInt64) :
    (b.settle event deadline).fittings = b.fittings := by
  have timer (t : Pokey.Timer) :
      (b.pokey.timerDue t deadline b.schedule).2.1.sound.fittings = b.pokey.sound.fittings :=
    congrArg Pokey.Sound.fittings (Pokey.sound_timerDue b.pokey t deadline b.schedule)
  have raise (source : UInt8) :
      (b.pokey.raise source).2.sound.fittings = b.pokey.sound.fittings :=
    congrArg Pokey.Sound.fittings (Pokey.sound_raise b.pokey source)
  cases event with
  | lineFetch =>
    have lines := b.antic.linesPerFrame_processLine b.memory b.gtia deadline b.schedule
    have pal : (b.antic.processLine b.memory b.gtia deadline b.schedule).gtia.pal = b.gtia.pal :=
      congrArg Gtia.Wiring.pal
        (b.antic.wiring_processLine b.memory b.gtia deadline b.schedule)
    have sound := b.pokey.sound.fittings_catchUp deadline b.pokey.settings
    simp only [settle, drawLine, tell, fittings, Pokey.catchUp, lines, pal, sound]
  | displayListInterrupt => rfl
  | timer1 => exact congrArg (Fittings.mk _ _ _) (timer .one)
  | timer2 => exact congrArg (Fittings.mk _ _ _) (timer .two)
  | timer4 => exact congrArg (Fittings.mk _ _ _) (timer .four)
  | serialOutNeeded => exact congrArg (Fittings.mk _ _ _) (raise _)
  | serialOutDone => rfl
  | serialInReady =>
    unfold settle
    dsimp only
    split
    · rfl
    · refine (fittings_expectNext _ _).trans (congrArg (Fittings.mk _ _ _) ?_)
      exact congrArg Pokey.Sound.fittings (Pokey.sound_raise _ _)

theorem keeps_fittings (f : Fittings) : Bus.Keeps fun b : Board => b.fittings = f where
  read b address h := (b.fittings_read address).trans h
  write b address value h := (b.fittings_write address value).trans h

theorem enters_fittings (f : Fittings) :
    Bus.Enters fun b b' : Board => b = b' ∧ b.fittings = f where
  push r value := by
    rintro ⟨rfl, h⟩
    exact ⟨rfl, (keeps_fittings f).write _ _ _ h⟩
  vector address _ := by
    rintro ⟨rfl, h⟩
    exact ⟨rfl, rfl, (keeps_fittings f).read _ _ h⟩

theorem fittings_handle (mapped : b.Mapped) (cpu : Cpu) (event : Event) (deadline : UInt64) :
    (handle cpu b event deadline).2.fittings = b.fittings := by
  have settled := b.fittings_settle event deadline
  rw [handle_eq mapped]
  cases b.asks event deadline with
  | none => exact settled
  | some i =>
    have told : ((b.settle event deadline).tell [i.notice cpu]).fittings = b.fittings := settled
    obtain ⟨-, -, kept⟩ :=
      Interrupt.enter_related (enters_fittings b.fittings) ⟨rfl, told⟩ cpu i
    exact kept

theorem fittings_stepHooked (cpu : Cpu) : (cpu.stepHooked b).2.fittings = b.fittings :=
  Cpu.stepHooked_keeps (keeps_fittings b.fittings)
    (fun hook cpu b h => (b.fittings_takeHook hook cpu).trans h) rfl

theorem fittings_move {cpu : Cpu} (next : cpu.total < b.schedule.next) (target : UInt64) :
    (cpu.move b target).2.fittings = b.fittings := by
  unfold Cpu.move
  split
  · exact absurd next (UInt64.not_lt.2 ‹_›)
  · dsimp only
    split
    · rfl
    · exact b.fittings_stepHooked cpu

theorem fittings_powered (memory : Memory) : (b.powered memory).fittings = b.fittings :=
  congrArg (Fittings.mk _ _ _) (b.pokey.fittings_reset 0)

def Fitted (b : Board) : Prop := b.fittings = b.setup.fittings

variable {b}

theorem Fitted.of_fittings_eq (fitted : b.Fitted) {b' : Board} (same : b'.fittings = b.fittings) :
    b'.Fitted := by
  have setup : b'.setup = b.setup := congrArg Fittings.setup same
  rw [Fitted, same, setup]
  exact fitted

end Board

namespace Machine

variable (m : Machine)

theorem fittings_takeSamples (n : Nat) :
    (m.takeSamples n).2.board.fittings = m.board.fittings :=
  congrArg (Board.Fittings.mk _ _ _)
    (m.board.pokey.sound.fittings_catchUp m.cpu.total m.board.pokey.settings)

theorem fittings_keyDown (key : UInt8) (shift control : Bool) :
    (m.keyDown key shift control).board.fittings = m.board.fittings := by
  have sound := congrArg Pokey.Sound.fittings
    (Pokey.sound_keyDown (m.board.pokey.setShift shift) (Keyboard.scanCode key shift control))
  unfold keyDown
  dsimp only
  split <;> exact congrArg (Board.Fittings.mk _ _ _) sound

theorem fittings_perform (c : Call) : (m.perform c).board.fittings = m.board.fittings := by
  cases c with
  | takeSamples n => exact m.fittings_takeSamples n
  | keyDown key shift control => exact m.fittings_keyDown key shift control
  | typeChar c =>
    simp only [perform, typeChar]
    cases Keyboard.keyFor c with
    | none => rfl
    | some key => exact m.fittings_keyDown key.1 key.2 false
  | breakKey =>
    have sound := congrArg Pokey.Sound.fittings
      (Pokey.sound_raise m.board.pokey Pokey.Source.breakKey)
    simp only [perform, breakKey]
    split <;> exact congrArg (Board.Fittings.mk _ _ _) sound
  | setJoystick port directions fire =>
    have pal : (m.board.gtia.setTrigger port fire).pal = m.board.gtia.pal := by
      unfold Gtia.setTrigger
      split <;> rfl
    exact congrArg (Board.Fittings.mk _ _ · _) pal
  | upload slot name data =>
    simp only [perform, upload]
    cases m.board.rack.upload slot name data <;> rfl
  | mount slot device =>
    simp only [perform, mount]
    cases m.board.rack.mount slot device <;> rfl
  | _ => rfl

theorem fittings_installHooks : m.installHooks.board.fittings = m.board.fittings := by
  unfold installHooks
  dsimp only
  split <;> rfl

theorem fittings_cleared : m.cleared.board.fittings = m.board.fittings := by
  rw [cleared_eq]
  exact m.board.fittings_powered m.powered

theorem fittings_hooked : m.hooked.board.fittings = m.board.fittings := by
  unfold hooked
  split
  · rw [fittings_installHooks, fittings_cleared]
  · exact m.fittings_cleared

theorem fittings_hardReset : m.hardReset.board.fittings = m.board.fittings := by
  rw [hardReset_eq, Board.fittings, Board.tell]
  exact m.fittings_hooked

end Machine

theorem Session.Reachable.fitted {s : Session} (h : s.Reachable) : s.observed.board.Fitted := by
  induction h with
  | powerOn setup os basic store flags =>
    have assembled : (Machine.assembled setup (Memory.create os basic) store flags).board.Fitted :=
      rfl
    exact assembled.of_fittings_eq (Machine.fittings_hardReset _)
  | @step s _ reach next ih =>
    cases next with
    | handle _ _ => exact ih.of_fittings_eq (Board.fittings_handle _ reach.mapped s.cpu _ _)
    | @move target fits before none =>
      have kept := s.observed.board.fittings_move (reach.due_eq_none_iff.1 none) target
      rw [(reach.moves fits before none).board] at kept
      exact ih.of_fittings_eq kept
    | call c => exact ih.of_fittings_eq (s.machine.fittings_perform c)
    | hardReset => exact ih.of_fittings_eq s.machine.fittings_hardReset

theorem Machine.Hosted.fitted {m : Machine} (hosted : m.Hosted) : m.board.Fitted := by
  obtain ⟨s, reach, rfl⟩ := hosted.reachable
  exact reach.fitted

end Atari800XL
