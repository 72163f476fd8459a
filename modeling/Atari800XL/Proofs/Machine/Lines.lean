import Atari800XL.Proofs.Machine.Ending
import Atari800XL.Proofs.Machine.Fittings
import Atari800XL.Proofs.Machine.ListInterrupts

namespace Atari800XL

open Display FileDevice

namespace Board

variable {b b' : Board}

def linesShown (b : Board) : Nat := b.frames * b.antic.linesPerFrame + b.antic.scanline

structure Count where
  frames : Nat
  place : Antic.Place

def count (b : Board) : Count := ⟨b.frames, b.antic.place⟩

theorem linesShown_congr (same : b'.count = b.count) : b'.linesShown = b.linesShown :=
  congrArg (fun c : Count => c.frames * c.place.linesPerFrame + c.place.scanline) same

theorem Pushed.count (h : b.Pushed b') : b'.count = b.count := by
  obtain ⟨-, sound, rest⟩ := h
  rw [rest]
  rfl

theorem frames_write (b : Board) (address : UInt16) (value : UInt8) :
    (b.write address value).frames = b.frames := by
  unfold Board.write
  split
  case h_4 =>
    unfold writePokey
    dsimp only
    split
    · rw [sendToDrives, expectReply_eq]
      rfl
    · rfl
  case h_5 => rw [applyPorts]
  all_goals rfl

theorem keeps_count (c : Count) : Bus.Keeps fun b : Board => b.count = c where
  read b address h := (b.pushed_read address).count.trans h
  write b address value h := by
    rw [← h, Board.count, Board.count, bus_write, frames_write, place_write]

theorem count_move {cpu : Cpu} (next : cpu.total < b.schedule.next) (target : UInt64) :
    (cpu.move b target).2.count = b.count := by
  unfold Cpu.move
  split
  · exact absurd next (UInt64.not_lt.2 ‹_›)
  · dsimp only
    split
    · rfl
    · exact Cpu.stepHooked_keeps (keeps_count b.count) (fun _ _ _ h => h) rfl

theorem count_settle {event : Event} (other : event ≠ .lineFetch) (b : Board)
    (deadline : UInt64) : (b.settle event deadline).count = b.count := by
  have frames : (b.settle event deadline).frames = b.frames := by
    cases event with
    | lineFetch => exact absurd rfl other
    | serialInReady =>
      unfold settle
      dsimp only
      split
      · rfl
      · rw [expectNext_eq]
    | _ => rfl
  rw [count, count, frames, place_settle other]

theorem linesShown_settle (inside : b.antic.scanline < b.antic.linesPerFrame) (deadline : UInt64) :
    (b.settle .lineFetch deadline).linesShown = b.linesShown + 1 := by
  have lines := b.antic.linesPerFrame_processLine b.memory b.gtia deadline b.schedule
  have scanline := b.antic.scanline_processLine b.memory b.gtia deadline b.schedule
  have done := b.antic.frameDone_processLine b.memory b.gtia deadline b.schedule
  simp only [linesShown, settle, drawLine, tell]
  rw [done, lines, scanline]
  by_cases last : b.antic.linesPerFrame ≤ b.antic.scanline + 1
  · rw [if_pos last, if_pos (decide_eq_true rfl), Nat.succ_mul]
    omega
  · rw [if_neg last, if_neg (by simp)]
    rfl

end Board

namespace Session

variable {s s' s'' : Session} {target : UInt64} {n n' : Nat}

abbrev shown (s : Session) : Nat := s.observed.board.linesShown

abbrev pictureLines (s : Session) : Nat := s.observed.board.antic.linesPerFrame

theorem Reachable.inside (h : s.Reachable) :
    s.observed.board.antic.scanline < s.pictureLines :=
  ((Observed.ListServed.invariant.reachable h).2 h.lines_le).framed.inside

structure Passes (s : Session) (n : Nat) (s' : Session) : Prop where
  shown : s'.shown = s.shown + n
  line : s'.line = s.line + 114 * n
  fittings : s'.observed.board.fittings = s.observed.board.fittings

theorem Passes.refl (s : Session) : s.Passes 0 s := ⟨rfl, rfl, rfl⟩

theorem Passes.trans (h : s.Passes n s') (h' : s'.Passes n' s'') : s.Passes (n + n') s'' where
  shown := by
    rw [h'.shown, h.shown, Nat.add_assoc]
  line := by
    rw [h'.line, h.line]
    omega
  fittings := h'.fittings.trans h.fittings

theorem Passes.pictureLines (h : s.Passes n s') : s'.pictureLines = s.pictureLines :=
  congrArg Board.Fittings.linesPerFrame h.fittings

theorem Passes.setup (h : s.Passes n s') : s'.observed.board.setup = s.observed.board.setup :=
  congrArg Board.Fittings.setup h.fittings

theorem Reachable.passes_move (h : s.Reachable) (fits : Fits s.cpu.total)
    (before : s.cpu.total < target) (none : s.due = none) : s.Passes 0 (s.move target) := by
  have moves := h.moves fits before none
  have count := Board.count_move (h.due_eq_none_iff.1 none) target
  have fittings := s.observed.board.fittings_move (h.due_eq_none_iff.1 none) target
  rw [moves.board] at count fittings
  exact ⟨Board.linesShown_congr count, moves.line, fittings⟩

theorem Reachable.passes_handle (h : s.Reachable) (fits : Fits s.cpu.total) {event : Event}
    {deadline : UInt64} (due : s.due = some (event, deadline)) :
    ∃ n, s.Passes n (s.handle event deadline) := by
  have pushed := (Board.pushed_handle h.sound.low s.cpu event deadline).count
  have fittings := Board.fittings_handle _ h.mapped s.cpu event deadline
  by_cases line : event = .lineFetch
  · subst line
    have shown := Board.linesShown_settle h.inside deadline
    have next := (h.handle_lineFetch fits due).2
    exact ⟨1, (Board.linesShown_congr pushed).trans shown, next, fittings⟩
  · have count := pushed.trans (Board.count_settle line s.observed.board deadline)
    have same := h.line_handle line deadline
    exact ⟨0, Board.linesShown_congr count, same, fittings⟩

theorem Services.passes (services : Services s s') (h : s.Reachable) : ∃ n, s.Passes n s' := by
  induction services with
  | done _ => exact ⟨0, .refl _⟩
  | handle fits due _ ih =>
    obtain ⟨n, first⟩ := h.passes_handle fits due
    obtain ⟨n', rest⟩ := ih (.step h (.handle fits due))
    exact ⟨n + n', first.trans rest⟩

theorem Travels.passes (travels : Travels target s s') (h : s.Reachable) :
    ∃ n, s.Passes n s' := by
  induction travels with
  | done _ => exact ⟨0, .refl _⟩
  | move fits before none _ ih =>
    obtain ⟨n, rest⟩ := ih (.step h (.move fits before none))
    exact ⟨0 + n, (h.passes_move fits before none).trans rest⟩
  | service _ _ services _ ih =>
    obtain ⟨n, first⟩ := services.passes h
    obtain ⟨n', rest⟩ := ih (services.reachable h)
    exact ⟨n + n', first.trans rest⟩

theorem Passes.frames_eq (passes : s.Passes n s') (h : s.Reachable) (h' : s'.Reachable) :
    s'.observed.board.frames =
      s.observed.board.frames + (s.observed.board.antic.scanline + n) / s.pictureLines := by
  have inside := h'.inside
  have shown : s'.observed.board.frames * s'.pictureLines + s'.observed.board.antic.scanline =
      s.observed.board.frames * s.pictureLines + s.observed.board.antic.scanline + n :=
    passes.shown
  have pos : 0 < s.pictureLines := Nat.lt_of_le_of_lt (Nat.zero_le _) h.inside
  rw [passes.pictureLines] at inside shown
  calc s'.observed.board.frames
      = (s.pictureLines * s'.observed.board.frames + s'.observed.board.antic.scanline) /
          s.pictureLines := by
        rw [Nat.mul_add_div pos, Nat.div_eq_of_lt inside, Nat.add_zero]
    _ = (s.pictureLines * s.observed.board.frames +
          (s.observed.board.antic.scanline + n)) / s.pictureLines := by
        rw [Nat.mul_comm, shown, Nat.mul_comm, Nat.add_assoc]
    _ = s.observed.board.frames + (s.observed.board.antic.scanline + n) / s.pictureLines :=
        Nat.mul_add_div pos _ _

theorem Passes.frames (passes : s.Passes n s') (h : s.Reachable) (h' : s'.Reachable) :
    s.observed.board.frames + n / s.pictureLines ≤ s'.observed.board.frames ∧
      s'.observed.board.frames ≤ s.observed.board.frames + n / s.pictureLines + 1 := by
  have inside := h.inside
  have pos : 0 < s.pictureLines := Nat.lt_of_le_of_lt (Nat.zero_le _) inside
  rw [passes.frames_eq h h']
  have least : n / s.pictureLines ≤
      (s.observed.board.antic.scanline + n) / s.pictureLines :=
    Nat.div_le_div_right (Nat.le_add_left _ _)
  have most : (s.observed.board.antic.scanline + n) / s.pictureLines ≤
      n / s.pictureLines + 1 := by
    rw [← Nat.add_div_left n pos]
    exact Nat.div_le_div_right (Nat.add_le_add_right (Nat.le_of_lt inside) n)
  omega

theorem line_fresh (m : Machine) : (fresh m).line = 114 := by
  have schedule := congrArg (fun s : Schedule => s.lineFetch.toNat) m.schedule_hardReset
  exact schedule

theorem Reachable.line_le (h : s.Reachable) : s.line ≤ s.cpu.total.toNat + 114 := by
  have first (m : Machine) : (fresh m).line ≤ (fresh m).cpu.total.toNat + 114 := by
    rw [line_fresh]
    exact Nat.le_add_left _ _
  induction h with
  | powerOn setup os basic store flags => exact first _
  | @step s _ h next ih =>
    cases next with
    | @handle event deadline fits due =>
      have onward := (delayed_handle fits event deadline).onward
      by_cases line : event = .lineFetch
      · subst line
        obtain ⟨own, le⟩ := h.due_spec due
        have late : s.line ≤ s.cpu.total.toNat := by
          rw [← own] at le
          exact UInt64.le_iff_toNat_le.1 le
        have next : (s.handle .lineFetch deadline).line = s.line + 114 :=
          (h.handle_lineFetch fits due).2
        omega
      · have same := h.line_handle line deadline
        omega
    | @move target fits before none =>
      have moves := h.moves fits before none
      have onward := moves.onward
      rw [moves.line]
      omega
    | call c =>
      have total := s.machine.total_perform c
      have same : (s.call c).cpu.total = s.cpu.total := total
      rw [(s.latest_call c).2, same]
      exact ih
    | hardReset => exact first _

theorem Travels.total_lt_line (travels : Travels target s s') (h : s.Reachable)
    (before : s.cpu.total < target) : s.cpu.total.toNat < s'.line := by
  cases travels with
  | done after => exact absurd before after
  | move fits before none rest =>
    obtain ⟨n, passes⟩ := rest.passes (.step h (.move fits before none))
    have ahead := h.total_lt_line none
    have same := (h.moves fits before none).line
    have line := passes.line
    omega
  | @service _ s₁ _ before due services rest =>
    have reach := services.reachable h
    obtain ⟨n, passes⟩ := rest.passes reach
    have ahead := reach.total_lt_line services.due_eq_none
    have onward := services.onward
    have line := passes.line
    omega

theorem Services.line_le (services : Services s s') (h : s.Reachable) :
    s'.line ≤ max s.line (s.horizon + 114) := by
  induction services with
  | done _ => exact Nat.le_max_left _ _
  | @handle s s' event deadline fits due _ ih =>
    have reach : (s.handle event deadline).Reachable := .step h (.handle fits due)
    have rest := ih reach
    have horizon := h.horizon_handle_le fits due
    by_cases line : event = .lineFetch
    · subst line
      have late := h.line_le_latest due
      have ahead : s.latest ≤ s.horizon := Nat.le_add_right _ _
      have next : (s.handle .lineFetch deadline).line = s.line + 114 :=
        (h.handle_lineFetch fits due).2
      omega
    · have same := h.line_handle line deadline
      omega

def lastLine (target line : Nat) : Nat := target + 128 + 14 * ((target + 114 - line) / 100)

theorem horizon_le_lastLine {goal line : Nat} (before : s.cpu.total.toNat < goal)
    (behind : line ≤ s.line) : s.horizon + 114 ≤ lastLine goal line := by
  have latest := s.latest_le
  have interrupts : lineInterrupts = 14 := rfl
  have rest : lineRest = 100 := rfl
  have fewer : (s.latest + 100 - s.line) / 100 ≤ (goal + 114 - line) / 100 :=
    Nat.div_le_div_right (by omega)
  unfold horizon lastLine
  rw [interrupts, rest]
  omega

theorem Travels.line_le (travels : Travels target s s') (h : s.Reachable) {line : Nat}
    (behind : line ≤ s.line) : s'.line ≤ max s.line (lastLine target.toNat line) := by
  induction travels with
  | done _ => exact Nat.le_max_left _ _
  | @move s s' fits before none _ ih =>
    have same := (h.moves fits before none).line
    have rest := ih (.step h (.move fits before none)) (by omega)
    omega
  | @service s s₁ s' before _ services _ ih =>
    obtain ⟨n, passes⟩ := services.passes h
    have onward := passes.line
    have first := services.line_le h
    have near := horizon_le_lastLine (UInt64.lt_iff_toNat_lt.1 before) behind
    have rest := ih (services.reachable h) (by omega)
    omega

def late (s : Session) : Nat := s.cpu.total.toNat - s.line

structure RunsLine (s : Session) (n : Nat) (s' : Session) : Prop extends s.Passes n s' where
  machine : s'.machine = s.machine.run cyclesPerLine
  ran : Machine.Ran (s.cpu.total + cyclesPerLine) s.machine s'.machine
  onward : s.cpu.total.toNat + 114 ≤ s'.cpu.total.toNat
  near : s'.cpu.total.toNat ≤ s.cpu.total.toNat + (114 + longestCall)
  least : s.cpu.total.toNat < s.line + 114 * n
  most : 114 * n ≤ s.late + 242 + 14 * ((s.late + 228) / 100)

theorem Reachable.runLine (h : s.Reachable)
    (room : s.cpu.total.toNat + (114 + longestCall) + longestDelay < never.toNat) :
    ∃ n s', s'.Reachable ∧ s.RunsLine n s' := by
  have cycles : cyclesPerLine.toNat = 114 := rfl
  have size : never.toNat < UInt64.size := by decide
  obtain ⟨s', travels, machine, onward, near⟩ := h.run cyclesPerLine (by omega)
  obtain ⟨n, passes⟩ := travels.passes h
  have target : (s.cpu.total + cyclesPerLine).toNat = s.cpu.total.toNat + 114 := by
    rw [UInt64.toNat_add]
    exact Nat.mod_eq_of_lt (show s.cpu.total.toNat + 114 < UInt64.size by omega)
  have before : s.cpu.total < s.cpu.total + cyclesPerLine := by
    rw [UInt64.lt_iff_toNat_lt, target]
    omega
  have line := passes.line
  have least := travels.total_lt_line h before
  have most := travels.line_le h (Nat.le_refl s.line)
  rw [target, lastLine] at most
  refine ⟨n, s', travels.reachable h, passes, machine, machine ▸ travels.ran h, by omega, by omega,
    by omega, ?_⟩
  have later : (s.cpu.total.toNat + 114 + 114 - s.line) / 100 ≤ (s.late + 228) / 100 :=
    Nat.div_le_div_right (by unfold late; omega)
  unfold late at later ⊢
  omega

end Session

end Atari800XL
