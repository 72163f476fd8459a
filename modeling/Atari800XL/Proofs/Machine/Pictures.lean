import Atari800XL.Machine.Events
import Atari800XL.Proofs.Antic.Frames

namespace Atari800XL

open Display

def Display.Line.shown (l : Line) : List UInt8 :=
  (List.range screenWidth).map fun x => l.colors.getD (screenLeft + x)

namespace Screen

def row (s : Screen) (r : Nat) : List UInt8 :=
  (List.range screenWidth).map fun x => s.getD (r * screenWidth + x)

theorem getD_drawRow (s : Screen) (row : Nat) (line : Line) {r x : Nat} (inside : r < screenHeight)
    (hx : x < screenWidth) :
    (s.drawRow row line).getD (r * screenWidth + x) =
      if row = r then line.colors.getD (screenLeft + x) else s.getD (r * screenWidth + x) := by
  have bound : r * screenWidth + x < screenWidth * screenHeight := by
    unfold screenWidth screenHeight at *
    omega
  have within : row * screenWidth ≤ r * screenWidth + x ∧
      r * screenWidth + x < row * screenWidth + screenWidth ↔ row = r := by
    unfold screenWidth at *
    omega
  have drawn : (s.drawRow row line).getD (r * screenWidth + x) = _ := dif_pos bound
  have before : s.getD (r * screenWidth + x) = _ := dif_pos bound
  rw [drawn, before, drawRow, Bytes.get_update]
  by_cases same : row = r
  · rw [if_pos (within.2 same), if_pos same, same, Nat.add_sub_cancel_left, Nat.add_comm]
  · rw [if_neg (mt within.1 same), if_neg same]

theorem row_drawRow (s : Screen) (row : Nat) (line : Line) {r : Nat} (inside : r < screenHeight) :
    (s.drawRow row line).row r = if row = r then line.shown else s.row r := by
  have pixels := List.map_congr_left fun x (mem : x ∈ List.range screenWidth) =>
    s.getD_drawRow row line inside (List.mem_range.1 mem)
  by_cases same : row = r
  · rw [if_pos same]
    exact pixels.trans (List.map_congr_left fun x _ => if_pos same)
  · rw [if_neg same]
    exact pixels.trans (List.map_congr_left fun x _ => if_neg same)

end Screen

theorem Board.row_drawLine (b : Board) (deadline : UInt64) {r : Nat} (inside : r < screenHeight) :
    (b.drawLine deadline).2.screen.row r =
      if (b.drawLine deadline).1.visibleRow? = some r then
        (b.antic.processLine b.memory b.gtia deadline b.schedule).line.shown
      else b.screen.row r := by
  unfold Board.drawLine Board.tell
  dsimp only
  cases (b.antic.processLine b.memory b.gtia deadline b.schedule).report.visibleRow? with
  | none => rfl
  | some row => simp only [Screen.row_drawRow _ _ _ inside, Option.some.injEq]

namespace Antic

variable {lines : Nat}

def Turn.line (t : Turn) : Line :=
  (t.antic.processLine t.memory t.gtia t.start t.schedule).line

def Turn.draw (b : Board) (t : Turn) : Board :=
  ({ b with
    antic := t.antic, memory := t.memory, gtia := t.gtia, schedule := t.schedule }.drawLine
      t.start).2

/-- The lines of a frame that have been drawn have filled their rows from the top down. The other
rows are still as they were. -/
def FillsRows (frame : List Turn) : Prop :=
  ∀ (b : Board) (drawn r : Nat), r < 240 →
    ((frame.take drawn).foldl Turn.draw b).screen.row r =
      match (frame.take drawn)[r + 8]? with
      | some t => t.line.shown
      | none => b.screen.row r

theorem row_draw (b : Board) (t : Turn) {r : Nat} (inside : r < screenHeight) :
    (t.draw b).screen.row r =
      if t.report.visibleRow? = some r then t.line.shown else b.screen.row r :=
  Board.row_drawLine _ t.start inside

theorem fillsRows_of_row {frame : List Turn} (rows : ∀ i t, frame[i]? = some t →
    ∀ r, t.report.visibleRow? = some r ↔ i = r + 8 ∧ r < 240) : FillsRows frame := by
  intro b drawn r inside
  induction drawn with
  | zero => rfl
  | succ drawn ih =>
    cases next : frame[drawn]? with
    | none =>
      have all : frame.take (drawn + 1) = frame.take drawn := by
        rw [List.take_add_one, next, Option.toList_none, List.append_nil]
      rw [all]
      exact ih
    | some t =>
      have others : frame.take (drawn + 1) = frame.take drawn ++ [t] := by
        rw [List.take_add_one, next, Option.toList_some]
      rw [others, List.foldl_append, List.foldl_cons, List.foldl_nil, row_draw _ t inside, ih,
        ← others]
      by_cases here : drawn = r + 8
      · rw [if_pos ((rows drawn t next r).2 ⟨here, inside⟩), List.getElem?_take,
          if_pos (Nat.lt_succ_of_le (Nat.le_of_eq here.symm)), ← here, next]
      · have same : (frame.take (drawn + 1))[r + 8]? = (frame.take drawn)[r + 8]? := by
          simp only [List.getElem?_take]
          split <;> split <;> first | rfl | omega
        rw [if_neg fun row => here ((rows drawn t next r).1 row).1, same]

theorem Paced.fillsRows {a : Antic} (h : Paced lines 0 a) (long : verticalBlankLine < lines)
    (operations : List Operation) (n : Nat) :
    FillsRows (((a.turns operations).drop (n * lines)).take lines) := by
  refine fillsRows_of_row fun i t taken => ?_
  rw [List.getElem?_take] at taken
  split at taken
  next inside =>
    rw [List.getElem?_drop] at taken
    have row := ((h.turns long operations taken).inFrame long).row
    rwa [Nat.zero_add, Nat.mul_comm, Nat.mul_add_mod, Nat.mod_eq_of_lt inside] at row
  next => cases taken

/-- From its start on, the chip processes the lines of a picture again and again, whatever is
written to its registers in between. Each line is told by its number: the last one of a frame, the
one on which the vertical blank begins, and those that fill a row of the picture. So every frame
fills each row of the screen once, from the top down, with the shown part of its line. A line takes
at least the cycles of a refresh and leaves some to the processor, a mode line that is shown did not
begin below it, and the status never shows both interrupts. -/
theorem frames_in_order {lines : Nat} {a : Antic} (started : Started lines a) (long : 248 < lines)
    (operations : List Operation) :
    (a.turns operations).length = operations.countP (·.isLine) ∧
      (∀ (k : Nat) (t : Turn), (a.turns operations)[k]? = some t → t.InFrame lines k) ∧
      (∀ n, (n + 1) * lines ≤ (a.turns operations).length →
        (((a.turns operations).drop (n * lines)).take lines).filterMap (·.report.visibleRow?) =
          List.range 240) ∧
      (∀ n, FillsRows (((a.turns operations).drop (n * lines)).take lines)) ∧
      ¬(hasBit ((a.applyAll operations).read 0x0F) 0x80 = true ∧
        hasBit ((a.applyAll operations).read 0x0F) 0x40 = true) := by
  have paced := started.paced
  refine ⟨a.length_turns operations, fun k t taken => ?_,
    fun n whole => paced.rows long operations whole, paced.fillsRows long operations, ?_⟩
  · have here := paced.turns long operations taken
    rw [Nat.zero_add] at here
    exact here.inFrame long
  · rintro ⟨list, blank⟩
    rcases (paced.applyAll long operations).read with none | none
    · exact Bool.false_ne_true (none.symm.trans list)
    · exact Bool.false_ne_true (none.symm.trans blank)

def sampleChip : Antic := { linesPerFrame := 262 }

def sampleFrame : List Operation :=
  .write 0x0E 0x40 default :: List.replicate 262 (.processLine default default 0 default)

theorem frames_in_order_sample :
    Started 262 sampleChip ∧ 248 < 262 ∧
      (∃ t, (sampleChip.turns sampleFrame)[261]? = some t ∧ t.report.scanline = 261 ∧
        t.report.frameDone = true) ∧
      (sampleChip.turns sampleFrame).filterMap (·.report.visibleRow?) = List.range 240 ∧
      ∃ t, (sampleChip.turns sampleFrame)[247]? = some t ∧
        ∀ b : Board, ((sampleChip.turns sampleFrame).foldl Turn.draw b).screen.row 239 =
          t.line.shown := by
  have started : Started 262 sampleChip := .fresh 262
  have long : 248 < 262 := by decide
  obtain ⟨length, told, rows, fills, -⟩ := frames_in_order started long sampleFrame
  have all : sampleFrame.countP (·.isLine) = 262 := by
    rw [sampleFrame, List.countP_cons_of_neg Bool.false_ne_true, List.countP_replicate]
    rfl
  rw [all] at length
  have whole : ((sampleChip.turns sampleFrame).drop (0 * 262)).take 262 =
      sampleChip.turns sampleFrame := by
    rw [Nat.zero_mul, List.drop_zero, List.take_of_length_le (by omega)]
  have row := rows 0 (by omega)
  have filled := fills 0
  rw [whole] at row filled
  have taken (k : Nat) (hk : k < 262) := List.getElem?_eq_getElem (l := sampleChip.turns sampleFrame)
    (i := k) (by omega)
  have last := told 261 _ (taken 261 (by decide))
  refine ⟨started, long, ⟨_, taken 261 (by decide), last.scanline, last.frameDone.2 rfl⟩, row,
    _, taken 247 (by decide), fun b => ?_⟩
  have drawn := filled b 262 239 (by decide)
  rwa [List.take_of_length_le (by omega), taken 247 (by decide)] at drawn

end Antic

end Atari800XL
