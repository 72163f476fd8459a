import Atari800XL.Proofs.Antic.Raster

namespace Atari800XL.Antic

open Display

theorem mem_clip {left right x y : Nat} {p : Pixel} {pixels : List Pixel} :
    (p, y) ∈ clip left right x pixels ↔
      left ≤ y ∧ y < right ∧ x ≤ y ∧ pixels[y - x]? = some p := by
  induction pixels generalizing x with
  | nil => simp [clip]
  | cons q pixels ih =>
    have first : (p, y) ∈ clip left right x (q :: pixels) ↔
        (left ≤ x ∧ x < right ∧ p = q ∧ y = x) ∨ (p, y) ∈ clip left right (x + 1) pixels := by
      rw [clip]
      split
      case isTrue inside => simp only [List.mem_cons, Prod.mk.injEq, inside.1, inside.2, true_and]
      case isFalse outside => exact (or_iff_right fun h => outside ⟨h.1, h.2.1⟩).symm
    rw [first, ih]
    by_cases here : y = x
    · subst here
      have before : ¬y + 1 ≤ y := Nat.not_succ_le_self y
      simp [before, eq_comm (a := p)]
    · by_cases behind : x ≤ y
      · have next : y - x = y - (x + 1) + 1 := by omega
        have far : x + 1 ≤ y := by omega
        simp [here, behind, next, far]
      · have near : ¬x + 1 ≤ y := by omega
        simp [here, behind, near]

section

variable (a : Antic) (m : Memory) (g : Gtia) (width : Width) (row : UInt8)

def written? (x : Nat) : Option Pixel :=
  if width.left ≤ x ∧ x < width.right ∧ a.dataStart width ≤ x then
    (a.shiftedRow m g row)[x - a.dataStart width]?
  else none

theorem mem_writes_iff {p : Pixel} {x : Nat} :
    (p, x) ∈ a.writes m g width row ↔ a.written? m g width row x = some p := by
  rw [writes, mem_clip, written?]
  split
  case isTrue inside => simp only [inside.1, inside.2.1, inside.2.2, true_and]
  case isFalse outside =>
    exact iff_of_false (fun h => outside ⟨h.1, h.2.1, h.2.2.1⟩) (Option.some_ne_none p).symm

theorem pixel_render_eq (line : Line) (x : Nat) (h : x < lineWidth) :
    (a.render m g width row line).pixel x h =
      (a.written? m g width row x).getD (line.pixel x h) := by
  rw [render, Line.pixel_paint, written?, shiftedRow_eq]
  by_cases inside : width.left ≤ x ∧ x < width.right ∧ a.dataStart width ≤ x
  · by_cases within : x - a.dataStart width < a.data.size * a.mode.pixelsPerByte
    · rw [if_pos (by omega), if_pos inside, List.getElem?_map, List.getElem?_range within]
      rfl
    · rw [if_neg (by omega), if_pos inside, List.getElem?_eq_none (by simpa using within)]
      rfl
  · rw [if_neg (by omega), if_neg inside]
    rfl

end

def scrolledBy (a : Antic) (clocks : UInt8) : Antic :=
  { a with scrollsSideways := true, horizontalScroll := clocks }

section

variable (a : Antic) (m : Memory) (g : Gtia) (width : Width) (row clocks : UInt8)

theorem dataStart_scrolledBy :
    (a.scrolledBy clocks).dataStart width =
      (a.scrolledBy 0).dataStart width + 2 * clocks.toNat := rfl

theorem shiftedRow_scrolledBy :
    (a.scrolledBy clocks).shiftedRow m g row = (a.scrolledBy 0).shiftedRow m g row := rfl

theorem written?_scrolledBy {x : Nat} (first : width.left ≤ x)
    (last : x + 2 * clocks.toNat < width.right) :
    (a.scrolledBy clocks).written? m g width row (x + 2 * clocks.toNat) =
      (a.scrolledBy 0).written? m g width row x := by
  have place : x + 2 * clocks.toNat - ((a.scrolledBy 0).dataStart width + 2 * clocks.toNat) =
      x - (a.scrolledBy 0).dataStart width := Nat.add_sub_add_right _ _ _
  have same : width.left ≤ x + 2 * clocks.toNat ∧ x + 2 * clocks.toNat < width.right ∧
      (a.scrolledBy 0).dataStart width + 2 * clocks.toNat ≤ x + 2 * clocks.toNat ↔
      width.left ≤ x ∧ x < width.right ∧ (a.scrolledBy 0).dataStart width ≤ x := by omega
  rw [written?, written?, dataStart_scrolledBy a width clocks,
    shiftedRow_scrolledBy a m g row clocks, place]
  simp only [same]

end

theorem cycles_drawPlayfield_scrolledBy (s : LineState) (m : Memory) (line : Nat)
    (clocks : UInt8) :
    ({ s with antic := s.antic.scrolledBy clocks }.drawPlayfield m line).cycles =
      ({ s with antic := s.antic.scrolledBy 0 }.drawPlayfield m line).cycles := by
  have mode : (s.antic.scrolledBy clocks).mode = (s.antic.scrolledBy 0).mode := rfl
  have width : (s.antic.scrolledBy clocks).displayWidth? = (s.antic.scrolledBy 0).displayWidth? :=
    rfl
  have start : (s.antic.scrolledBy clocks).modeStart = (s.antic.scrolledBy 0).modeStart := rfl
  unfold LineState.drawPlayfield
  dsimp only
  rw [mode, width, start]
  split
  · rfl
  · rfl
  · by_cases fetching : line == (s.antic.scrolledBy 0).modeStart
    · rw [if_pos fetching, if_pos fetching]
      rfl
    · rw [if_neg fetching, if_neg fetching]
      rfl

/-- What a line writes to the column `x` without scrolling it writes so many columns further to the
right with it: the same pixel to either, or none. Columns that were alike stay so. -/
structure Shifts (a : Antic) (m : Memory) (g : Gtia) (width : Width) (row clocks : UInt8)
    (x : Nat) : Prop where
  writes : ∀ p, (p, x + 2 * clocks.toNat) ∈ (a.scrolledBy clocks).writes m g width row ↔
    (p, x) ∈ (a.scrolledBy 0).writes m g width row
  shown : ∀ (line line' : Line) (h : x + 2 * clocks.toNat < lineWidth) (h' : x < lineWidth),
    line.pixel (x + 2 * clocks.toNat) h = line'.pixel x h' →
      ((a.scrolledBy clocks).render m g width row line).pixel (x + 2 * clocks.toNat) h =
        ((a.scrolledBy 0).render m g width row line').pixel x h'

/-- Fine scrolling is a shift to the right, whatever the mode line shows and however much data it
has: of any two columns of the window that lie so far apart, the one on the right shows with
scrolling what the one on the left shows without it. The line takes as many cycles as before. -/
theorem shifts_scrolledBy (a : Antic) (m : Memory) (g : Gtia) (width : Width)
    (row clocks : UInt8) {x : Nat} (first : width.left ≤ x)
    (last : x + 2 * clocks.toNat < width.right) :
    Shifts a m g width row clocks x ∧
      ∀ (s : LineState) (line : Nat), s.antic = a →
        ({ s with antic := a.scrolledBy clocks }.drawPlayfield m line).cycles =
          ({ s with antic := a.scrolledBy 0 }.drawPlayfield m line).cycles := by
  have same := written?_scrolledBy a m g width row clocks first last
  refine ⟨⟨fun p => ?_, fun line line' h h' alike => ?_⟩, ?_⟩
  · rw [mem_writes_iff, mem_writes_iff, same]
  · rw [pixel_render_eq, pixel_render_eq, same, alike]
  · rintro s line rfl
    exact cycles_drawPlayfield_scrolledBy s m line clocks

theorem shifts_scrolledBy_sample :
    let a : Antic :=
      { linesPerFrame := 262, mode := .modeE, data := ⟨#[0, 0, 0, 0, 0x1B]⟩ }
    Width.normal.left ≤ 100 ∧ 100 + 2 * (5 : UInt8).toNat < Width.normal.right ∧
      ∀ m g row, (playfield g 2, 110) ∈ (a.scrolledBy 5).writes m g .normal row := by
  intro a
  have first : Width.normal.left ≤ 100 := by decide
  have last : 100 + 2 * (5 : UInt8).toNat < Width.normal.right := by decide
  refine ⟨first, last, fun m g row => ?_⟩
  refine ((shifts_scrolledBy a m g .normal row 5 first last).1.writes _).2 ?_
  have inside : Width.normal.left ≤ 100 ∧ 100 < Width.normal.right ∧
      (a.scrolledBy 0).dataStart .normal ≤ 100 := by decide
  have bits : pairAt 0x1B 2 = 2 := by decide
  rw [mem_writes_iff, written?, if_pos inside, ← bits]
  rfl

end Atari800XL.Antic
