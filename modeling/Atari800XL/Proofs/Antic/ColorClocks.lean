import Atari800XL.Proofs.Antic.Frames
import Atari800XL.Proofs.Antic.Raster
import Atari800XL.Proofs.Gtia.Composition

namespace Atari800XL

open Display

namespace Display.Line

def playfieldBits : List UInt8 := [0x00, 0x01, 0x02, 0x04, 0x08]

structure Uniform (l : Line) : Prop where
  pairs : ∀ k < colorClocks, l.playfields.getD (2 * k) = l.playfields.getD (2 * k + 1)
  single : ∀ x < lineWidth, l.playfields.getD x ∈ playfieldBits

theorem uniform_blank (background : UInt8) : (blank background).Uniform := by
  have none (x : Nat) : (blank background).playfields.getD x = 0 := by
    unfold Bytes.getD
    split
    · exact Array.getElem_replicate _
    · rfl
  refine ⟨fun k _ => by rw [none, none], fun x _ => ?_⟩
  rw [none]
  exact List.mem_cons_self

theorem playfields_paint (l : Line) (x count : Nat) (f : Nat → Pixel) {y : Nat}
    (inside : y < lineWidth) :
    (l.paint x count f).playfields.getD y =
      if x ≤ y ∧ y < x + count then (f y).playfield else l.playfields.getD y := by
  have painted := congrArg Pixel.playfield (l.pixel_paint x count f y inside)
  rw [Bytes.getD, dif_pos inside, Bytes.getD, dif_pos inside]
  refine painted.trans ?_
  split <;> rfl

theorem Uniform.paint {l : Line} (h : l.Uniform) (first clocks : Nat) {f : Nat → Pixel}
    (pairs : ∀ k, first ≤ k → (f (2 * k)).playfield = (f (2 * k + 1)).playfield)
    (single : ∀ x, (f x).playfield ∈ playfieldBits) :
    (l.paint (2 * first) (2 * clocks) f).Uniform where
  pairs k inside := by
    have last : 2 * k + 1 < lineWidth := by
      have : lineWidth = 2 * colorClocks := rfl
      omega
    rw [playfields_paint _ _ _ _ (Nat.lt_of_succ_lt last), playfields_paint _ _ _ _ last]
    by_cases within : first ≤ k ∧ k < first + clocks
    · rw [if_pos (by omega), if_pos (by omega), pairs k within.1]
    · rw [if_neg (by omega), if_neg (by omega), h.pairs k inside]
  single x inside := by
    rw [playfields_paint _ _ _ _ inside]
    split
    · exact single x
    · exact h.single x inside

end Display.Line

namespace Antic

open Display.Line (playfieldBits)

section

variable (g : Gtia)

theorem playfield_single (n : Nat) : (playfield g n).playfield ∈ playfieldBits := by
  unfold playfield
  split <;> simp [playfieldBits]

theorem playfield_fine (on : Bool) : (fine g on).playfield = 0x04 := by
  cases on <;> rfl

theorem paletteColor_single (nibble : UInt8) :
    (paletteColor g nibble).playfield ∈ playfieldBits := by
  have none : (0 : UInt8) ∈ playfieldBits := List.mem_cons_self
  unfold paletteColor
  split
  · exact none
  · split
    · exact none
    · split
      · exact playfield_single g _
      · split
        · exact none
        · exact playfield_single g _
  · exact none

theorem cellPixel_single (mode : Mode) (c : Cell) (i : Nat) :
    (cellPixel g mode c i).playfield ∈ playfieldBits := by
  have both (on : Bool) : (fine g on).playfield ∈ playfieldBits := by
    rw [playfield_fine]
    decide
  cases mode with
  | blank | mode2 | mode3 => exact both _
  | modeF =>
    simp only [cellPixel]
    split
    · exact paletteColor_single g _
    · exact both _
  | _ => exact playfield_single g _

theorem cellPixel_pairs (mode : Mode) (c : Cell) (j : Nat) :
    (cellPixel g mode c (2 * j)).playfield = (cellPixel g mode c (2 * j + 1)).playfield := by
  have half : (2 * j + 1) / 2 = 2 * j / 2 := by omega
  have quarter : (2 * j + 1) / 4 = 2 * j / 4 := by omega
  have eighth : (2 * j + 1) / 8 = 2 * j / 8 := by omega
  cases mode with
  | blank | mode2 | mode3 => exact (playfield_fine g _).trans (playfield_fine g _).symm
  | modeF =>
    simp only [cellPixel]
    split
    · rw [quarter]
    · exact (playfield_fine g _).trans (playfield_fine g _).symm
  | _ => simp only [cellPixel, half, quarter, eighth]

theorem rowPixel_pairs (mode : Mode) (cells : Array Cell) (j : Nat) :
    (rowPixel g mode cells (2 * j)).playfield = (rowPixel g mode cells (2 * j + 1)).playfield := by
  have cell : (2 * j + 1) / mode.pixelsPerByte = 2 * j / mode.pixelsPerByte := by
    have half : (2 * j + 1) / 2 = 2 * j / 2 := by omega
    rw [Mode.pixelsPerByte, ← Nat.div_div_eq_div_mul, ← Nat.div_div_eq_div_mul, half]
  have place : 2 * j % mode.pixelsPerByte = 2 * (j % mode.clocksPerByte) :=
    Nat.mul_mod_mul_left 2 j mode.clocksPerByte
  have next : (2 * j + 1) % mode.pixelsPerByte = 2 * (j % mode.clocksPerByte) + 1 := by
    have first := Nat.div_add_mod (2 * j) mode.pixelsPerByte
    have second := Nat.div_add_mod (2 * j + 1) mode.pixelsPerByte
    rw [cell] at second
    omega
  rw [rowPixel, rowPixel, cell, place, next, cellPixel_pairs]

end

theorem even_bounds (a : Antic) (width : Width) :
    2 ∣ width.left ∧ 2 ∣ width.right ∧ 2 ∣ a.dataStart width ∧
      2 ∣ a.data.size * a.mode.pixelsPerByte := by
  have left (width : Width) : 2 ∣ width.left := by cases width <;> decide
  refine ⟨left width, by cases width <;> decide, ?_,
    Nat.dvd_mul_left_of_dvd (Nat.dvd_mul_right 2 _) _⟩
  unfold dataStart
  split
  · exact Nat.dvd_add (left _) (Nat.dvd_mul_right 2 _)
  · exact left width

theorem uniform_render (a : Antic) (m : Memory) (g : Gtia) (width : Width) (row : UInt8)
    {line : Line} (h : line.Uniform) : (a.render m g width row line).Uniform := by
  obtain ⟨evenLeft, evenRight, evenStart, evenData⟩ := a.even_bounds width
  unfold render
  dsimp only
  generalize a.data.size * a.mode.pixelsPerByte = length at evenData ⊢
  generalize a.data.data.map (a.cell m row) = cells
  obtain ⟨first, left⟩ : 2 ∣ max (a.dataStart width) width.left := by omega
  obtain ⟨clocks, count⟩ :
      2 ∣ min width.right (a.dataStart width + length) - 2 * first := by omega
  rw [left, count]
  refine h.paint first clocks (fun k behind => ?_) fun x => cellPixel_single g _ _ _
  have even : 2 * k - a.dataStart width = 2 * (k - a.dataStart width / 2) := by omega
  have odd : 2 * k + 1 - a.dataStart width = 2 * (k - a.dataStart width / 2) + 1 := by omega
  rw [even, odd, rowPixel_pairs]

namespace LineState

theorem line_followList (s : LineState) (m : Memory) (line : Nat) (start : UInt64) :
    (s.followList m line start).line = s.line := by
  unfold followList
  split
  · rfl
  · split <;> rfl

theorem gtia_followList (s : LineState) (m : Memory) (line : Nat) (start : UInt64) :
    (s.followList m line start).gtia = s.gtia := by
  unfold followList
  split
  · rfl
  · split <;> rfl

theorem gtia_drawPlayfield (s : LineState) (m : Memory) (line : Nat) :
    (s.drawPlayfield m line).gtia = s.gtia := by
  unfold drawPlayfield
  split <;> rfl

theorem uniform_drawPlayfield {s : LineState} (h : s.line.Uniform) (m : Memory) (line : Nat) :
    (s.drawPlayfield m line).line.Uniform := by
  unfold drawPlayfield
  split
  · exact h
  · exact h
  · exact uniform_render _ m _ _ _ h

end LineState

end Antic

namespace Gtia

theorem getElem_meet (q : Quad) (mask : UInt8) (bits : Nat → UInt8) (i : Nat) (inside : i < 4) :
    (Quad.meet q mask bits)[i] = if mask.toNat.testBit i then q[i] ||| bits i else q[i] := by
  simp [Quad.meet]

theorem meet_meet (q : Quad) (mask : UInt8) (bits : Nat → UInt8) :
    Quad.meet (Quad.meet q mask bits) mask bits = Quad.meet q mask bits := by
  ext i inside
  rw [getElem_meet, getElem_meet]
  split
  · rw [UInt8.or_assoc, UInt8.or_self]
  · rfl

theorem note_note (h : Hits) (players missiles playfields : UInt8) :
    (h.note players missiles playfields).note players missiles playfields =
      h.note players missiles playfields := by
  simp only [Hits.note, meet_meet]

def hitsOfPixels (g : Gtia) (playfields : Bytes lineWidth) (n : Nat) : Hits :=
  Nat.fold n
    (fun x _ hits => hits.note (g.playersAt (x / 2)) (g.missilesAt (x / 2)) (playfields.getD x))
    g.hits

variable (g : Gtia) {line : Line}

theorem hitsOfPixels_succ (playfields : Bytes lineWidth) (n : Nat) :
    g.hitsOfPixels playfields (n + 1) =
      (g.hitsOfPixels playfields n).note (g.playersAt (n / 2)) (g.missilesAt (n / 2))
        (playfields.getD n) := Nat.fold_succ ..

theorem hitsUpTo_succ (line : Line) (n : Nat) :
    g.hitsUpTo line (n + 1) =
      (g.hitsUpTo line n).note (g.playersAt n) (g.missilesAt n)
        (line.playfields.getD (2 * n)) := rfl

theorem hitsOfPixels_double (uniform : line.Uniform) (n : Nat) (inside : n ≤ colorClocks) :
    g.hitsOfPixels line.playfields (2 * n) = g.hitsUpTo line n := by
  induction n with
  | zero => rfl
  | succ n ih =>
    have first : 2 * n / 2 = n := by omega
    have second : (2 * n + 1) / 2 = n := by omega
    rw [show 2 * (n + 1) = 2 * n + 1 + 1 by omega, hitsOfPixels_succ, hitsOfPixels_succ, first,
      second, ← uniform.pairs n inside, note_note, ih (Nat.le_of_succ_le inside), hitsUpTo_succ]

theorem hits_drawLine_of_uniform (uniform : line.Uniform) :
    (g.drawLine line).1.hits = g.hitsOfPixels line.playfields lineWidth := by
  rw [show lineWidth = 2 * colorClocks from rfl, g.hitsOfPixels_double uniform _ (Nat.le_refl _)]
  exact congrArg Gtia.hits drawn_drawLine.gtia

end Gtia

namespace Antic

section

variable (a : Antic) (m : Memory) (g : Gtia) (start : UInt64) (s : Schedule)

def painted : LineState := (a.followed m g start s).drawPlayfield m a.scanline

theorem drawn_of_shown (shown : isShown a.scanline = true) :
    a.drawn m g start s = (a.painted m g start s).drawObjects := if_pos shown

theorem uniform_painted : (a.painted m g start s).line.Uniform := by
  refine LineState.uniform_drawPlayfield ?_ m a.scanline
  rw [followed, LineState.line_followList]
  exact Line.uniform_blank _

def loaded : Gtia := (g.fetchObjects m a.scanline a.dmaControl a.objectBase).2

theorem gtia_painted : (a.painted m g start s).gtia = a.loaded m g := by
  have registers : (a.opening.dmaControl, a.opening.objectBase) = (a.dmaControl, a.objectBase) := by
    unfold opening
    dsimp only
    split <;> rfl
  obtain ⟨control, base⟩ := Prod.mk.inj registers
  rw [painted, LineState.gtia_drawPlayfield, followed, LineState.gtia_followList]
  show (g.fetchObjects m a.scanline a.opening.dmaControl a.opening.objectBase).2 = _
  rw [control, base, loaded]

end

/-- Colour clocks are uniform on every line. Both pixels of a colour clock belong to the same
playfield, and each pixel to one of four at most. So what a line notes are the collisions of all its
pixels, though only every other one is looked at. -/
theorem uniform_processLine (a : Antic) (m : Memory) (g : Gtia) (start : UInt64) (s : Schedule) :
    let done := a.processLine m g start s
    (∀ k < 228, done.line.playfields.getD (2 * k) = done.line.playfields.getD (2 * k + 1)) ∧
      (∀ x < 456, done.line.playfields.getD x ∈ [0x00, 0x01, 0x02, 0x04, 0x08]) ∧
      done.gtia.hits =
        if isShown a.scanline then (a.loaded m g).hitsOfPixels done.line.playfields 456
        else g.hits := by
  intro done
  cases shown : isShown a.scanline with
  | false =>
    have drawn : a.drawn m g start s = a.undrawn g s := by
      rw [drawn, shown]
      rfl
    have line : done.line = Line.blank g.background := congrArg LineState.line drawn
    have uniform := Line.uniform_blank g.background
    rw [line]
    exact ⟨uniform.pairs, uniform.single, congrArg (·.gtia.hits) drawn⟩
  | true =>
    have drawn := a.drawn_of_shown m g start s shown
    have uniform := a.uniform_painted m g start s
    have composed : Gtia.Drawn (a.painted m g start s).gtia (a.painted m g start s).line colorClocks
        ((a.painted m g start s).gtia.drawLine (a.painted m g start s).line) :=
      Gtia.drawn_drawLine
    have playfields : done.line.playfields = (a.painted m g start s).line.playfields :=
      (congrArg (·.line.playfields) drawn).trans composed.playfields
    have hits := (congrArg (·.gtia.hits) drawn).trans (Gtia.hits_drawLine_of_uniform _ uniform)
    rw [gtia_painted] at hits
    rw [playfields]
    exact ⟨uniform.pairs, uniform.single, hits⟩

end Antic

end Atari800XL
