import Atari800XL.Gtia.Compose
import Atari800XL.Proofs.Gtia.Coverage

namespace Atari800XL.Gtia

open Display

def gather (q : Quad) (masks : Nat → UInt8) (bits : Nat → Nat → UInt8) : Nat → Quad
  | 0 => q
  | n + 1 => Quad.meet (gather q masks bits n) (masks n) (bits n)

theorem testBit_gather (q : Quad) (masks : Nat → UInt8) (bits : Nat → Nat → UInt8) (n : Nat)
    (i : Fin 4) (j : Nat) :
    ((gather q masks bits n).get i).toNat.testBit j = true ↔
      (q.get i).toNat.testBit j = true ∨ ∃ c < n, (masks c).toNat.testBit i = true ∧
        (bits c i).toNat.testBit j = true := by
  induction n with
  | zero => simp [gather]
  | succ n ih =>
    have met : (gather q masks bits (n + 1)).get i =
        if (masks n).toNat.testBit i then (gather q masks bits n).get i ||| bits n i
        else (gather q masks bits n).get i := by
      simp [gather, Quad.meet, get_eq_getElem]
    have split : ((gather q masks bits (n + 1)).get i).toNat.testBit j = true ↔
        ((gather q masks bits n).get i).toNat.testBit j = true ∨
          (masks n).toNat.testBit i = true ∧ (bits n i).toNat.testBit j = true := by
      rw [met]
      split <;> simp_all
    simp only [split, ih, Nat.lt_succ_iff_lt_or_eq, or_assoc, or_and_right, exists_or,
      exists_eq_left]

theorem meet_zero (q : Quad) (bits : Nat → UInt8) : Quad.meet q 0 bits = q := by
  ext i inside
  simp [Quad.meet]

theorem note_zero (h : Hits) (playfields : UInt8) : h.note 0 0 playfields = h := by
  simp only [Hits.note, meet_zero]

variable (g : Gtia) (line : Line)

def hitsUpTo (n : Nat) : Hits where
  missilePlayfields :=
    gather g.hits.missilePlayfields g.missilesAt (fun c _ => line.playfields.getD (2 * c)) n
  missilePlayers := gather g.hits.missilePlayers g.missilesAt (fun c _ => g.playersAt c) n
  playerPlayfields :=
    gather g.hits.playerPlayfields g.playersAt (fun c _ => line.playfields.getD (2 * c)) n
  playerPlayers :=
    gather g.hits.playerPlayers g.playersAt
      (fun c i => g.playersAt c &&& ~~~(1 <<< UInt8.ofNat i)) n

def shownColor (x : Nat) (h : x < lineWidth) : UInt8 :=
  (g.objectColor (g.playersAt (x / 2)) (g.missilesAt (x / 2)) (line.playfields.get x h)).getD
    (line.colors.get x h)

theorem objectColor_zero (playfields : UInt8) : g.objectColor 0 0 playfields = none := by
  simp [objectColor, select, Selection.anyPlayer, hasBit]

theorem shownColor_of_bare {x : Nat} (players : g.playersAt (x / 2) = 0)
    (missiles : g.missilesAt (x / 2) = 0) (h : x < lineWidth) :
    g.shownColor line x h = line.colors.get x h := by
  rw [shownColor, players, missiles, objectColor_zero]
  rfl

structure Drawn (n : Nat) (state : Gtia × Line) : Prop where
  gtia : state.1 = { g with hits := g.hitsUpTo line n }
  playfields : state.2.playfields = line.playfields
  colors : ∀ x h, state.2.colors.get x h =
    if x < 2 * n then g.shownColor line x h else line.colors.get x h

variable {g line}

theorem drawn_zero : Drawn g line 0 (g, line) where
  gtia := rfl
  playfields := rfl
  colors _ _ := rfl

theorem playfields_composePixel (players missiles : UInt8) (drawn : Line) (x : Nat) :
    (g.composePixel players missiles drawn x).playfields = drawn.playfields := by
  unfold composePixel
  split
  · split <;> rfl
  · rfl

theorem colors_composePixel (players missiles : UInt8) (drawn : Line) {x y : Nat}
    (hx : x < lineWidth) (hy : y < lineWidth) :
    (g.composePixel players missiles drawn x).colors.get y hy =
      if x = y then
        (g.objectColor players missiles (drawn.playfields.get y hy)).getD (drawn.colors.get y hy)
      else drawn.colors.get y hy := by
  rw [composePixel, dif_pos hx]
  by_cases same : x = y
  · subst same
    rw [if_pos rfl]
    split <;> simp_all
  · rw [if_neg same]
    split
    · rw [Bytes.get_set, if_neg same]
    · rfl

theorem Drawn.bare {n : Nat} {state : Gtia × Line} (drawn : Drawn g line n state)
    (players : g.playersAt n = 0) (missiles : g.missilesAt n = 0) : Drawn g line (n + 1) state where
  gtia := by
    have same : g.hitsUpTo line (n + 1) = g.hitsUpTo line n := by
      show (g.hitsUpTo line n).note (g.playersAt n) (g.missilesAt n) _ = _
      rw [players, missiles, note_zero]
    rw [same]
    exact drawn.gtia
  playfields := drawn.playfields
  colors x h := by
    rw [drawn.colors]
    by_cases here : x / 2 = n
    · have shown := g.shownColor_of_bare line (here ▸ players) (here ▸ missiles) h
      rw [shown, ite_self, ite_self]
    · have same : x < 2 * n ↔ x < 2 * (n + 1) := by omega
      simp only [same]

theorem Drawn.compose {n : Nat} {state : Gtia × Line} (drawn : Drawn g line n state)
    (inside : n < colorClocks) : Drawn g line (n + 1) (composeClock state n) := by
  obtain ⟨g', line'⟩ := state
  obtain ⟨gtia, playfields, colors⟩ := id drawn
  subst gtia
  dsimp only at playfields colors
  have first : 2 * n < lineWidth := by
    have : lineWidth = 2 * colorClocks := rfl
    omega
  have second : 2 * n + 1 < lineWidth := by
    have : lineWidth = 2 * colorClocks := rfl
    omega
  unfold composeClock
  dsimp only
  split
  case isTrue none =>
    obtain ⟨players, missiles⟩ := Bool.and_eq_true_iff.1 none
    exact drawn.bare (eq_of_beq players) (eq_of_beq missiles)
  case isFalse some =>
    constructor
    · show { g with hits := (g.hitsUpTo line n).note _ _ (line'.playfields.getD (2 * n)) } = _
      rw [playfields]
      rfl
    · rw [playfields_composePixel, playfields_composePixel, playfields]
    · intro x h
      rw [colors_composePixel _ _ _ second h, colors_composePixel _ _ _ first h,
        playfields_composePixel, playfields, colors]
      by_cases here : x / 2 = n
      · have shown : (g.objectColor (g.playersAt n) (g.missilesAt n)
            (line.playfields.get x h)).getD (line.colors.get x h) = g.shownColor line x h := by
          rw [shownColor, here]
        have fresh : ¬x < 2 * n := by omega
        rw [if_neg fresh, if_pos (show x < 2 * (n + 1) by omega)]
        by_cases even : 2 * n = x
        · have apart : ¬2 * n + 1 = x := by omega
          rw [if_neg apart, if_pos even]
          exact shown
        · rw [if_pos (show 2 * n + 1 = x by omega), if_neg even]
          exact shown
      · have same : x < 2 * (n + 1) ↔ x < 2 * n := by omega
        rw [if_neg (show ¬2 * n + 1 = x by omega), if_neg (show ¬2 * n = x by omega)]
        simp only [same]

theorem drawn_fold (n : Nat) (inside : n ≤ colorClocks) :
    Drawn g line n (Nat.fold n (fun clock _ state => composeClock state clock) (g, line)) := by
  induction n with
  | zero => exact drawn_zero
  | succ n ih =>
    rw [Nat.fold_succ]
    exact (ih (by omega)).compose inside

theorem drawn_drawLine : Drawn g line colorClocks (g.drawLine line) := by
  unfold drawLine
  split
  case isTrue empty =>
    have drawn (n : Nat) : Drawn g line n (g, line) := by
      induction n with
      | zero => exact drawn_zero
      | succ n ih => exact ih.bare (playersAt_of_empty empty n) (missilesAt_of_empty empty n)
    exact drawn colorClocks
  case isFalse => exact drawn_fold colorClocks (Nat.le_refl _)

end Atari800XL.Gtia
