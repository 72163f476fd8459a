import Atari800XL.Proofs.Gtia.Collisions
import Atari800XL.Proofs.Word

/-! What a line shows where objects cover it. The priorities are stated of what is present in a
pixel; the circuit selects just that. -/

namespace Atari800XL.Gtia

open Display

inductive Signal
  | player0
  | player1
  | player2
  | player3
  | playfield0
  | playfield1
  | playfield2
  | playfield3
  | background
  deriving DecidableEq

def Selection.has (s : Selection) : Signal → Bool
  | .player0 => s.player0
  | .player1 => s.player1
  | .player2 => s.player2
  | .player3 => s.player3
  | .playfield0 => s.playfield0
  | .playfield1 => s.playfield1
  | .playfield2 => s.playfield2
  | .playfield3 => s.playfield3
  | .background => s.background

def color (g : Gtia) : Signal → UInt8
  | .player0 => g.playerColor.at4 0
  | .player1 => g.playerColor.at4 1
  | .player2 => g.playerColor.at4 2
  | .player3 => g.playerColor.at4 3
  | .playfield0 => g.playfieldColor.at4 0
  | .playfield1 => g.playfieldColor.at4 1
  | .playfield2 => g.playfieldColor.at4 2
  | .playfield3 => g.playfieldColor.at4 3
  | .background => g.background

structure Presence where
  player : Fin 4 → Prop
  playfield : Fin 4 → Prop

namespace Presence

variable (priority : UInt8) (here : Presence)

def FirstInFront : Prop :=
  ¬((here.playfield 0 ∨ here.playfield 1) ∧ (marks priority 2 ∨ marks priority 3)) ∧
    ¬((here.playfield 2 ∨ here.playfield 3) ∧ marks priority 2)

def SecondInFront : Prop :=
  ¬(here.player 0 ∨ here.player 1) ∧
    ¬((here.playfield 2 ∨ here.playfield 3) ∧ (marks priority 1 ∨ marks priority 2)) ∧
    ¬((here.playfield 0 ∨ here.playfield 1) ∧ ¬marks priority 0)

def UpperInFront : Prop :=
  ¬((here.player 2 ∨ here.player 3) ∧ marks priority 0) ∧
    ¬((here.player 0 ∨ here.player 1) ∧ (marks priority 0 ∨ marks priority 1))

def LowerInFront : Prop :=
  ¬((here.player 2 ∨ here.player 3) ∧ (marks priority 0 ∨ marks priority 3)) ∧
    ¬((here.player 0 ∨ here.player 1) ∧ ¬marks priority 2)

/-- The priorities. Bits 0 to 3 are the four orders that there are; with bit 5 players show through
each other. -/
def Selects : Signal → Prop
  | .player0 => here.player 0 ∧ here.FirstInFront priority
  | .player1 =>
    here.player 1 ∧ here.FirstInFront priority ∧ (here.player 0 → marks priority 5)
  | .player2 => here.player 2 ∧ here.SecondInFront priority
  | .player3 =>
    here.player 3 ∧ here.SecondInFront priority ∧ (here.player 2 → marks priority 5)
  | .playfield0 => here.playfield 0 ∧ here.UpperInFront priority ∧
      ¬(here.playfield 3 ∧ here.LowerInFront priority)
  | .playfield1 => here.playfield 1 ∧ here.UpperInFront priority ∧
      ¬(here.playfield 3 ∧ here.LowerInFront priority)
  | .playfield2 => here.playfield 2 ∧ here.LowerInFront priority ∧
      ¬(here.playfield 3 ∧ here.LowerInFront priority)
  | .playfield3 => here.playfield 3 ∧ here.LowerInFront priority
  | .background => ¬(here.player 0 ∨ here.player 1) ∧ ¬(here.player 2 ∨ here.player 3) ∧
      ¬(here.playfield 0 ∨ here.playfield 1) ∧ ¬(here.playfield 2 ∨ here.playfield 3)

def SelectsPlayer : Prop :=
  here.Selects priority .player0 ∨ here.Selects priority .player1 ∨
    here.Selects priority .player2 ∨ here.Selects priority .player3

variable {priority}

theorem exists_selects (single : ∀ i < 4, ∀ j < 4, marks priority i → marks priority j → i = j) :
    ∃ signal, here.Selects priority signal := by
  apply Classical.byContradiction
  intro none
  have off (signal : Signal) : ¬here.Selects priority signal := fun on => none ⟨signal, on⟩
  have first : here.FirstInFront priority → ¬(here.player 0 ∨ here.player 1) := by
    intro front
    have zero : ¬here.player 0 := fun present => off .player0 ⟨present, front⟩
    rintro (present | present)
    · exact zero present
    · exact off .player1 ⟨present, front, fun other => absurd other zero⟩
  have second : here.SecondInFront priority → ¬(here.player 2 ∨ here.player 3) := by
    intro front
    have two : ¬here.player 2 := fun present => off .player2 ⟨present, front⟩
    rintro (present | present)
    · exact two present
    · exact off .player3 ⟨present, front, fun other => absurd other two⟩
  have upper : here.UpperInFront priority → ¬(here.playfield 0 ∨ here.playfield 1) := by
    rintro front (present | present)
    · exact off .playfield0 ⟨present, front, off .playfield3⟩
    · exact off .playfield1 ⟨present, front, off .playfield3⟩
  have lower : here.LowerInFront priority → ¬(here.playfield 2 ∨ here.playfield 3) := by
    rintro front (present | present)
    · exact off .playfield2 ⟨present, front, off .playfield3⟩
    · exact off .playfield3 ⟨present, front⟩
  have some := off .background
  have apart01 := single 0 (by decide) 1 (by decide)
  have apart02 := single 0 (by decide) 2 (by decide)
  have apart03 := single 0 (by decide) 3 (by decide)
  have apart12 := single 1 (by decide) 2 (by decide)
  have apart13 := single 1 (by decide) 3 (by decide)
  have apart23 := single 2 (by decide) 3 (by decide)
  clear single off none
  simp only [Selects, FirstInFront, SecondInFront, UpperInFront, LowerInFront] at *
  grind

end Presence

theorem hasBit_iff_marks {value mask : UInt8} {n : Nat} (single : mask.toNat = 2 ^ n) :
    hasBit value mask = true ↔ marks value n := by
  rw [hasBit_eq_testBit single, marks]

theorem has_select {here : Presence} {players playfields : UInt8}
    (ofPlayers : ∀ n : Fin 4, marks players n ↔ here.player n)
    (ofPlayfields : ∀ n : Fin 4, marks playfields n ↔ here.playfield n) (priority : UInt8)
    (signal : Signal) :
    (select priority players playfields).has signal = true ↔ here.Selects priority signal := by
  have order (v : UInt8) : (hasBit v 0x01 = true ↔ marks v 0) ∧ (hasBit v 0x02 = true ↔ marks v 1) ∧
      (hasBit v 0x04 = true ↔ marks v 2) ∧ (hasBit v 0x08 = true ↔ marks v 3) :=
    ⟨hasBit_iff_marks rfl, hasBit_iff_marks rfl, hasBit_iff_marks rfl, hasBit_iff_marks rfl⟩
  obtain ⟨player0, player1, player2, player3⟩ := order players
  obtain ⟨playfield0, playfield1, playfield2, playfield3⟩ := order playfields
  obtain ⟨order0, order1, order2, order3⟩ := order priority
  have several : hasBit priority 0x20 = true ↔ marks priority 5 := hasBit_iff_marks rfl
  replace player0 := player0.trans (ofPlayers 0)
  replace player1 := player1.trans (ofPlayers 1)
  replace player2 := player2.trans (ofPlayers 2)
  replace player3 := player3.trans (ofPlayers 3)
  replace playfield0 := playfield0.trans (ofPlayfields 0)
  replace playfield1 := playfield1.trans (ofPlayfields 1)
  replace playfield2 := playfield2.trans (ofPlayfields 2)
  replace playfield3 := playfield3.trans (ofPlayfields 3)
  clear ofPlayers ofPlayfields order
  cases signal <;>
    simp only [select, Selection.has, Presence.Selects, Presence.FirstInFront,
      Presence.SecondInFront, Presence.UpperInFront, Presence.LowerInFront,
      Bool.and_eq_true, Bool.or_eq_true, Bool.not_eq_true', ← Bool.not_eq_true, player0, player1,
      player2, player3, playfield0, playfield1, playfield2, playfield3, order0, order1, order2,
      order3, several] <;> grind

section

variable (g : Gtia) (clock : Nat)

def Covered : Prop := (∃ p, (g.player p).Covers clock) ∨ ∃ m, (g.missile m).Covers clock

def FifthPlayer : Prop := marks g.priority 4 ∧ ∃ m, (g.missile m).Covers clock

/-- What is present in a pixel. A missile counts as the player of its number; those of a fifth
player count as playfield 3. -/
def presence (playfields : UInt8) : Presence where
  player n := (g.player n).Covers clock ∨ ¬marks g.priority 4 ∧ (g.missile n).Covers clock
  playfield n := marks playfields n ∨ n = 3 ∧ g.FifthPlayer clock

/-- What a pixel shows, from what it had. All that is selected is merged if a player is. -/
structure Shows (playfields own shown : UInt8) : Prop where
  merged : (g.presence clock playfields).SelectsPlayer g.priority → ∀ j, marks shown j ↔
    ∃ signal, (g.presence clock playfields).Selects g.priority signal ∧ marks (g.color signal) j
  fifth : ¬(g.presence clock playfields).SelectsPlayer g.priority →
    g.FifthPlayer clock → (g.presence clock playfields).Selects g.priority .playfield3 →
    shown = g.playfieldColor.at4 3
  own : ¬(g.presence clock playfields).SelectsPlayer g.priority →
    ¬(g.FifthPlayer clock ∧ (g.presence clock playfields).Selects g.priority .playfield3) →
    shown = own

theorem marks_or (v w : UInt8) (j : Nat) : marks (v ||| w) j ↔ marks v j ∨ marks w j := by
  simp [marks]

theorem marks_mergedColor (s : Selection) (j : Nat) :
    marks (g.mergedColor s) j ↔ ∃ signal, s.has signal = true ∧ marks (g.color signal) j := by
  have pick (on : Bool) (color : UInt8) :
      marks (if on then color else 0) j ↔ on = true ∧ marks color j := by
    cases on <;> simp [marks]
  have listed (P : Signal → Prop) : (∃ signal, P signal) ↔ P .player0 ∨ P .player1 ∨ P .player2 ∨
      P .player3 ∨ P .playfield0 ∨ P .playfield1 ∨ P .playfield2 ∨ P .playfield3 ∨
      P .background := by
    constructor
    · rintro ⟨signal, holds⟩
      cases signal <;> simp only [holds, true_or, or_true]
    · rintro (holds | holds | holds | holds | holds | holds | holds | holds | holds) <;>
        exact ⟨_, holds⟩
  simp only [mergedColor, marks_or, pick, listed, or_assoc]
  rfl

theorem missilesAt_ne_zero : g.missilesAt clock ≠ 0 ↔ ∃ m, (g.missile m).Covers clock := by
  constructor
  · intro some
    apply Classical.byContradiction
    intro none
    exact some (missilesAt_eq_zero fun m covers => none ⟨m, covers⟩)
  · rintro ⟨m, covers⟩ none
    have set := (g.marks_missilesAt clock m).2 covers
    simp [none, marks] at set

theorem fifthShows_iff :
    (hasBit g.priority 0x10 && g.missilesAt clock != 0) = true ↔ g.FifthPlayer clock := by
  rw [Bool.and_eq_true, bne_iff_ne, missilesAt_ne_zero, hasBit_iff_marks (n := 4) rfl]
  rfl

theorem marks_objects (n : Fin 4) (playfields : UInt8) :
    marks (if hasBit g.priority 0x10 then g.playersAt clock
      else g.playersAt clock ||| g.missilesAt clock) n ↔
      (g.presence clock playfields).player n := by
  have fifth : hasBit g.priority 0x10 = true ↔ marks g.priority 4 := hasBit_iff_marks rfl
  by_cases on : hasBit g.priority 0x10 = true
  · rw [if_pos on, marks_playersAt]
    exact ⟨.inl, fun here => here.resolve_right fun beside => beside.1 (fifth.1 on)⟩
  · rw [if_neg on, marks_or, marks_playersAt, marks_missilesAt]
    exact or_congr_right ⟨fun here => ⟨fun set => on (fifth.2 set), here⟩, And.right⟩

theorem marks_playfields (n : Fin 4) (playfields : UInt8) :
    marks (if hasBit g.priority 0x10 && g.missilesAt clock != 0 then playfields ||| fifthPlayfield
      else playfields) n ↔ (g.presence clock playfields).playfield n := by
  have third : ∀ n : Fin 4, marks fifthPlayfield n ↔ n = 3 := by
    unfold marks
    decide
  by_cases on : (hasBit g.priority 0x10 && g.missilesAt clock != 0) = true
  · rw [if_pos on, marks_or, third]
    exact or_congr_right ⟨fun here => ⟨here, (g.fifthShows_iff clock).1 on⟩, And.left⟩
  · rw [if_neg on]
    exact ⟨.inl, fun here => here.resolve_right fun beside =>
      on ((g.fifthShows_iff clock).2 beside.2)⟩

theorem shows_objectColor (playfields own : UInt8) :
    g.Shows clock playfields own
      ((g.objectColor (g.playersAt clock) (g.missilesAt clock) playfields).getD own) := by
  have selects := has_select (fun n => g.marks_objects clock n playfields)
    (fun n => g.marks_playfields clock n playfields) g.priority
  have fifth := g.fifthShows_iff clock
  unfold objectColor
  dsimp only
  generalize select g.priority _ _ = s at selects ⊢
  generalize (hasBit g.priority 0x10 && g.missilesAt clock != 0) = shows at fifth ⊢
  have player : s.anyPlayer = true ↔
      (g.presence clock playfields).SelectsPlayer g.priority := by
    simp only [Presence.SelectsPlayer, ← selects]
    simp only [Selection.anyPlayer, Selection.has, Bool.or_eq_true, or_assoc]
  have third : s.playfield3 = true ↔
      (g.presence clock playfields).Selects g.priority .playfield3 := selects .playfield3
  constructor
  · intro selected j
    rw [if_pos (player.2 selected)]
    simp only [Option.getD_some, marks_mergedColor, selects]
  · intro none shown selected
    have on : (shows && s.playfield3) = true :=
      Bool.and_eq_true_iff.2 ⟨fifth.2 shown, third.2 selected⟩
    rw [if_neg (mt player.1 none), if_pos on]
    rfl
  · intro none hidden
    have off : ¬(shows && s.playfield3) = true := by
      rwa [Bool.and_eq_true, fifth, third]
    rw [if_neg (mt player.1 none), if_neg off]
    rfl

/-- A line with its objects: each pixel that they lie over shows what the priorities select. A pixel
for which nothing is selected keeps its colour, and this happens only if the register holds several
orders at once. -/
theorem shows_drawLine (line : Line) :
    (g.drawLine line).2.playfields = line.playfields ∧ ∀ x (h : x < lineWidth),
      (¬g.Covered (x / 2) → (g.drawLine line).2.colors.get x h = line.colors.get x h) ∧
      (g.Covered (x / 2) → g.Shows (x / 2) (line.playfields.get x h) (line.colors.get x h)
        ((g.drawLine line).2.colors.get x h)) ∧
      ((∀ signal, ¬(g.presence (x / 2) (line.playfields.get x h)).Selects g.priority signal) →
        (g.drawLine line).2.colors.get x h = line.colors.get x h) ∧
      ((∀ i < 4, ∀ j < 4, marks g.priority i → marks g.priority j → i = j) →
        ∃ signal, (g.presence (x / 2) (line.playfields.get x h)).Selects g.priority signal) := by
  refine ⟨drawn_drawLine.playfields, fun x h => ?_⟩
  have inside : x < 2 * colorClocks := h
  have drawn : (g.drawLine line).2.colors.get x h = g.shownColor line x h := by
    rw [drawn_drawLine.colors, if_pos inside]
  have shows : g.Shows (x / 2) (line.playfields.get x h) (line.colors.get x h)
      ((g.drawLine line).2.colors.get x h) := by
    rw [drawn]
    exact g.shows_objectColor (x / 2) _ _
  refine ⟨fun bare => ?_, fun _ => shows, fun none => ?_, Presence.exists_selects _⟩
  · rw [drawn]
    exact g.shownColor_of_bare line (playersAt_eq_zero fun p covers => bare (.inl ⟨p, covers⟩))
      (missilesAt_eq_zero fun m covers => bare (.inr ⟨m, covers⟩)) h
  · apply shows.own
    · rintro (on | on | on | on) <;> exact none _ on
    · exact fun fifth => none _ fifth.2

/-- Two orders at once: playfield 0 and a player hide each other, and the playfield stays. -/
theorem shows_drawLine_conflict :
    let g : Gtia :=
      { playerPosition := #v[100, 0, 0, 0], playerGraphics := #v[0xFF, 0, 0, 0],
        playerColor := #v[0x46, 0, 0, 0], priority := 0x05 }
    let line : Line := { colors := Bytes.replicate _ 0x34, playfields := Bytes.replicate _ 0x01 }
    g.Covered 100 ∧ (∀ signal, ¬(g.presence 100 0x01).Selects g.priority signal) ∧
      (g.drawLine line).2.colors.get 200 (by decide) = 0x34 := by
  intro g line
  have covered : g.Covered 100 := .inl ⟨0, by decide⟩
  have none : ∀ signal, ¬(g.presence 100 0x01).Selects g.priority signal := by
    have selects := has_select (fun n => g.marks_objects 100 n 0x01)
      (fun n => g.marks_playfields 100 n 0x01) g.priority
    intro signal on
    rw [← selects] at on
    revert on
    cases signal <;> decide
  have playfield : line.playfields.get 200 (by decide) = 0x01 := Array.getElem_replicate ..
  have own : line.colors.get 200 (by decide) = 0x34 := Array.getElem_replicate ..
  have kept := ((g.shows_drawLine line).2 200 (by decide)).2.2.1
  rw [playfield, own] at kept
  exact ⟨covered, none, kept none⟩

end

end Atari800XL.Gtia
