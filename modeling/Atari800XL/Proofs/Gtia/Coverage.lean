import Atari800XL.Gtia.Objects

namespace Atari800XL.Gtia

def clocksPerBit : Nat → Nat
  | 1 => 2
  | 3 => 4
  | _ => 1

def fieldOf (value : UInt8) (m : Fin 4) : Nat := (value.toNat >>> (2 * m.val)) % 4

structure Strip where
  graphics : Nat
  bits : Nat
  position : Nat
  width : Nat

namespace Strip

def Covers (s : Strip) (clock : Nat) : Prop :=
  s.position ≤ clock ∧ clock < s.position + s.bits * s.width ∧
    s.graphics.testBit (s.bits - 1 - (clock - s.position) / s.width) = true

instance (s : Strip) (clock : Nat) : Decidable (s.Covers clock) :=
  inferInstanceAs (Decidable (_ ∧ _ ∧ _))

theorem not_covers_of_blank {s : Strip} (blank : s.graphics = 0) (clock : Nat) :
    ¬s.Covers clock := by
  rintro ⟨-, -, set⟩
  simp [blank] at set

end Strip

def player (g : Gtia) (p : Fin 4) : Strip where
  graphics := (g.playerGraphics.get p).toNat
  bits := 8
  position := (g.playerPosition.get p).toNat
  width := clocksPerBit ((g.playerSize.get p).toNat % 4)

def missile (g : Gtia) (m : Fin 4) : Strip where
  graphics := fieldOf g.missileGraphics m
  bits := 2
  position := (g.missilePosition.get m).toNat
  width := clocksPerBit (fieldOf g.missileSize m)

theorem clocksPerBit_pos (size : Nat) : 0 < clocksPerBit size := by
  unfold clocksPerBit
  split <;> decide

theorem objectWidth_eq (size : UInt8) : objectWidth size = clocksPerBit (size.toNat % 4) := by
  have low : (size &&& 0x03).toNat = size.toNat % 4 := by
    rw [UInt8.toNat_and]
    exact Nat.and_two_pow_sub_one_eq_mod _ 2
  rw [objectWidth, low]
  rfl

theorem toNat_missileField (value : UInt8) (m : Fin 4) :
    (missileField value m).toNat = fieldOf value m := by
  have all : ∀ m : Fin 4, ∀ n < 256,
      (missileField (UInt8.ofNat n) m).toNat = (n >>> (2 * m.val)) % 4 := by decide +kernel
  have here := all m value.toNat value.toNat_lt
  rwa [UInt8.ofNat_toNat] at here

theorem get_eq_getElem (q : Quad) (i : Fin 4) : q.get i = getElem q i.val i.isLt := rfl

theorem at4_fin (q : Quad) (i : Fin 4) : q.at4 i = q.get i := by
  simp [Quad.at4, get_eq_getElem, Nat.mod_eq_of_lt i.isLt]

theorem covers_iff (graphics position : UInt8) (bits : Nat) {width : Nat} (wide : 0 < width)
    (clock : Nat) :
    covers graphics bits position width clock = true ↔
      Strip.Covers ⟨graphics.toNat, bits, position.toNat, width⟩ clock := by
  simp only [covers, Strip.Covers, Bool.and_eq_true, decide_eq_true_eq]
  refine and_congr_right fun behind => and_congr_left fun _ => ?_
  rw [Nat.div_lt_iff_lt_mul wide]
  omega

section

variable (g : Gtia)

theorem playerCovers_iff (p : Fin 4) (clock : Nat) :
    g.playerCovers p clock = true ↔ (g.player p).Covers clock := by
  simp only [playerCovers, at4_fin, objectWidth_eq]
  exact covers_iff _ _ 8 (clocksPerBit_pos _) clock

theorem missileCovers_iff (m : Fin 4) (clock : Nat) :
    g.missileCovers m clock = true ↔ (g.missile m).Covers clock := by
  have small : fieldOf g.missileSize m % 4 = fieldOf g.missileSize m := Nat.mod_mod _ 4
  simp only [missileCovers, at4_fin, objectWidth_eq, toNat_missileField, small]
  rw [covers_iff _ _ 2 (clocksPerBit_pos _), toNat_missileField]
  rfl

theorem testBit_mask4 (f : Nat → Bool) (j : Nat) :
    (mask4 f).toNat.testBit j = true ↔ ∃ i : Fin 4, i.val = j ∧ f i = true := by
  have one (on : Bool) (i : Nat) (bit : UInt8) (single : bit.toNat = 2 ^ i) :
      (bitIf on bit).toNat.testBit j = (on && decide (i = j)) := by
    cases on <;> simp [bitIf, single, Nat.testBit_two_pow]
  simp only [mask4, UInt8.toNat_or, Nat.testBit_or, one _ 0 1 rfl, one _ 1 2 rfl,
    one _ 2 4 rfl, one _ 3 8 rfl, Bool.or_eq_true, Bool.and_eq_true, decide_eq_true_eq]
  constructor
  · rintro (((⟨on, rfl⟩ | ⟨on, rfl⟩) | ⟨on, rfl⟩) | ⟨on, rfl⟩)
    · exact ⟨0, rfl, on⟩
    · exact ⟨1, rfl, on⟩
    · exact ⟨2, rfl, on⟩
    · exact ⟨3, rfl, on⟩
  · rintro ⟨⟨_ | _ | _ | _ | i, inside⟩, rfl, on⟩
    · exact .inl (.inl (.inl ⟨on, rfl⟩))
    · exact .inl (.inl (.inr ⟨on, rfl⟩))
    · exact .inl (.inr ⟨on, rfl⟩)
    · exact .inr ⟨on, rfl⟩
    · omega

theorem testBit_playersAt (clock j : Nat) :
    (g.playersAt clock).toNat.testBit j = true ↔
      ∃ p : Fin 4, p.val = j ∧ (g.player p).Covers clock := by
  simp only [playersAt, testBit_mask4, playerCovers_iff]

theorem testBit_missilesAt (clock j : Nat) :
    (g.missilesAt clock).toNat.testBit j = true ↔
      ∃ m : Fin 4, m.val = j ∧ (g.missile m).Covers clock := by
  simp only [missilesAt, testBit_mask4, missileCovers_iff]

theorem eq_zero_of_bits {value : UInt8} (none : ∀ j, value.toNat.testBit j ≠ true) : value = 0 := by
  rw [← UInt8.toNat_inj]
  apply Nat.eq_of_testBit_eq
  intro j
  simpa using none j

variable {g}

theorem playersAt_eq_zero {clock : Nat} (bare : ∀ p, ¬(g.player p).Covers clock) :
    g.playersAt clock = 0 := by
  refine eq_zero_of_bits fun j set => ?_
  obtain ⟨p, -, covers⟩ := (g.testBit_playersAt clock j).1 set
  exact bare p covers

theorem missilesAt_eq_zero {clock : Nat} (bare : ∀ m, ¬(g.missile m).Covers clock) :
    g.missilesAt clock = 0 := by
  refine eq_zero_of_bits fun j set => ?_
  obtain ⟨m, -, covers⟩ := (g.testBit_missilesAt clock j).1 set
  exact bare m covers

theorem playersAt_of_empty (empty : g.objectsEmpty = true) (clock : Nat) :
    g.playersAt clock = 0 := by
  obtain ⟨-, blank⟩ := Bool.and_eq_true_iff.1 empty
  refine playersAt_eq_zero fun p => Strip.not_covers_of_blank ?_ clock
  have zero : g.playerGraphics.get p = 0 := by
    simpa [get_eq_getElem] using Vector.all_eq_true.1 blank p p.isLt
  rw [player, zero]
  rfl

theorem missilesAt_of_empty (empty : g.objectsEmpty = true) (clock : Nat) :
    g.missilesAt clock = 0 := by
  obtain ⟨blank, -⟩ := Bool.and_eq_true_iff.1 empty
  refine missilesAt_eq_zero fun m => Strip.not_covers_of_blank ?_ clock
  rw [missile, fieldOf, eq_of_beq blank]
  simp

variable (g)

theorem loadPlayer_eq (m : Memory) (area : ObjectArea) (held : UInt8 → Bool) (n : Nat) :
    ∃ players, g.loadPlayer m area held n = { g with playerGraphics := players } := by
  unfold loadPlayer
  split
  · exact ⟨g.playerGraphics, rfl⟩
  · exact ⟨_, rfl⟩

theorem loadPlayers_eq (m : Memory) (area : ObjectArea) (held : UInt8 → Bool) (loaded : List Nat) :
    ∃ players, loaded.foldl (fun g p => g.loadPlayer m area held p) g =
      { g with playerGraphics := players } := by
  induction loaded generalizing g with
  | nil => exact ⟨g.playerGraphics, rfl⟩
  | cons n loaded ih =>
    obtain ⟨first, once⟩ := g.loadPlayer_eq m area held n
    obtain ⟨players, all⟩ := ih (g.loadPlayer m area held n)
    exact ⟨players, by rw [List.foldl_cons, all, once]⟩

theorem fetchObjects_eq (m : Memory) (line : Nat) (dmaControl pageBase : UInt8) :
    ∃ missiles players, (g.fetchObjects m line dmaControl pageBase).2 =
      { g with missileGraphics := missiles, playerGraphics := players } := by
  unfold fetchObjects
  dsimp only
  split
  · exact ⟨g.missileGraphics, g.playerGraphics, rfl⟩
  · have missiles (load : Bool) (data : UInt8) (held : UInt8 → Bool) : ∃ missiles,
        (if load then g.loadMissiles data held else g) =
          { g with missileGraphics := missiles } := by
      cases load
      · exact ⟨g.missileGraphics, rfl⟩
      · exact ⟨_, rfl⟩
    obtain ⟨missiles, loaded⟩ := missiles (hasBit g.control 0x01) _ _
    rw [loaded]
    split
    · exact ⟨missiles, g.playerGraphics, rfl⟩
    · split
      · exact ⟨missiles, loadPlayers_eq { g with missileGraphics := missiles } m _ _ _⟩
      · exact ⟨missiles, g.playerGraphics, rfl⟩

end

end Atari800XL.Gtia
