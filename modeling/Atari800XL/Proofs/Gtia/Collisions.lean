import Atari800XL.Proofs.Gtia.Composition

namespace Atari800XL.Gtia

open Display

def marks (register : UInt8) (j : Nat) : Prop := register.toNat.testBit j = true

structure Records (g : Gtia) (line : Line) (before after : Hits) : Prop where
  playerPlayfields (p : Fin 4) (j : Nat) :
    marks (after.playerPlayfields.get p) j ↔ marks (before.playerPlayfields.get p) j ∨
      ∃ c < colorClocks, (g.player p).Covers c ∧ marks (line.playfields.getD (2 * c)) j
  missilePlayfields (m : Fin 4) (j : Nat) :
    marks (after.missilePlayfields.get m) j ↔ marks (before.missilePlayfields.get m) j ∨
      ∃ c < colorClocks, (g.missile m).Covers c ∧ marks (line.playfields.getD (2 * c)) j
  playerPlayers (p : Fin 4) (j : Nat) :
    marks (after.playerPlayers.get p) j ↔ marks (before.playerPlayers.get p) j ∨
      ∃ c < colorClocks, ∃ q : Fin 4, q.val = j ∧ q ≠ p ∧
        (g.player p).Covers c ∧ (g.player q).Covers c
  missilePlayers (m : Fin 4) (j : Nat) :
    marks (after.missilePlayers.get m) j ↔ marks (before.missilePlayers.get m) j ∨
      ∃ c < colorClocks, ∃ q : Fin 4, q.val = j ∧ (g.missile m).Covers c ∧ (g.player q).Covers c

structure Hits.Within (before after : Hits) : Prop where
  playerPlayfields (i : Fin 4) (j : Nat) :
    marks (before.playerPlayfields.get i) j → marks (after.playerPlayfields.get i) j
  missilePlayfields (i : Fin 4) (j : Nat) :
    marks (before.missilePlayfields.get i) j → marks (after.missilePlayfields.get i) j
  playerPlayers (i : Fin 4) (j : Nat) :
    marks (before.playerPlayers.get i) j → marks (after.playerPlayers.get i) j
  missilePlayers (i : Fin 4) (j : Nat) :
    marks (before.missilePlayers.get i) j → marks (after.missilePlayers.get i) j

/-- A player that has met another has been met by it, and none has met itself. -/
structure Hits.Mutual (h : Hits) : Prop where
  symm (p q : Fin 4) : marks (h.playerPlayers.get p) q ↔ marks (h.playerPlayers.get q) p
  irrefl (p : Fin 4) : ¬marks (h.playerPlayers.get p) p

namespace Hits

theorem Within.refl (h : Hits) : h.Within h :=
  ⟨fun _ _ => id, fun _ _ => id, fun _ _ => id, fun _ _ => id⟩

theorem Within.trans {h₁ h₂ h₃ : Hits} (first : h₁.Within h₂) (second : h₂.Within h₃) :
    h₁.Within h₃ where
  playerPlayfields i j := second.playerPlayfields i j ∘ first.playerPlayfields i j
  missilePlayfields i j := second.missilePlayfields i j ∘ first.missilePlayfields i j
  playerPlayers i j := second.playerPlayers i j ∘ first.playerPlayers i j
  missilePlayers i j := second.missilePlayers i j ∘ first.missilePlayers i j

theorem mutual_none : ({} : Hits).Mutual := by
  have zero (p : Fin 4) : ({} : Hits).playerPlayers.get p = 0 := Vector.getElem_replicate p.isLt
  constructor <;> simp [marks, zero]

end Hits

section

variable (g : Gtia) (line : Line)

theorem marks_playersAt (clock : Nat) (p : Fin 4) :
    marks (g.playersAt clock) p ↔ (g.player p).Covers clock := by
  rw [marks, testBit_playersAt]
  constructor
  · rintro ⟨q, same, covers⟩
    rwa [Fin.ext same] at covers
  · exact fun covers => ⟨p, rfl, covers⟩

theorem marks_missilesAt (clock : Nat) (m : Fin 4) :
    marks (g.missilesAt clock) m ↔ (g.missile m).Covers clock := by
  rw [marks, testBit_missilesAt]
  constructor
  · rintro ⟨n, same, covers⟩
    rwa [Fin.ext same] at covers
  · exact fun covers => ⟨m, rfl, covers⟩

theorem marks_playersBeside (clock : Nat) (p : Fin 4) (j : Nat) :
    marks (g.playersAt clock &&& ~~~(1 <<< UInt8.ofNat p)) j ↔
      ∃ q : Fin 4, q.val = j ∧ q ≠ p ∧ (g.player q).Covers clock := by
  have others : ∀ p q : Fin 4,
      (~~~((1 : UInt8) <<< UInt8.ofNat p)).toNat.testBit q = decide (q ≠ p) := by decide
  rw [marks, UInt8.toNat_and, Nat.testBit_and, Bool.and_eq_true, testBit_playersAt]
  constructor
  · rintro ⟨⟨q, rfl, covers⟩, other⟩
    rw [others] at other
    exact ⟨q, rfl, of_decide_eq_true other, covers⟩
  · rintro ⟨q, rfl, other, covers⟩
    rw [others]
    exact ⟨⟨q, rfl, covers⟩, decide_eq_true other⟩

theorem marks_gather (q : Quad) (masks : Nat → UInt8) (bits : Nat → Nat → UInt8) (n : Nat)
    (i : Fin 4) (j : Nat) :
    marks ((gather q masks bits n).get i) j ↔
      marks (q.get i) j ∨ ∃ c < n, marks (masks c) i ∧ marks (bits c i) j :=
  testBit_gather q masks bits n i j

theorem records_hitsUpTo : Records g line g.hits (g.hitsUpTo line colorClocks) where
  playerPlayfields p j := by
    simp only [hitsUpTo, marks_gather, marks_playersAt]
  missilePlayfields m j := by
    simp only [hitsUpTo, marks_gather, marks_missilesAt]
  playerPlayers p j := by
    simp only [hitsUpTo, marks_gather, marks_playersAt, marks_playersBeside]
    refine or_congr_right (exists_congr fun c => and_congr_right fun _ => ?_)
    constructor
    · rintro ⟨one, q, same, other, another⟩
      exact ⟨q, same, other, one, another⟩
    · rintro ⟨q, same, other, one, another⟩
      exact ⟨one, q, same, other, another⟩
  missilePlayers m j := by
    simp only [hitsUpTo, marks_gather, marks_missilesAt]
    refine or_congr_right (exists_congr fun c => and_congr_right fun _ => ?_)
    rw [marks, testBit_playersAt]
    constructor
    · rintro ⟨one, q, same, another⟩
      exact ⟨q, same, one, another⟩
    · rintro ⟨q, same, one, another⟩
      exact ⟨one, q, same, another⟩

theorem hits_drawLine : (g.drawLine line).1.hits = g.hitsUpTo line colorClocks :=
  congrArg Gtia.hits drawn_drawLine.gtia

theorem records_drawLine : Records g line g.hits (g.drawLine line).1.hits := by
  rw [hits_drawLine]
  exact g.records_hitsUpTo line

variable {g line} {before after : Hits}

theorem Records.within (records : Records g line before after) : before.Within after where
  playerPlayfields i j old := (records.playerPlayfields i j).2 (.inl old)
  missilePlayfields i j old := (records.missilePlayfields i j).2 (.inl old)
  playerPlayers i j old := (records.playerPlayers i j).2 (.inl old)
  missilePlayers i j old := (records.missilePlayers i j).2 (.inl old)

theorem Records.meets_iff (records : Records g line before after) (p q : Fin 4) :
    marks (after.playerPlayers.get p) q ↔ marks (before.playerPlayers.get p) q ∨
      q ≠ p ∧ ∃ c < colorClocks, (g.player p).Covers c ∧ (g.player q).Covers c := by
  rw [records.playerPlayers]
  refine or_congr_right ⟨?_, ?_⟩
  · rintro ⟨c, inside, q', same, other, one, another⟩
    obtain rfl := Fin.ext same
    exact ⟨other, c, inside, one, another⟩
  · rintro ⟨other, c, inside, one, another⟩
    exact ⟨c, inside, q, rfl, other, one, another⟩

theorem Hits.Mutual.of_records (agree : before.Mutual) (records : Records g line before after) :
    after.Mutual where
  symm p q := by
    rw [records.meets_iff, records.meets_iff, agree.symm p q, ne_comm]
    simp only [and_comm]
  irrefl p := by
    rw [records.meets_iff]
    rintro (met | ⟨other, -⟩)
    · exact agree.irrefl p met
    · exact other rfl

end

inductive Operation
  | write (register value : UInt8)
  | fetchObjects (memory : Memory) (scanline : Nat) (dmaControl pageBase : UInt8)
  | drawLine (line : Line)
  | reset

def Operation.clears : Operation → Bool
  | .write register _ => (register &&& 0x1F).toNat == 0x1E
  | .reset => true
  | .fetchObjects .. | .drawLine _ => false

def perform (g : Gtia) : Operation → Gtia
  | .write register value => g.write register value
  | .fetchObjects memory scanline dmaControl pageBase =>
    (g.fetchObjects memory scanline dmaControl pageBase).2
  | .drawLine line => (g.drawLine line).1
  | .reset => g.reset

def performAll (g : Gtia) (operations : List Operation) : Gtia := operations.foldl perform g

section

variable (g : Gtia)

theorem hits_write {register : UInt8} (other : (register &&& 0x1F).toNat ≠ 0x1E) (value : UInt8) :
    (g.write register value).hits = g.hits := by
  unfold write
  dsimp only
  iterate 8 (split; · rfl)
  split
  case h_5 here => exact absurd here other
  all_goals rfl

theorem hits_write_clear {register : UInt8} (clear : (register &&& 0x1F).toNat = 0x1E)
    (value : UInt8) : (g.write register value).hits = {} := by
  unfold write
  rw [clear]
  rfl

theorem hits_fetchObjects (m : Memory) (line : Nat) (dmaControl pageBase : UInt8) :
    (g.fetchObjects m line dmaControl pageBase).2.hits = g.hits := by
  obtain ⟨missiles, players, fetched⟩ := g.fetchObjects_eq m line dmaControl pageBase
  rw [fetched]

theorem hits_perform_clear {operation : Operation} (clear : operation.clears = true) :
    (g.perform operation).hits = {} := by
  cases operation with
  | write register value => exact g.hits_write_clear (eq_of_beq clear) value
  | fetchObjects => cases clear
  | drawLine => cases clear
  | reset => rfl

theorem within_perform {operation : Operation} (quiet : operation.clears = false) :
    g.hits.Within (g.perform operation).hits := by
  cases operation with
  | write register value =>
    rw [perform, g.hits_write (ne_of_beq_false quiet)]
    exact .refl _
  | fetchObjects m line dmaControl pageBase =>
    rw [perform, hits_fetchObjects]
    exact .refl _
  | drawLine line => exact (g.records_drawLine line).within
  | reset => cases quiet

theorem mutual_perform (operation : Operation) (agree : g.hits.Mutual) :
    (g.perform operation).hits.Mutual := by
  cases clear : operation.clears with
  | true =>
    rw [g.hits_perform_clear clear]
    exact Hits.mutual_none
  | false =>
    cases operation with
    | write register value =>
      rw [perform, g.hits_write (ne_of_beq_false clear)]
      exact agree
    | fetchObjects m line dmaControl pageBase =>
      rw [perform, hits_fetchObjects]
      exact agree
    | drawLine line => exact agree.of_records (g.records_drawLine line)
    | reset => cases clear

theorem within_performAll {operations : List Operation}
    (quiet : ∀ operation ∈ operations, operation.clears = false) :
    g.hits.Within (g.performAll operations).hits := by
  induction operations generalizing g with
  | nil => exact .refl _
  | cons operation operations ih =>
    obtain ⟨first, rest⟩ := List.forall_mem_cons.1 quiet
    exact (g.within_perform first).trans (ih (g.perform operation) rest)

theorem mutual_performAll (operations : List Operation) (agree : g.hits.Mutual) :
    (g.performAll operations).hits.Mutual := by
  induction operations generalizing g with
  | nil => exact agree
  | cons operation operations ih =>
    exact ih (g.perform operation) (g.mutual_perform operation agree)

theorem hits_drawLine_priority (line : Line) (value : UInt8) :
    (({ g with priority := value } : Gtia).drawLine line).1.hits = (g.drawLine line).1.hits := by
  rw [hits_drawLine, hits_drawLine]
  rfl

/-- The registers hold the overlaps of all lines since they were cleared, and nothing else. What a
line adds does not depend on what is shown of it. -/
theorem collisions_recorded :
    (∀ clock (p : Fin 4), marks (g.playersAt clock) p ↔ (g.player p).Covers clock) ∧
    (∀ clock (m : Fin 4), marks (g.missilesAt clock) m ↔ (g.missile m).Covers clock) ∧
    (∀ line, (g.drawLine line).1 = { g with hits := (g.drawLine line).1.hits } ∧
      Records g line g.hits (g.drawLine line).1.hits) ∧
    (∀ line value, (({ g with priority := value } : Gtia).drawLine line).1.hits =
      (g.drawLine line).1.hits) ∧
    (∀ operations : List Operation, (∀ operation ∈ operations, operation.clears = false) →
      g.hits.Within (g.performAll operations).hits) ∧
    (∀ operation : Operation, operation.clears = true → (g.perform operation).hits = {}) ∧
    (g.hits.Mutual → ∀ operations, (g.performAll operations).hits.Mutual) ∧
    ∀ pal operations, (performAll { pal } operations).hits.Mutual := by
  refine ⟨g.marks_playersAt, g.marks_missilesAt, fun line => ⟨?_, g.records_drawLine line⟩,
    g.hits_drawLine_priority, fun _ quiet => g.within_performAll quiet,
    fun _ clear => g.hits_perform_clear clear, fun agree _ => g.mutual_performAll _ agree,
    fun pal operations => mutual_performAll _ operations Hits.mutual_none⟩
  rw [hits_drawLine]
  exact drawn_drawLine.gtia

theorem collisions_recorded_overlap :
    let g : Gtia := { playerPosition := #v[100, 104, 0, 0], playerGraphics := #v[0xFF, 0xFF, 0, 0] }
    let moves : List Operation := [.drawLine (.blank 0), .write 0x00 200, .drawLine (.blank 0)]
    (∀ operation ∈ moves, operation.clears = false) ∧ g.hits.Mutual ∧
      marks ((g.performAll moves).hits.playerPlayers.get 0) 1 ∧
      marks ((g.performAll moves).hits.playerPlayers.get 1) 0 ∧
      ¬marks ((g.performAll moves).hits.playerPlayers.get 0) 0 := by
  intro g moves
  have quiet : ∀ operation ∈ moves, operation.clears = false := by decide
  have agree : g.hits.Mutual := Hits.mutual_none
  obtain ⟨-, -, lines, -⟩ := g.collisions_recorded
  have met : marks ((g.drawLine (.blank 0)).1.hits.playerPlayers.get 0) 1 :=
    ((lines (.blank 0)).2.playerPlayers 0 1).2
      (.inr ⟨104, by decide, 1, rfl, by decide, by decide, by decide⟩)
  obtain ⟨-, -, -, -, kept, -⟩ := (g.drawLine (.blank 0)).1.collisions_recorded
  have still : marks ((g.performAll moves).hits.playerPlayers.get 0) 1 :=
    (kept moves.tail (fun _ mem => quiet _ (List.mem_of_mem_tail mem))).playerPlayers 0 1 met
  obtain ⟨-, -, -, -, -, -, along, -⟩ := g.collisions_recorded
  have both := along agree moves
  exact ⟨quiet, agree, still, (both.symm 0 1).1 still, both.irrefl 0⟩

end

end Atari800XL.Gtia
