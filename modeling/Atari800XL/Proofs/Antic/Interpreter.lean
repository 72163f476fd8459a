import Mathlib.Data.List.Chain
import Atari800XL.Antic.Scanline

/-! A display list read instruction by instruction: where each one stands, on which lines, and what
it shows there. Lines are counted, rows and addresses are numbers that wrap, and nothing is kept
from one instruction to the next but the two counters and whether the last one scrolled. -/

namespace Atari800XL.Antic

open Display

def inBlock (block : Nat) (address : UInt16) (n : Nat) : UInt16 :=
  UInt16.ofNat (address.toNat / block * block + (address.toNat + n) % block)

abbrev inList : UInt16 → Nat → UInt16 := inBlock 0x400

abbrev inScan : UInt16 → Nat → UInt16 := inBlock 0x1000

inductive Content
  | nothing
  | rows (mode : Mode) (sideways : Bool) (first last : Nat) (data : List UInt8)

structure Placed where
  start : Nat
  count : Nat
  address : UInt16
  command : UInt8
  waits : Bool
  content : Content

structure Reader where
  list : UInt16
  scan : UInt16
  scrolled : Bool

def rowsFor (mode : Mode) (scrolled vertical : Bool) (scroll : Nat) : Nat × Nat :=
  if vertical && !scrolled then (scroll, mode.lastRow.toNat)
  else if scrolled && !vertical then (0, scroll)
  else (0, mode.lastRow.toNat)

def linesFor (first last : Nat) : Nat := (((last : Int) - first) % 16).toNat + 1

namespace Reader

def operand (r : Reader) (m : Memory) : UInt16 :=
  word (m.peek (inList r.list 1)) (m.peek (inList r.list 2))

def next (r : Reader) (scroll : Nat) (width : Width) (m : Memory) (start : Nat) :
    Placed × Reader :=
  let command := m.peek r.list
  match Instruction.decode command with
  | .blank lines =>
    ({ start, count := lines, address := r.list, command, waits := false, content := .nothing },
      { r with list := inList r.list 1, scrolled := false })
  | .jump wait =>
    ({ start, count := 1, address := r.list, command, waits := wait, content := .nothing },
      { r with list := r.operand m, scrolled := false })
  | .modeLine mode newAddress sideways vertical =>
    let scan := if newAddress then r.operand m else r.scan
    let rows := rowsFor mode r.scrolled vertical scroll
    let size := (if sideways then width.wider else width).bytesPerLine mode
    let data := (List.range size).map fun n => m.peek (inScan scan n)
    ({ start, count := linesFor rows.1 rows.2, address := r.list, command, waits := false,
       content := .rows mode sideways rows.1 rows.2 data },
      { list := inList r.list (if newAddress then 3 else 1)
        scan := inScan scan size
        scrolled := vertical })

theorem start_next (r : Reader) (scroll : Nat) (width : Width) (m : Memory) (start : Nat) :
    (r.next scroll width m start).1.start = start := by
  unfold next
  dsimp only
  split <;> rfl

theorem count_next_pos (r : Reader) (scroll : Nat) (width : Width) (m : Memory) (start : Nat) :
    0 < (r.next scroll width m start).1.count := by
  unfold next Instruction.decode
  dsimp only
  split <;> rename_i h
  · split at h <;> cases h
    exact Nat.succ_pos _
  · exact Nat.one_pos
  · exact Nat.succ_pos _

end Reader

/-- Lay instructions end to end from the line `start`, up to the one that waits or to the end of the
picture. -/
def layOut (scroll : Nat) (width : Width) (memory : Nat → Memory) (r : Reader) (start : Nat) :
    List Placed :=
  if start < verticalBlankLine then
    let step := r.next scroll width (memory start) start
    step.1 :: if step.1.waits then []
      else layOut scroll width memory step.2 (start + step.1.count)
  else []
termination_by verticalBlankLine - start
decreasing_by
  have := r.count_next_pos scroll width (memory start) start
  omega

def Placed.Covers (p : Placed) (line : Nat) : Prop :=
  p.start ≤ line ∧ (line < p.start + p.count ∨ p.waits = true)

def Placed.EndsWithLast (p : Placed) : Prop :=
  ∀ mode sideways first last data, p.content = .rows mode sideways first last data →
    (first + (p.count - 1)) % 16 = last % 16

/-- The instructions of a picture: the first one is on the first line, each of the others on the line
behind the one before it, none behind one that waits, and there is one for each line. -/
structure EndToEnd (laid : List Placed) : Prop where
  first : ∃ p rest, laid = p :: rest ∧ p.start = firstDisplayLine
  next : laid.IsChain fun p q => p.waits = false ∧ q.start = p.start + p.count
  covered : ∀ line, firstDisplayLine ≤ line → line < verticalBlankLine →
    ∃ p ∈ laid, p.Covers line
  rows : ∀ p ∈ laid, p.EndsWithLast
  blank : ∀ p ∈ laid, p.waits = true → p.content = .nothing

namespace Reader

theorem endsWithLast_next (r : Reader) (scroll : Nat) (width : Width) (m : Memory) (start : Nat) :
    (r.next scroll width m start).1.EndsWithLast := by
  intro mode sideways first last data content
  unfold next at content ⊢
  dsimp only at content ⊢
  split at content
  · cases content
  · cases content
  · cases content
    simp only [linesFor]
    omega

theorem content_next_of_waits (r : Reader) (scroll : Nat) (width : Width) (m : Memory)
    (start : Nat) (waits : (r.next scroll width m start).1.waits = true) :
    (r.next scroll width m start).1.content = .nothing := by
  unfold next at waits ⊢
  dsimp only at waits ⊢
  split at waits
  · rfl
  · rfl
  · cases waits

end Reader

section

variable (scroll : Nat) (width : Width) (memory : Nat → Memory)

theorem layOut_of_lt (r : Reader) {start : Nat} (h : start < verticalBlankLine) :
    layOut scroll width memory r start =
      let step := r.next scroll width (memory start) start
      step.1 :: if step.1.waits then []
        else layOut scroll width memory step.2 (start + step.1.count) := by
  rw [layOut, if_pos h]

theorem layOut_of_le (r : Reader) {start : Nat} (h : verticalBlankLine ≤ start) :
    layOut scroll width memory r start = [] := by
  rw [layOut, if_neg (Nat.not_lt.2 h)]

theorem chain_layOut (r : Reader) (start : Nat) :
    (layOut scroll width memory r start).IsChain
      fun p q => p.waits = false ∧ q.start = p.start + p.count := by
  fun_induction layOut with
  | case1 r start inside step ih =>
    have own : step.1.start = start := r.start_next _ _ _ _
    cases waits : step.1.waits with
    | true => exact .singleton _
    | false =>
      rw [if_neg Bool.false_ne_true]
      by_cases more : start + step.1.count < verticalBlankLine
      · rw [layOut_of_lt _ _ _ _ more] at ih ⊢
        refine .cons_cons ⟨waits, ?_⟩ ih
        rw [own]
        exact step.2.start_next _ _ _ _
      · rw [layOut_of_le _ _ _ _ (Nat.le_of_not_lt more)]
        exact .singleton _
  | case2 => exact .nil

theorem exists_covers_layOut (r : Reader) (start line : Nat) (first : start ≤ line)
    (last : line < verticalBlankLine) :
    ∃ p ∈ layOut scroll width memory r start, p.Covers line := by
  fun_induction layOut with
  | case1 r start inside step ih =>
    have own : step.1.start = start := r.start_next _ _ _ _
    by_cases here : line < start + step.1.count ∨ step.1.waits = true
    · exact ⟨step.1, List.mem_cons_self, by rwa [own], by rwa [own]⟩
    · obtain ⟨behind, waits⟩ := not_or.1 here
      obtain ⟨p, mem, covers⟩ := ih (Nat.le_of_not_lt behind)
      rw [if_neg waits]
      exact ⟨p, List.mem_cons_of_mem _ mem, covers⟩
  | case2 r start outside => omega

theorem forall_mem_layOut {P : Placed → Prop} (r : Reader) (start : Nat)
    (next : ∀ (r : Reader) start, P (r.next scroll width (memory start) start).1) :
    ∀ p ∈ layOut scroll width memory r start, P p := by
  fun_induction layOut with
  | case1 r start inside step ih =>
    refine List.forall_mem_cons.2 ⟨next r start, ?_⟩
    split
    · exact nofun
    · exact ih
  | case2 => exact nofun

theorem endToEnd_layOut (r : Reader) :
    EndToEnd (layOut scroll width memory r firstDisplayLine) where
  first := ⟨_, _, layOut_of_lt scroll width memory r (by decide), r.start_next _ _ _ _⟩
  next := chain_layOut scroll width memory r firstDisplayLine
  covered := exists_covers_layOut scroll width memory r firstDisplayLine
  rows := forall_mem_layOut scroll width memory r firstDisplayLine fun r start =>
    r.endsWithLast_next scroll width (memory start) start
  blank := forall_mem_layOut scroll width memory r firstDisplayLine fun r start =>
    r.content_next_of_waits scroll width (memory start) start

end

end Atari800XL.Antic
