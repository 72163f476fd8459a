import Atari800XL.Proofs.Antic.Fetching

namespace Atari800XL

open Display

namespace Display.Line

def pixel (l : Line) (x : Nat) (h : x < lineWidth) : Pixel :=
  ⟨l.colors.get x h, l.playfields.get x h⟩

def put (l : Line) (write : Pixel × Nat) : Line :=
  if h : write.2 < lineWidth then l.setPixel write.2 write.1 h else l

def putAll (l : Line) (writes : List (Pixel × Nat)) : Line := writes.foldl put l

theorem pixel_setPixel (l : Line) (x y : Nat) (p : Pixel) (hx : x < lineWidth)
    (hy : y < lineWidth) : (l.setPixel x p hx).pixel y hy = if x = y then p else l.pixel y hy := by
  simp only [pixel, setPixel, Bytes.get_set]
  split <;> rfl

theorem pixel_paint (l : Line) (x count : Nat) (f : Nat → Pixel) (y : Nat) (h : y < lineWidth) :
    (l.paint x count f).pixel y h = if x ≤ y ∧ y < x + count then f y else l.pixel y h := by
  induction count generalizing l x with
  | zero => rw [paint, if_neg (by omega)]
  | succ count ih =>
    unfold paint
    split
    case isTrue inside =>
      rw [ih, pixel_setPixel]
      by_cases here : x = y
      · subst here
        rw [if_neg (by omega), if_pos rfl, if_pos (by omega)]
      · have same : x + 1 ≤ y ∧ y < x + 1 + count ↔ x ≤ y ∧ y < x + (count + 1) := by omega
        simp only [same, if_neg here]
    case isFalse => rw [if_neg (by omega)]

theorem paint_eq_putAll (l : Line) (x : Nat) (f : Nat → Pixel) (pixels : List Pixel)
    (inside : ∀ i < pixels.length, x + i < lineWidth)
    (same : ∀ i, (h : i < pixels.length) → pixels[i] = f (x + i)) :
    l.paint x pixels.length f = l.putAll (pixels.zipIdx x) := by
  induction pixels generalizing l x with
  | nil => rfl
  | cons p pixels ih =>
    have first : x < lineWidth := inside 0 (Nat.succ_pos _)
    have here : p = f x := same 0 (Nat.succ_pos _)
    have next (i : Nat) : x + 1 + i = x + (i + 1) := by omega
    have rest : (l.setPixel x p first).paint (x + 1) pixels.length f =
        (l.setPixel x p first).putAll (pixels.zipIdx (x + 1)) := by
      apply ih
      · intro i h
        rw [next]
        exact inside (i + 1) (Nat.succ_lt_succ h)
      · intro i h
        rw [next]
        exact same (i + 1) (Nat.succ_lt_succ h)
    rw [List.length_cons, paint, dif_pos first, ← here, rest, List.zipIdx_cons, putAll, putAll,
      List.foldl_cons, put, dif_pos first]

end Display.Line

namespace Antic

def stretch (count width : Nat) (f : Nat → Pixel) : List Pixel :=
  (List.range count).flatMap fun i => List.replicate width (f i)

def shiftOut (g : Gtia) (mode : Mode) (c : Cell) : List Pixel :=
  match mode with
  | .blank | .mode2 | .mode3 => stretch 8 1 fun i => fine g (bitAt c.bits i)
  | .mode4 | .mode5 => stretch 4 2 fun i =>
    playfield g (if pairAt c.bits i = 3 && hasBit c.code 0x80 then 4 else pairAt c.bits i)
  | .mode6 | .mode7 => stretch 8 2 fun i =>
    playfield g (if bitAt c.bits i then (c.code >>> 6).toNat + 1 else 0)
  | .mode8 => stretch 4 8 fun i => playfield g (pairAt c.bits i)
  | .mode9 => stretch 8 4 fun i => playfield g (if bitAt c.bits i then 1 else 0)
  | .modeA => stretch 4 4 fun i => playfield g (pairAt c.bits i)
  | .modeB | .modeC => stretch 8 2 fun i => playfield g (if bitAt c.bits i then 1 else 0)
  | .modeD | .modeE => stretch 4 2 fun i => playfield g (pairAt c.bits i)
  | .modeF =>
    if hasBit g.priority 0xC0 then stretch 2 4 fun i => paletteColor g (nibbleAt c.bits i)
    else stretch 8 1 fun i => fine g (bitAt c.bits i)

def shiftedRow (a : Antic) (m : Memory) (g : Gtia) (row : UInt8) : List Pixel :=
  a.data.data.toList.flatMap fun code => shiftOut g a.mode (a.cell m row code)

def clip (left right : Nat) : Nat → List Pixel → List (Pixel × Nat)
  | _, [] => []
  | x, p :: pixels =>
    if left ≤ x ∧ x < right then (p, x) :: clip left right (x + 1) pixels
    else clip left right (x + 1) pixels

def writes (a : Antic) (m : Memory) (g : Gtia) (width : Width) (row : UInt8) :
    List (Pixel × Nat) :=
  clip width.left width.right (a.dataStart width) (a.shiftedRow m g row)

theorem stretch_eq {width : Nat} (wide : 0 < width) (count : Nat) (f : Nat → Pixel) :
    stretch count width f = (List.range (count * width)).map fun i => f (i / width) := by
  induction count with
  | zero => simp [stretch]
  | succ count ih =>
    have last : (List.range width).map (fun i => f ((count * width + i) / width)) =
        List.replicate width (f count) := by
      rw [List.eq_replicate_iff]
      refine ⟨by simp, fun p mem => ?_⟩
      obtain ⟨i, inside, rfl⟩ := List.mem_map.1 mem
      rw [Nat.mul_comm, Nat.mul_add_div wide, Nat.div_eq_of_lt (List.mem_range.1 inside),
        Nat.add_zero]
    rw [stretch] at ih ⊢
    rw [List.range_succ, List.flatMap_append, ih, Nat.succ_mul, List.range_add, List.map_append,
      List.map_map]
    simp only [Function.comp_def, last, List.flatMap_cons, List.flatMap_nil, List.append_nil]

theorem shiftOut_eq (g : Gtia) (mode : Mode) (c : Cell) :
    shiftOut g mode c = (List.range mode.pixelsPerByte).map (cellPixel g mode c) := by
  cases mode
  case modeF =>
    rw [shiftOut]
    split
    case isTrue palette =>
      rw [stretch_eq (by decide)]
      refine List.map_congr_left fun i _ => ?_
      simp only [cellPixel, if_pos palette]
    case isFalse plain =>
      rw [stretch_eq (by decide)]
      refine List.map_congr_left fun i _ => ?_
      simp only [cellPixel, if_neg plain, Nat.div_one]
  all_goals
    rw [shiftOut, stretch_eq (by decide)]
    refine List.map_congr_left fun i _ => ?_
    simp only [cellPixel, Nat.div_one]

theorem flatMap_range {α β : Type} [Inhabited α] (l : List α) {n : Nat} (pos : 0 < n)
    (f : α → Nat → β) :
    (l.flatMap fun c => (List.range n).map (f c)) =
      (List.range (l.length * n)).map fun i => f (l.getD (i / n) default) (i % n) := by
  induction l with
  | nil => simp
  | cons c l ih =>
    rw [List.flatMap_cons, ih, List.length_cons, Nat.succ_mul, Nat.add_comm, List.range_add,
      List.map_append, List.map_map]
    congr 1
    · refine List.map_congr_left fun i mem => ?_
      have inside := List.mem_range.1 mem
      rw [Nat.div_eq_of_lt inside, Nat.mod_eq_of_lt inside, List.getD_cons_zero]
    · refine List.map_congr_left fun i _ => ?_
      simp only [Function.comp_apply]
      rw [Nat.add_div_left _ pos, Nat.add_mod_left, List.getD_cons_succ]

theorem pixelsPerByte_pos (mode : Mode) : 0 < mode.pixelsPerByte := by
  cases mode <;> decide

theorem clip_eq (left right x : Nat) (pixels : List Pixel) :
    clip left right x pixels =
      ((pixels.drop (left - x)).take (right - max left x)).zipIdx (max left x) := by
  induction pixels generalizing x with
  | nil => simp [clip]
  | cons p pixels ih =>
    rw [clip, ih (x + 1)]
    by_cases before : x < left
    · have one : left - x = left - (x + 1) + 1 := by omega
      have same : max left (x + 1) = max left x := by omega
      rw [if_neg (by omega), one, List.drop_succ_cons, same]
    · have behind : left - x = 0 := by omega
      have behind' : left - (x + 1) = 0 := by omega
      have here : max left x = x := by omega
      have next : max left (x + 1) = x + 1 := by omega
      rw [behind, behind', here, next, List.drop_zero, List.drop_zero]
      by_cases inside : x < right
      · have one : right - x = right - (x + 1) + 1 := by omega
        rw [if_pos (by omega), one, List.take_succ_cons, List.zipIdx_cons]
      · have none : right - x = 0 := by omega
        have none' : right - (x + 1) = 0 := by omega
        rw [if_neg (by omega), none, none', List.take_zero, List.take_zero]
        rfl

section

variable (a : Antic) (m : Memory) (g : Gtia) (width : Width) (row : UInt8) (line : Line)

theorem shiftedRow_eq :
    a.shiftedRow m g row = (List.range (a.data.size * a.mode.pixelsPerByte)).map
      (rowPixel g a.mode (a.data.data.map (a.cell m row))) := by
  have cells : a.shiftedRow m g row = (a.data.data.map (a.cell m row)).toList.flatMap fun c =>
      (List.range a.mode.pixelsPerByte).map (cellPixel g a.mode c) := by
    simp only [shiftedRow, shiftOut_eq, Array.toList_map, List.flatMap_map]
  have length : (a.data.data.map (a.cell m row)).toList.length = a.data.size := by
    rw [Array.length_toList, Array.size_map]
    rfl
  rw [cells, flatMap_range _ (pixelsPerByte_pos a.mode), length]
  refine List.map_congr_left fun i _ => ?_
  rw [rowPixel, Array.getD_eq_getD_getElem?, List.getD_eq_getElem?_getD, Array.getElem?_toList]

theorem length_shiftedRow :
    (a.shiftedRow m g row).length = a.data.size * a.mode.pixelsPerByte := by
  rw [shiftedRow_eq, List.length_map, List.length_range]

theorem right_lt_lineWidth : width.right < lineWidth := by
  cases width <;> decide

theorem render_eq_putAll : a.render m g width row line = line.putAll (a.writes m g width row) := by
  have fits := right_lt_lineWidth width
  have length := a.length_shiftedRow m g row
  have shifted := a.shiftedRow_eq m g row
  rw [render, writes, clip_eq, ← length, Nat.max_comm (a.dataStart width)]
  generalize a.shiftedRow m g row = pixels at *
  generalize a.dataStart width = start
  have count : min width.right (start + pixels.length) - max width.left start =
      ((pixels.drop (width.left - start)).take (width.right - max width.left start)).length := by
    rw [List.length_take, List.length_drop]
    omega
  rw [count]
  refine Line.paint_eq_putAll _ _ _ _ (fun i h => ?_) (fun i h => ?_)
  · rw [← count] at h
    omega
  · have place : max width.left start + i - start = width.left - start + i := by omega
    simp only [place, List.getElem_take, List.getElem_drop, shifted, List.getElem_map,
      List.getElem_range]

end

inductive Reached : Antic → Prop
  | fresh (linesPerFrame : Nat) : Reached { linesPerFrame }
  | reset {a : Antic} : Reached a → Reached a.reset
  | write {a : Antic} (register value : UInt8) (s : Schedule) :
      Reached a → Reached (a.write register value s).1
  | processLine {a : Antic} (m : Memory) (g : Gtia) (lineStart : UInt64) (s : Schedule) :
      Reached a → Reached (a.processLine m g lineStart s).antic
  | fireListInterrupt {a : Antic} : Reached a → Reached a.fireListInterrupt.2

theorem horizontalScroll_processLine (a : Antic) (m : Memory) (g : Gtia) (lineStart : UInt64)
    (s : Schedule) :
    (a.processLine m g lineStart s).antic.horizontalScroll = a.horizontalScroll := by
  have next (a : Antic) : a.nextLine.2.horizontalScroll = a.horizontalScroll := by
    unfold nextLine
    dsimp only
    split <;> rfl
  have drawn := congrArg (·.1) (a.latches_drawn m g lineStart s)
  refine (next (a.blanked m g lineStart s).2).trans ?_
  unfold blanked
  split <;> exact drawn

theorem Reached.scroll {a : Antic} (reached : a.Reached) : a.horizontalScroll.toNat < 16 := by
  induction reached with
  | fresh | reset => exact Nat.zero_lt_succ 15
  | @write a register value s _ ih =>
    unfold Antic.write
    split
    case h_5 =>
      show (value &&& 0x0F).toNat < 16
      rw [toNat_and_15]
      exact Nat.mod_lt _ (by decide)
    all_goals exact ih
  | processLine m g lineStart s _ ih =>
    rw [horizontalScroll_processLine]
    exact ih
  | fireListInterrupt _ ih => exact ih

section

variable (a : Antic) (m : Memory) (g : Gtia) (width : Width) (row : UInt8) (line : Line)

def firstColumn : Nat :=
  if a.scrollsSideways ∧ width = .wide then width.left + 2 * a.horizontalScroll.toNat
  else width.left

theorem bytesPerLine_mul (mode : Mode) :
    width.bytesPerLine mode * mode.pixelsPerByte = width.right - width.left := by
  cases width <;> cases mode <;> rfl

/-- A row of a mode line fills the window, from the first column that is written up to its end:
columns in order, each once, with the pixels of the data in their order. Nothing else is changed. -/
structure Fills : Prop where
  written : a.render m g width row line = line.putAll (a.writes m g width row)
  columns : (a.writes m g width row).map Prod.snd =
    List.range' (a.firstColumn width) (width.right - a.firstColumn width)
  inside : ∀ write ∈ a.writes m g width row,
    width.left ≤ write.2 ∧ write.2 < width.right ∧ write.2 < lineWidth
  pixels : (a.writes m g width row).map Prod.fst =
    ((a.shiftedRow m g row).drop (a.firstColumn width - a.dataStart width)).take
      (width.right - a.firstColumn width)
  shown : ∀ x (h : x < lineWidth), a.firstColumn width ≤ x → x < width.right →
    (a.shiftedRow m g row)[x - a.dataStart width]? = some ((a.render m g width row line).pixel x h)
  kept : ∀ x (h : x < lineWidth), x < a.firstColumn width ∨ width.right ≤ x →
    (a.render m g width row line).pixel x h = line.pixel x h

variable {a width}

theorem dataStart_bounds (scroll : a.horizontalScroll.toNat < 16)
    (full : a.data.size = (a.fetchWidth width).bytesPerLine a.mode) :
    max width.left (a.dataStart width) = a.firstColumn width ∧
      width.right ≤ a.dataStart width + a.data.size * a.mode.pixelsPerByte := by
  rw [full, bytesPerLine_mul, dataStart, firstColumn, fetchWidth]
  cases a.scrollsSideways <;> cases width <;> simp [Width.left, Width.right, Width.wider] <;> omega

section

variable (scroll : a.horizontalScroll.toNat < 16)
  (full : a.data.size = (a.fetchWidth width).bytesPerLine a.mode)
include scroll full

theorem writes_eq : a.writes m g width row =
    (((a.shiftedRow m g row).drop (a.firstColumn width - a.dataStart width)).take
      (width.right - a.firstColumn width)).zipIdx (a.firstColumn width) := by
  obtain ⟨first, -⟩ := dataStart_bounds scroll full
  have skipped : width.left - a.dataStart width = a.firstColumn width - a.dataStart width := by
    omega
  rw [writes, clip_eq, first, skipped]

theorem columns_writes : (a.writes m g width row).map Prod.snd =
    List.range' (a.firstColumn width) (width.right - a.firstColumn width) := by
  obtain ⟨first, last⟩ := dataStart_bounds scroll full
  have enough : width.right - a.firstColumn width ≤
      (a.shiftedRow m g row).length - (a.firstColumn width - a.dataStart width) := by
    rw [length_shiftedRow]
    omega
  rw [writes_eq m g row scroll full, List.zipIdx_map_snd, List.length_take, List.length_drop,
    Nat.min_eq_left enough]

theorem pixel_render (x : Nat) (h : x < lineWidth) :
    (a.render m g width row line).pixel x h =
      if a.firstColumn width ≤ x ∧ x < width.right then
        rowPixel g a.mode (a.data.data.map (a.cell m row)) (x - a.dataStart width)
      else line.pixel x h := by
  obtain ⟨first, last⟩ := dataStart_bounds scroll full
  rw [render, Line.pixel_paint, Nat.min_eq_left last, Nat.max_comm, first]
  have same : a.firstColumn width ≤ x ∧
      x < a.firstColumn width + (width.right - a.firstColumn width) ↔
      a.firstColumn width ≤ x ∧ x < width.right := by omega
  simp only [same]

/-- Mode lines fill their window, whatever they show. -/
theorem fills_render : Fills a m g width row line := by
  obtain ⟨first, last⟩ := dataStart_bounds scroll full
  refine ⟨a.render_eq_putAll m g width row line, columns_writes m g row scroll full,
    fun write mem => ?_, ?_, fun x h behind before => ?_, fun x h beside => ?_⟩
  · have column : write.2 ∈ (a.writes m g width row).map Prod.snd := List.mem_map_of_mem mem
    rw [columns_writes m g row scroll full, List.mem_range'_1] at column
    have := right_lt_lineWidth width
    omega
  · rw [writes_eq m g row scroll full, List.zipIdx_map_fst]
  · have within : x - a.dataStart width < a.data.size * a.mode.pixelsPerByte := by omega
    rw [pixel_render m g row line scroll full, if_pos ⟨behind, before⟩, shiftedRow_eq,
      List.getElem?_map, List.getElem?_range within]
    rfl
  · rw [pixel_render m g row line scroll full, if_neg (by omega)]

end

end

theorem fills_render_scrolled :
    let a : Antic :=
      { linesPerFrame := 262, mode := .modeE, scrollsSideways := true, horizontalScroll := 5,
        data := ⟨Array.replicate 48 0x1B⟩ }
    a.horizontalScroll.toNat < 16 ∧ a.data.size = (a.fetchWidth .wide).bytesPerLine a.mode ∧
      ∀ m g row line, (a.writes m g .wide row).map Prod.snd = List.range' 74 374 ∧
        ∀ x h, x < 74 → (a.render m g .wide row line).pixel x h = line.pixel x h := by
  intro a
  have scroll : a.horizontalScroll.toNat < 16 := by decide
  have size : a.data.size = 48 := Array.size_replicate
  have full : a.data.size = (a.fetchWidth .wide).bytesPerLine a.mode := by
    rw [size]
    decide
  refine ⟨scroll, full, fun m g row line => ?_⟩
  have fills := fills_render m g row line scroll full
  exact ⟨fills.columns, fun x h before => fills.kept x h (.inl before)⟩

end Antic

end Atari800XL
