import Mathlib.Data.Nat.Bitwise
import Atari800XL.Proofs.Antic.Interpreter
import Atari800XL.Proofs.Word

namespace Atari800XL.Antic

open Display

theorem inBlock_zero (block : Nat) (a : UInt16) : inBlock block a 0 = a := by
  rw [inBlock, Nat.add_zero, Nat.div_add_mod', UInt16.ofNat_toNat]

theorem toNat_inBlock {block : Nat} (dvd : block ∣ 2 ^ 16) (a : UInt16) (n : Nat) :
    (inBlock block a n).toNat = a.toNat / block * block + (a.toNat + n) % block := by
  have pos : 0 < block := Nat.pos_of_dvd_of_pos dvd (by decide)
  have inside := Nat.mod_lt (a.toNat + n) pos
  obtain ⟨blocks, size⟩ := dvd
  have within : a.toNat / block < blocks :=
    Nat.div_lt_of_lt_mul (Nat.lt_of_lt_of_eq a.toNat_lt size)
  have last : (a.toNat / block + 1) * block ≤ blocks * block :=
    Nat.mul_le_mul_right block within
  rw [Nat.succ_mul] at last
  rw [inBlock, UInt16.toNat_ofNat', size]
  apply Nat.mod_eq_of_lt
  rw [Nat.mul_comm block]
  omega

theorem inBlock_inBlock {block : Nat} (dvd : block ∣ 2 ^ 16) (a : UInt16) (n k : Nat) :
    inBlock block (inBlock block a n) k = inBlock block a (n + k) := by
  have pos : 0 < block := Nat.pos_of_dvd_of_pos dvd (by decide)
  have same : (a.toNat / block * block + (a.toNat + n) % block) / block = a.toNat / block := by
    rw [Nat.mul_comm, Nat.mul_add_div pos, Nat.div_eq_of_lt (Nat.mod_lt _ pos), Nat.add_zero]
  rw [← UInt16.toNat_inj, toNat_inBlock dvd, toNat_inBlock dvd, toNat_inBlock dvd, same,
    Nat.add_assoc, Nat.mul_add_mod_self_right, Nat.mod_add_mod, Nat.add_assoc]

theorem inList_inList (a : UInt16) (n k : Nat) : inList (inList a n) k = inList a (n + k) :=
  inBlock_inBlock (by decide) a n k

theorem inScan_inScan (a : UInt16) (n k : Nat) : inScan (inScan a n) k = inScan a (n + k) :=
  inBlock_inBlock (by decide) a n k

theorem and_block {k : Nat} (hk : k ≤ 16) {a : Nat} (ha : a < 2 ^ 16) :
    a &&& (2 ^ 16 - 2 ^ k) = a / 2 ^ k * 2 ^ k := by
  have mask : 2 ^ 16 - 2 ^ k = 2 ^ k * (2 ^ (16 - k) - 1) := by
    rw [Nat.mul_sub, ← Nat.pow_add, Nat.add_sub_cancel' hk, Nat.mul_one]
  apply Nat.eq_of_testBit_eq
  intro i
  rw [mask, Nat.mul_comm (a / 2 ^ k), Nat.testBit_and, Nat.testBit_two_pow_mul,
    Nat.testBit_two_pow_mul, Nat.testBit_div_two_pow, Nat.testBit_two_pow_sub_one]
  by_cases low : k ≤ i
  · by_cases inside : i < 16
    · simp [low, show i - k < 16 - k by omega]
    · have none : a.testBit i = false :=
        Nat.testBit_lt_two_pow (Nat.lt_of_lt_of_le ha (Nat.pow_le_pow_right (by decide) (by omega)))
      simp [low, none]
  · simp [low]

theorem or_and_block {k : Nat} (hk : k ≤ 16) {a : Nat} (ha : a < 2 ^ 16) (b : Nat) :
    (a &&& (2 ^ 16 - 2 ^ k)) ||| (b &&& (2 ^ k - 1)) = a / 2 ^ k * 2 ^ k + b % 2 ^ k := by
  rw [and_block hk ha, Nat.and_two_pow_sub_one_eq_mod, Nat.mul_comm,
    ← Nat.two_pow_add_eq_or_of_lt (Nat.mod_lt _ (Nat.two_pow_pos k))]

theorem or_and_eq_inBlock {k : Nat} (hk : k ≤ 16) {upper lower : UInt16}
    (hu : upper.toNat = 2 ^ 16 - 2 ^ k) (hl : lower.toNat = 2 ^ k - 1) (a : UInt16) :
    (a &&& upper) ||| ((a + 1) &&& lower) = inBlock (2 ^ k) a 1 := by
  have dvd : 2 ^ k ∣ 2 ^ 16 := Nat.pow_dvd_pow 2 hk
  rw [← UInt16.toNat_inj, toNat_inBlock dvd, UInt16.toNat_or, UInt16.toNat_and, UInt16.toNat_and,
    hu, hl, or_and_block hk a.toNat_lt, UInt16.toNat_add, UInt16.toNat_one,
    Nat.mod_mod_of_dvd _ dvd]

theorem nextListAddress_eq (a : UInt16) : nextListAddress a = inList a 1 :=
  or_and_eq_inBlock (k := 10) (by decide) rfl rfl a

theorem nextScanAddress_eq (a : UInt16) : nextScanAddress a = inScan a 1 :=
  or_and_eq_inBlock (k := 12) (by decide) rfl rfl a

theorem rowCount_eq (first last : UInt8) : rowCount first last = linesFor first.toNat last.toNat := by
  have lt := first.toNat_lt
  have lt' := last.toNat_lt
  rw [rowCount, linesFor, toNat_and_15, UInt8.toNat_sub]
  omega

theorem rowRange_toNat (mode : Mode) (scrolled vertical : Bool) (scroll : UInt8) :
    ((rowRange mode scrolled vertical scroll).1.toNat,
      (rowRange mode scrolled vertical scroll).2.toNat) =
      rowsFor mode scrolled vertical scroll.toNat := by
  cases scrolled <;> cases vertical <;> rfl

theorem row_eq (a : Antic) (line : Nat) :
    LineState.row a line = UInt8.ofNat ((a.firstRow.toNat + (line - a.modeStart)) % 16) := by
  rw [← UInt8.toNat_inj, LineState.row, toNat_and_15, UInt8.toNat_add, UInt8.toNat_ofNat',
    UInt8.toNat_ofNat']
  omega

theorem fetchDataInto_eq (m : Memory) (count : Nat) (address : UInt16) (data : ByteArray) :
    (fetchDataInto m count address data).1 = inScan address count ∧
      (fetchDataInto m count address data).2.data.toList =
        data.data.toList ++ (List.range count).map fun n => m.peek (inScan address n) := by
  induction count generalizing address data with
  | zero => simp [fetchDataInto, inBlock_zero]
  | succ count ih =>
    obtain ⟨counter, fetched⟩ := ih (nextScanAddress address) (data.push (m.peek address))
    rw [fetchDataInto, counter, fetched, nextScanAddress_eq, inScan_inScan, Nat.add_comm 1]
    refine ⟨rfl, ?_⟩
    simp [List.range_succ_eq_map, inScan_inScan, inBlock_zero, Function.comp_def, Nat.add_comm]

theorem fetchByte_eq (a : Antic) (m : Memory) :
    a.fetchByte m = (m.peek a.displayList, { a with displayList := inList a.displayList 1 }) := by
  rw [fetchByte, nextListAddress_eq]

theorem fetchWord_eq (a : Antic) (m : Memory) :
    a.fetchWord m =
      (word (m.peek a.displayList) (m.peek (inList a.displayList 1)),
        { a with displayList := inList a.displayList 2 }) := by
  simp only [fetchWord, fetchByte_eq, inList_inList]

def controls (a : Antic) : Antic :=
  { linesPerFrame := a.linesPerFrame
    dmaControl := a.dmaControl
    characterControl := a.characterControl
    horizontalScroll := a.horizontalScroll
    verticalScroll := a.verticalScroll
    objectBase := a.objectBase
    characterBase := a.characterBase }

def reader (a : Antic) : Reader := ⟨a.displayList, a.scanCounter, a.inScrollRegion⟩

def Content.Held (a : Antic) : Content → Prop
  | .nothing => a.mode = .blank
  | .rows mode sideways first _ data =>
    mode ≠ .blank ∧ a.mode = mode ∧ a.scrollsSideways = sideways ∧ a.firstRow.toNat = first ∧
      a.data.data.toList = data

structure Showing (regs : Antic) (p : Placed) (r : Reader) (line : Nat) (a : Antic) : Prop where
  controls : a.controls = regs.controls
  scanline : a.scanline = line
  reader : a.reader = r
  waiting : a.waiting = p.waits
  nextFetch : a.nextFetch = p.start + p.count
  modeStart : a.modeStart = p.start
  content : p.content.Held a

structure Ready (regs : Antic) (r : Reader) (line : Nat) (a : Antic) : Prop where
  controls : a.controls = regs.controls
  scanline : a.scanline = line
  reader : a.reader = r
  waiting : a.waiting = false
  nextFetch : a.nextFetch = line

theorem mode_ne_blank {command : UInt8} {mode : Mode} {newAddress sideways vertical : Bool}
    (h : Instruction.decode command = .modeLine mode newAddress sideways vertical) :
    mode ≠ .blank := by
  unfold Instruction.decode at h
  split at h
  · cases h
  · cases h
  · rename_i ne_zero ne_one
    cases h
    have low : (command &&& 0x0F).toNat < 16 := by
      rw [toNat_and_15]
      exact Nat.mod_lt _ (by decide)
    unfold Mode.ofCommand
    split
    case h_15 => grind
    all_goals nofun

def withData (a : Antic) (m : Memory) (width : Width) : Antic :=
  if a.mode = .blank then a else (a.fetchData m width).2

theorem showing_withData {regs a : Antic} {p : Placed} {r : Reader} {line last : Nat} {m : Memory}
    {width : Width} (shown : a.mode ≠ .blank) (controls : a.controls = regs.controls)
    (scanline : a.scanline = line)
    (reader : r = ⟨a.displayList,
      inScan a.scanCounter ((a.fetchWidth width).bytesPerLine a.mode), a.inScrollRegion⟩)
    (waiting : a.waiting = p.waits)
    (nextFetch : a.nextFetch = p.start + p.count) (modeStart : a.modeStart = p.start)
    (content : p.content = .rows a.mode a.scrollsSideways a.firstRow.toNat last
      ((List.range ((a.fetchWidth width).bytesPerLine a.mode)).map
        fun n => m.peek (inScan a.scanCounter n))) :
    Showing regs p r line (a.withData m width) := by
  subst reader
  obtain ⟨counter, data⟩ := fetchDataInto_eq m ((a.fetchWidth width).bytesPerLine a.mode)
    a.scanCounter (ByteArray.emptyWithCapacity _)
  rw [withData, if_neg shown, ← counter]
  refine ⟨controls, scanline, rfl, waiting, nextFetch, modeStart, ?_⟩
  rw [content]
  exact ⟨shown, rfl, rfl, rfl, data⟩

theorem perform_modeLine (a : Antic) (m : Memory) (mode : Mode)
    (newAddress sideways vertical : Bool) :
    let rows := rowRange mode a.inScrollRegion vertical a.verticalScroll
    a.perform m (.modeLine mode newAddress sideways vertical) =
      (rowCount rows.1 rows.2,
        { a with
          displayList := inList a.displayList (if newAddress then 2 else 0)
          scanCounter :=
            if newAddress then word (m.peek a.displayList) (m.peek (inList a.displayList 1))
            else a.scanCounter
          mode
          scrollsSideways := sideways
          inScrollRegion := vertical
          firstRow := rows.1 }) := by
  cases newAddress with
  | false =>
    simp only [perform, Bool.false_eq_true, if_false, inBlock_zero]
  | true => simp only [perform, fetchWord_eq, if_true]

theorem showing_fetchInstruction {regs a : Antic} {r : Reader} {line : Nat}
    (h : Ready regs r line a) (width : Width) (m : Memory) (start : UInt64) (s : Schedule) :
    let step := r.next regs.verticalScroll.toNat width m line
    let fetched := a.fetchInstruction m line start s
    fetched.notices = [.listInstruction line step.1.address step.1.command] ∧
      Showing regs step.1 step.2 line (fetched.antic.withData m width) := by
  obtain ⟨controls, scanline, rfl, waiting, -⟩ := h
  have scroll : a.verticalScroll = regs.verticalScroll := (congrArg verticalScroll controls :)
  intro step fetched
  simp only [step, fetched, Reader.next, fetchInstruction, fetchByte_eq, reader]
  cases decoded : Instruction.decode (m.peek a.displayList) with
  | blank lines =>
    refine ⟨rfl, ?_⟩
    exact ⟨controls, scanline, rfl, waiting, rfl, rfl, rfl⟩
  | jump wait =>
    simp only [perform, fetchWord_eq, inList_inList, waiting]
    refine ⟨trivial, ?_⟩
    exact ⟨controls, scanline, rfl, rfl, rfl, rfl, rfl⟩
  | modeLine mode newAddress sideways vertical =>
    have shown := mode_ne_blank decoded
    have rows := rowRange_toNat mode a.inScrollRegion vertical a.verticalScroll
    have size : (1 + if newAddress then 2 else 0) = if newAddress then 3 else 1 := by
      cases newAddress <;> rfl
    simp only [perform_modeLine, inList_inList, rowCount_eq, size, ← scroll, ← rows]
    refine ⟨trivial, ?_⟩
    apply showing_withData
    · exact shown
    · exact controls
    · exact scanline
    · rfl
    · exact waiting
    · rfl
    · rfl
    · rfl

/-- What a line is processed with, beside the state that the chip has kept: between two lines
anything may happen to the rest of the machine, and interrupts may be noted in the status. -/
structure Surroundings where
  memory : Memory
  gtia : Gtia
  lineStart : UInt64
  schedule : Schedule
  status : UInt8

def processIn (a : Antic) (w : Surroundings) : Processed :=
  { a with interruptStatus := w.status }.processLine w.memory w.gtia w.lineStart w.schedule

def Content.paint (regs : Antic) (width : Width) (m : Memory) (g : Gtia) (i : Nat) (line : Line) :
    Content → Line
  | .nothing => line
  | .rows mode sideways first _ data =>
    ({ regs with mode, scrollsSideways := sideways, data := ⟨data.toArray⟩ } : Antic).render
      m g width (UInt8.ofNat ((first + i) % 16)) line

/-- A line is one of those of an instruction: the instruction is fetched if it is the first one, and
the picture is what the instruction shows there, with the players and missiles over it. -/
structure Shows (regs : Antic) (width : Width) (p : Placed) (line : Nat) (w : Surroundings)
    (done : Processed) : Prop where
  fetched : done.notices =
    if line = p.start then [.listInstruction line p.address p.command] else []
  picture :
    let objects := (w.gtia.fetchObjects w.memory line regs.dmaControl regs.objectBase).2
    done.line = (objects.drawLine (p.content.paint regs width w.memory objects (line - p.start)
      (Line.blank w.gtia.background))).2

section

variable {regs a : Antic}

theorem render_eq (controls : a.controls = regs.controls) (m : Memory) (g : Gtia) (width : Width)
    (row : UInt8) (line : Line) :
    a.render m g width row line =
      ({ regs with
          mode := a.mode, scrollsSideways := a.scrollsSideways, data := a.data } : Antic).render
        m g width row line := by
  have base : a.characterBase = regs.characterBase := (congrArg Antic.characterBase controls :)
  have control : a.characterControl = regs.characterControl :=
    (congrArg Antic.characterControl controls :)
  have scroll : a.horizontalScroll = regs.horizontalScroll :=
    (congrArg Antic.horizontalScroll controls :)
  have cells : a.cell m row = ({ regs with
      mode := a.mode, scrollsSideways := a.scrollsSideways, data := a.data } : Antic).cell m row := by
    funext code
    simp only [cell, base, control]
  simp only [render, cells, dataStart, fetchWidth, scroll]

theorem paint_of_held {content : Content} (controls : a.controls = regs.controls)
    (held : content.Held a) {start : Nat} (modeStart : a.modeStart = start) (m : Memory) (g : Gtia)
    (width : Width) (line : Nat) (l : Line) :
    (if a.mode = .blank then l else a.render m g width (LineState.row a line) l) =
      content.paint regs width m g (line - start) l := by
  cases content with
  | nothing => exact if_pos held
  | rows mode sideways first last data =>
    obtain ⟨shown, rfl, rfl, rfl, fetched⟩ := held
    have bytes : a.data = ⟨data.toArray⟩ := by rw [← fetched]
    rw [if_neg shown, render_eq controls, row_eq, modeStart, bytes]
    rfl

theorem mode_withData (a : Antic) (m : Memory) (width : Width) :
    (a.withData m width).mode = a.mode := by
  unfold withData
  split <;> rfl

theorem drawPlayfield_eq {s : LineState} {width : Width}
    (playfield : s.antic.displayWidth? = some width) (m : Memory) (line : Nat) :
    let c := if line = s.antic.modeStart then s.antic.withData m width else s.antic
    s.drawPlayfield m line =
      { s with
        antic := c
        line := if c.mode = .blank then s.line
          else c.render m s.gtia width (LineState.row c line) s.line
        cycles := (s.drawPlayfield m line).cycles } := by
  intro c
  have mode : c.mode = s.antic.mode := by
    simp only [c]
    split
    · exact mode_withData _ m width
    · rfl
  rw [mode]
  by_cases blank : s.antic.mode = .blank
  · have same : c = s.antic := by simp [c, withData, blank]
    have none : s.drawPlayfield m line = s := by
      unfold LineState.drawPlayfield
      rw [blank]
    rw [none, same, if_pos blank]
  · have data : (if line == s.antic.modeStart then s.antic.fetchData m width
        else (0, s.antic)).2 = c := by
      simp only [c, withData, blank, beq_iff_eq]
      split <;> rfl
    rw [if_neg blank, ← data]
    unfold LineState.drawPlayfield
    split
    · contradiction
    · rename_i none _
      rw [playfield] at none
      cases none
    · rename_i some _
      rw [playfield] at some
      cases some
      rfl

def opened (a : Antic) (status : UInt8) : Antic :=
  let begun := { a with interruptStatus := status, currentLine := a.scanline }
  if a.scanline = firstDisplayLine then begun.startFrame else begun

def begun (a : Antic) (w : Surroundings) : LineState :=
  let start : LineState :=
    { antic := a.opened w.status
      gtia := w.gtia
      schedule := w.schedule
      line := Line.blank w.gtia.background
      cycles := refreshCycles }
  start.fetchObjects w.memory a.scanline

theorem processIn_eq {w : Surroundings} (first : firstDisplayLine ≤ a.scanline)
    (last : a.scanline < verticalBlankLine) :
    let done := (((a.begun w).followList w.memory a.scanline w.lineStart).drawPlayfield
      w.memory a.scanline).drawObjects
    (a.processIn w).antic = done.antic.nextLine.2 ∧ (a.processIn w).notices = done.notices ∧
      (a.processIn w).line = done.line := by
  have shown : isShown a.scanline = true := by simp [isShown, first, last]
  have picture : (a.scanline == verticalBlankLine) = false :=
    beq_eq_false_iff_ne.2 (Nat.ne_of_lt last)
  simp only [processIn, processLine, shown, picture, beq_iff_eq]
  exact ⟨rfl, rfl, rfl⟩

theorem controls_withData (a : Antic) (m : Memory) (width : Width) :
    (a.withData m width).controls = a.controls := by
  unfold withData
  split <;> rfl

theorem showing_draw {s : LineState} {m : Memory} {line : Nat} {width : Width} {p : Placed}
    {r : Reader} (playfield : regs.displayWidth? = some width)
    (showing : Showing regs p r line
      (if line = s.antic.modeStart then s.antic.withData m width else s.antic)) :
    let done := (s.drawPlayfield m line).drawObjects
    Showing regs p r line done.antic ∧ done.notices = s.notices ∧
      done.line = (s.gtia.drawLine
        (p.content.paint regs width m s.gtia (line - p.start) s.line)).2 := by
  have controls : s.antic.controls = regs.controls := by
    rw [← showing.controls]
    split
    · rw [controls_withData]
    · rfl
  have same : s.antic.displayWidth? = some width := by
    rw [← playfield]
    exact (congrArg displayWidth? controls :)
  intro done
  simp only [done]
  rw [drawPlayfield_eq same]
  refine ⟨showing, rfl, ?_⟩
  rw [← paint_of_held showing.controls showing.content showing.modeStart]
  rfl

theorem followList_of_due {s : LineState} {r : Reader} {line : Nat}
    (list : hasBit regs.dmaControl 0x20 = true) (h : Ready regs r line s.antic) (m : Memory)
    (start : UInt64) :
    let fetched := s.antic.fetchInstruction m line start s.schedule
    s.followList m line start =
      { s with
        antic := fetched.antic
        schedule := fetched.schedule
        cycles := s.cycles + fetched.cycles
        notices := s.notices ++ fetched.notices } := by
  have control : s.antic.dmaControl = regs.dmaControl := (congrArg dmaControl h.controls :)
  simp [LineState.followList, control, list, h.waiting, h.nextFetch]

theorem followList_of_idle {s : LineState} {line : Nat}
    (list : hasBit regs.dmaControl 0x20 = true) (controls : s.antic.controls = regs.controls)
    (idle : s.antic.waiting = true ∨ line ≠ s.antic.nextFetch) (m : Memory) (start : UInt64) :
    s.followList m line start = s := by
  have control : s.antic.dmaControl = regs.dmaControl := (congrArg dmaControl controls :)
  simp only [LineState.followList, control, list]
  rcases idle with waiting | other
  · simp [waiting]
  · simp [other]

theorem Showing.nextLine {p : Placed} {r : Reader} {line : Nat} (h : Showing regs p r line a)
    (inside : line + 1 < regs.linesPerFrame) : Showing regs p r (line + 1) a.nextLine.2 := by
  have frame : a.linesPerFrame = regs.linesPerFrame := (congrArg linesPerFrame h.controls :)
  have next : a.nextLine.2 = { a with scanline := line + 1 } := by
    rw [Antic.nextLine, h.scanline, frame]
    exact congrArg Prod.snd (if_neg (Nat.not_le.2 inside))
  rw [next]
  exact ⟨h.controls, rfl, h.reader, h.waiting, h.nextFetch, h.modeStart, h.content⟩

theorem shows_of_followed {p : Placed} {r : Reader} {line : Nat} {w : Surroundings} {width : Width}
    (playfield : regs.displayWidth? = some width) (first : firstDisplayLine ≤ line)
    (last : line < verticalBlankLine) (scanline : a.scanline = line)
    (controls : (a.opened w.status).controls = regs.controls) {f : LineState}
    (followed : (a.begun w).followList w.memory line w.lineStart = f)
    (gtia : f.gtia = (a.begun w).gtia) (blank : f.line = (a.begun w).line)
    (notices : f.notices =
      if line = p.start then [.listInstruction line p.address p.command] else [])
    (showing : Showing regs p r line
      (if line = f.antic.modeStart then f.antic.withData w.memory width else f.antic)) :
    Shows regs width p line w (a.processIn w) ∧
      (line + 1 < regs.linesPerFrame → Showing regs p r (line + 1) (a.processIn w).antic) := by
  subst scanline
  have control : (a.opened w.status).dmaControl = regs.dmaControl :=
    (congrArg dmaControl controls :)
  have base : (a.opened w.status).objectBase = regs.objectBase :=
    (congrArg objectBase controls :)
  have objects : (a.begun w).gtia =
      (w.gtia.fetchObjects w.memory a.scanline regs.dmaControl regs.objectBase).2 := by
    rw [← control, ← base]
    rfl
  obtain ⟨antic, told, drawn⟩ := processIn_eq (w := w) first last
  obtain ⟨held, same, picture⟩ := showing_draw playfield showing
  rw [followed] at antic told drawn
  refine ⟨⟨?_, ?_⟩, ?_⟩
  · rw [told, same, notices]
  · rw [drawn, picture, gtia, blank, objects]
    rfl
  · rw [antic]
    exact held.nextLine

theorem shows_first {r : Reader} {line : Nat} {w : Surroundings} {width : Width}
    (list : hasBit regs.dmaControl 0x20 = true) (playfield : regs.displayWidth? = some width)
    (first : firstDisplayLine ≤ line) (last : line < verticalBlankLine)
    (scanline : a.scanline = line) (h : Ready regs r line (a.opened w.status)) :
    let step := r.next regs.verticalScroll.toNat width w.memory line
    Shows regs width step.1 line w (a.processIn w) ∧
      (line + 1 < regs.linesPerFrame →
        Showing regs step.1 step.2 (line + 1) (a.processIn w).antic) := by
  intro step
  obtain ⟨told, showing⟩ :=
    showing_fetchInstruction h width w.memory w.lineStart (a.begun w).schedule
  have start : step.1.start = line := r.start_next _ width w.memory line
  refine shows_of_followed playfield first last scanline h.controls
    (followList_of_due list h w.memory w.lineStart) rfl rfl ?_ ?_
  · rw [start, if_pos rfl]
    exact told
  · -- The instruction is fetched on the line on which it starts, and its data with it.
    show Showing regs step.1 step.2 line (if line = line then _ else _)
    rw [if_pos rfl]
    exact showing

theorem shows_rest {p : Placed} {r : Reader} {line : Nat} {w : Surroundings} {width : Width}
    (list : hasBit regs.dmaControl 0x20 = true) (playfield : regs.displayWidth? = some width)
    (first : firstDisplayLine < line) (last : line < verticalBlankLine)
    (h : Showing regs p r line a) (behind : p.start < line)
    (covers : line < p.start + p.count ∨ p.waits = true) :
    Shows regs width p line w (a.processIn w) ∧
      (line + 1 < regs.linesPerFrame → Showing regs p r (line + 1) (a.processIn w).antic) := by
  have later : a.scanline ≠ firstDisplayLine := h.scanline ▸ Nat.ne_of_gt first
  have begun :
      a.opened w.status = { a with interruptStatus := w.status, currentLine := a.scanline } :=
    if_neg later
  have idle : (a.begun w).antic.waiting = true ∨ line ≠ (a.begun w).antic.nextFetch := by
    show (a.opened w.status).waiting = true ∨ line ≠ (a.opened w.status).nextFetch
    rw [begun]
    rcases covers with inside | waits
    · exact .inr (h.nextFetch ▸ Nat.ne_of_lt inside)
    · exact .inl (h.waiting.trans waits)
  have controls : (a.opened w.status).controls = regs.controls := begun ▸ h.controls
  refine shows_of_followed playfield (Nat.le_of_lt first) last h.scanline controls
    (followList_of_idle list controls idle w.memory w.lineStart) rfl rfl ?_ ?_
  · rw [if_neg (Nat.ne_of_gt behind)]
    rfl
  · show Showing regs p r line
      (if line = (a.opened w.status).modeStart then _ else a.opened w.status)
    rw [begun, if_neg]
    · exact ⟨h.controls, h.scanline, h.reader, h.waiting, h.nextFetch, h.modeStart, h.content⟩
    · rw [h.modeStart]
      exact Nat.ne_of_gt behind

def before (a : Antic) (around : Nat → Surroundings) : Nat → Antic
  | 0 => a
  | n + 1 => ((a.before around n).processIn (around (firstDisplayLine + n))).antic

def processed (a : Antic) (around : Nat → Surroundings) (line : Nat) : Processed :=
  (a.before around (line - firstDisplayLine)).processIn (around line)

theorem before_succ (a : Antic) (around : Nat → Surroundings) {line : Nat}
    (first : firstDisplayLine ≤ line) :
    a.before around (line + 1 - firstDisplayLine) = (a.processed around line).antic := by
  obtain ⟨n, rfl⟩ := Nat.exists_eq_add_of_le first
  rw [Nat.add_assoc, Nat.add_sub_cancel_left, processed, Nat.add_sub_cancel_left]
  rfl

theorem ready_of_showing {p : Placed} {r : Reader} {line : Nat} {status : UInt8}
    (first : firstDisplayLine < line) (h : Showing regs p r line a) (waits : p.waits = false)
    (behind : line = p.start + p.count) : Ready regs r line (a.opened status) := by
  have later : a.scanline ≠ firstDisplayLine := h.scanline ▸ Nat.ne_of_gt first
  have begun : a.opened status = { a with interruptStatus := status, currentLine := a.scanline } :=
    if_neg later
  rw [begun]
  exact ⟨h.controls, h.scanline, h.reader, h.waiting.trans waits, h.nextFetch.trans behind.symm⟩

section

variable {around : Nat → Surroundings} {width : Width}
  (list : hasBit regs.dmaControl 0x20 = true) (playfield : regs.displayWidth? = some width)
  (frame : verticalBlankLine ≤ regs.linesPerFrame)
include list playfield frame

theorem shows_all {r : Reader} {start : Nat} (first : firstDisplayLine ≤ start)
    (scanline : (regs.before around (start - firstDisplayLine)).scanline = start)
    (h : Ready regs r start
      ((regs.before around (start - firstDisplayLine)).opened (around start).status))
    {line : Nat} (reached : start ≤ line) (last : line < verticalBlankLine) :
    let step := r.next regs.verticalScroll.toNat width (around start).memory start
    line < start + step.1.count ∨ step.1.waits = true →
    Shows regs width step.1 line (around line) (regs.processed around line) ∧
      (line + 1 < verticalBlankLine →
        Showing regs step.1 step.2 (line + 1) (regs.processed around line).antic) := by
  intro step
  have own : step.1.start = start := r.start_next _ width _ start
  induction line, reached using Nat.le_induction with
  | base =>
    intro _
    obtain ⟨shows, showing⟩ := shows_first list playfield first last scanline h
    exact ⟨shows, fun inside => showing (Nat.lt_of_lt_of_le inside frame)⟩
  | succ line reached ih =>
    intro covers
    have earlier : line < start + step.1.count ∨ step.1.waits = true :=
      covers.imp_left (Nat.lt_trans (Nat.lt_succ_self line))
    obtain ⟨-, showing⟩ := ih (Nat.lt_of_succ_lt last) earlier
    have held := showing last
    rw [← before_succ regs around (Nat.le_trans first reached)] at held
    obtain ⟨shows, showing⟩ := shows_rest list playfield (w := around (line + 1))
      (Nat.lt_succ_of_le (Nat.le_trans first reached)) last held
      (own ▸ Nat.lt_succ_of_le reached) (own ▸ covers)
    exact ⟨shows, fun inside => showing (Nat.lt_of_lt_of_le inside frame)⟩

theorem shows_layOut {r : Reader} {start : Nat} (first : firstDisplayLine ≤ start)
    (h : start < verticalBlankLine →
      (regs.before around (start - firstDisplayLine)).scanline = start ∧
        Ready regs r start
          ((regs.before around (start - firstDisplayLine)).opened (around start).status)) :
    ∀ p ∈ layOut regs.verticalScroll.toNat width (fun line => (around line).memory) r start,
      ∀ line, p.Covers line → line < verticalBlankLine →
        Shows regs width p line (around line) (regs.processed around line) := by
  fun_induction layOut with
  | case1 r start inside step ih =>
    obtain ⟨scanline, ready⟩ := h inside
    have own : step.1.start = start := r.start_next _ _ _ _
    have all {line : Nat} (reached : start ≤ line) :=
      shows_all list playfield frame first scanline ready reached
    refine List.forall_mem_cons.2 ⟨?_, ?_⟩
    · intro line covers last
      rw [Placed.Covers, own] at covers
      exact (all covers.1 last covers.2).1
    · cases waits : step.1.waits with
      | true =>
        rw [if_pos rfl]
        exact List.forall_mem_nil _
      | false =>
        rw [if_neg Bool.false_ne_true]
        refine ih (Nat.le_add_right_of_le first) fun more => ?_
        -- The last line of the instruction leaves the chip ready for the next one.
        have count : 0 < step.1.count := r.count_next_pos _ _ _ _
        obtain ⟨n, lines⟩ := Nat.exists_eq_succ_of_ne_zero (Nat.ne_of_gt count)
        have next : start + step.1.count = start + n + 1 := by rw [lines]; rfl
        rw [next] at more ⊢
        have showing := (all (Nat.le_add_right start n) (Nat.lt_of_succ_lt more)
          (.inl (Nat.lt_of_lt_of_eq (Nat.lt_succ_self _) next.symm))).2 more
        rw [← before_succ regs around (Nat.le_add_right_of_le first)] at showing
        refine ⟨showing.scanline, ready_of_showing ?_ showing waits ?_⟩
        · omega
        · rw [own, ← next]
  | case2 => exact List.forall_mem_nil _

end

/-- Whatever memory, players and interrupts do from line to line: with its registers held constant,
display list DMA on and a playfield, the chip shows on each line what the display list says that is
read instruction by instruction, and fetches each instruction on its first line only. -/
theorem shows_displayList {a : Antic} {width : Width} (around : Nat → Surroundings)
    (start : a.scanline = firstDisplayLine) (list : hasBit a.dmaControl 0x20 = true)
    (playfield : a.displayWidth? = some width) (frame : verticalBlankLine ≤ a.linesPerFrame) :
    let laid := layOut a.verticalScroll.toNat width (fun line => (around line).memory)
      ⟨a.displayList, a.scanCounter, false⟩ firstDisplayLine
    EndToEnd laid ∧ ∀ p ∈ laid, ∀ line, p.Covers line → line < verticalBlankLine →
      Shows a width p line (around line) (a.processed around line) := by
  refine ⟨endToEnd_layOut _ _ _ _, shows_layOut list playfield frame (Nat.le_refl _) fun _ => ?_⟩
  have begun : a.opened (around firstDisplayLine).status =
      { a with interruptStatus := (around firstDisplayLine).status,
               currentLine := a.scanline }.startFrame := if_pos start
  refine ⟨start, ?_⟩
  show Ready a _ _ (a.opened (around firstDisplayLine).status)
  rw [begun]
  exact ⟨rfl, start, rfl, rfl, rfl⟩

end

def sampleMemory : Memory :=
  [(0x1000, 0x70), (0x1001, 0x42), (0x1003, 0x20), (0x1004, 0x41), (0x1006, 0x10)].foldl
    (fun m (address, value) => m.poke address value)
    (Memory.create (Bytes.replicate _ 0) none)

theorem shows_displayList_sample :
    let a : Antic :=
      { linesPerFrame := 262, scanline := firstDisplayLine, dmaControl := 0x22,
        displayList := 0x1000 }
    let around : Nat → Surroundings := fun _ => ⟨sampleMemory, {}, 0, {}, 0⟩
    let laid := layOut a.verticalScroll.toNat .normal (fun line => (around line).memory)
      ⟨a.displayList, a.scanCounter, false⟩ firstDisplayLine
    a.scanline = firstDisplayLine ∧ hasBit a.dmaControl 0x20 = true ∧
      a.displayWidth? = some .normal ∧ verticalBlankLine ≤ a.linesPerFrame ∧ EndToEnd laid ∧
        ∀ p ∈ laid, ∀ line, p.Covers line → line < verticalBlankLine →
          Shows a .normal p line (around line) (a.processed around line) := by
  intro a around laid
  have list : hasBit a.dmaControl 0x20 = true := by decide
  have playfield : a.displayWidth? = some .normal := by decide
  have frame : verticalBlankLine ≤ a.linesPerFrame := by decide
  exact ⟨rfl, list, playfield, frame, shows_displayList around rfl list playfield frame⟩

end Atari800XL.Antic
