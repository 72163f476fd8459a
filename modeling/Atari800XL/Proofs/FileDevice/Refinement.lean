import Mathlib.Algebra.Group.Nat.Defs
import Atari800XL.Proofs.FileDevice.Delivery
import Atari800XL.Proofs.FileDevice.Snapshot

namespace Atari800XL.FileDevice

open Files

def Task.action? (t : Task) (m : Memory) (i : ChannelIndex) (a : UInt8) : Option Action :=
  let b := Iocb.ofChannel i
  match t with
  | .central .getRecord => some (.getRecord (b.bufferLength m).toNat)
  | .central .getBytes => some (.ofLength (b.bufferLength m))
  | .central .putRecord => some (.put (outgoingRecord b m a))
  | .central .putBytes => some (.put (outgoing b m a))
  | .putByte => some (.put [a])
  | .central .note => some .note
  | .central .point => some (.point (b.offset m))
  | _ => none

def Task.Keeps (t : Task) (m : Memory) (i : ChannelIndex) : Prop :=
  match t with
  | .central .close => False
  | .central .opening => (Iocb.ofChannel i).handlerId m ≠ Iocb.closedId
  | _ => True

section

variable {d : FileDevice} {m : Memory} {i : ChannelIndex} {a : UInt8} {t : Task} {tape : Tape}
  {name : String} {mode : OpenMode} {action : Action}

theorem answers_putByte (recorded : d.channel i = some (tape.channel name mode)) (a : UInt8) :
    (d.putReply m i a).Answers d m i name mode (tape.perform mode (.put [a])) := by
  unfold putReply
  rw [recorded]
  dsimp only
  rw [tape.put_channel]
  exact .guarded recorded rfl ⟨rfl, rfl, rfl, rfl⟩

theorem Task.answers_reply (recorded : d.channel i = some (tape.channel name mode))
    (file : mode ≠ .directory) (asked : t.action? m i a = some action) :
    (t.reply d m i a).Answers d m i name mode (tape.perform mode action) := by
  cases t with
  | putByte =>
    cases asked
    exact answers_putByte recorded a
  | central command =>
    rw [reply, carryOut_of_channel recorded]
    cases command with
    | getRecord =>
      cases asked
      exact answers_getRecord recorded
    | getBytes =>
      cases asked
      exact answers_getBytes recorded
    | putRecord =>
      cases asked
      exact answers_putRecord recorded a
    | putBytes =>
      cases asked
      exact answers_putBytes recorded a
    | note =>
      cases asked
      exact answers_note recorded file
    | point =>
      cases asked
      exact answers_point recorded file
    | _ => cases asked

theorem Task.channel_reply_of_idle (t : Task) {c : Channel} (recorded : d.channel i = some c)
    (idle : t.action? m i a = none) (keeps : t.Keeps m i) :
    (t.reply d m i a).device.channel i = d.channel i := by
  cases t with
  | putByte => cases idle
  | central command =>
    rw [reply]
    cases command with
    | opening => rw [carryOut_opening, opening_of_open d m i keeps]
    | close => exact keeps.elim
    | file command =>
      rw [carryOut_file, onTarget_device]
      rfl
    | status | unknown =>
      rw [carryOut_of_channel recorded]
      rfl
    | _ => cases idle

end

namespace Iocb

variable {m : Memory} {i : ChannelIndex}

theorem offset_setOffset (inRam : (ofChannel i).InRam m) (offset : Nat) (status : UInt8) :
    (ofChannel i).offset ((ofChannel i).setStatus ((ofChannel i).setOffset m offset) status) =
      offset % 2 ^ 24 := by
  have fields : ∀ i,
      ((ofChannel i).base + 3 ≠ (ofChannel i).base + 12 ∧
        (ofChannel i).base + 3 ≠ (ofChannel i).base + 13 ∧
        (ofChannel i).base + 3 ≠ (ofChannel i).base + 14) ∧
      (ofChannel i).base + 13 ≠ (ofChannel i).base + 12 ∧
      (ofChannel i).base + 14 ≠ (ofChannel i).base + 12 ∧
      (ofChannel i).base + 14 ≠ (ofChannel i).base + 13 := by decide
  obtain ⟨⟨code_low, code_middle, code_high⟩, middle_low, high_low, high_middle⟩ := fields i
  have low : m.accessAt ((ofChannel i).base + 12) = .ram := inRam 12 (by decide)
  have middle : m.accessAt ((ofChannel i).base + 13) = .ram := inRam 13 (by decide)
  have high : m.accessAt ((ofChannel i).base + 14) = .ram := inRam 14 (by decide)
  rw [Iocb.offset, setStatus, setOffset, Memory.peek_poke_of_ne code_low,
    Memory.peek_poke_of_ne code_middle, Memory.peek_poke_of_ne code_high,
    Memory.peek_poke_of_ne high_low, Memory.peek_poke_of_ne middle_low, Memory.peek_poke_self low,
    Memory.peek_poke_of_ne high_middle, Memory.peek_poke_self (by rwa [Memory.accessAt_poke]),
    Memory.peek_poke_self (by rwa [Memory.accessAt_poke, Memory.accessAt_poke])]
  simp only [UInt8.toNat_ofNat']
  omega

end Iocb

def Called.Finds (called : Called) (i : ChannelIndex) (m : Memory) : Found → Prop
  | .nothing | .inAccumulator _ => (Iocb.ofChannel i).Changes [3] 0 m called.memory
  | .inBuffer bytes => called.Delivers i m bytes
  | .inBlock offset =>
    ((Iocb.ofChannel i).InRam m →
      (Iocb.ofChannel i).offset called.memory = offset % 2 ^ 24) ∧
    (Iocb.ofChannel i).Changes [3, 12, 13, 14] 0 m called.memory

structure Called.Answers (called : Called) (e : Entry) (d : FileDevice) (i : ChannelIndex)
    (name : String) (mode : OpenMode) (answer : Answer × Tape) : Prop where
  handled : called.handled = true
  status : called.cpu.regs.y = answer.1.status.code
  accumulator : called.cpu.regs.a = answer.1.found.accumulator.getD e.cpu.regs.a
  found : called.Finds i e.memory answer.1.found
  device : called.device = d.setChannel i (some (answer.2.channel name mode))

section

variable {d : FileDevice} {m : Memory} {i : ChannelIndex} {t : Task} {tape : Tape} {e : Entry}
  {name : String} {mode : OpenMode} {action : Action} {c : Called}

theorem Called.Reports.finds {cpu : Cpu} {r : Reply} (reports : c.Reports cpu i r) {found : Found}
    (memory : r.memory = found.leave (.ofChannel i) m)
    (fits : ∀ bytes, found = .inBuffer bytes →
      bytes.length ≤ ((Iocb.ofChannel i).bufferLength m).toNat) : c.Finds i m found := by
  have after : c.memory =
      (Iocb.ofChannel i).setStatus (found.leave (.ofChannel i) m) r.status.code :=
    reports.memory.trans (congrArg (fun m => (Iocb.ofChannel i).setStatus m _) memory)
  cases found with
  | nothing | inAccumulator byte =>
    rw [Called.Finds, after]
    exact Iocb.Changes.none.poke (List.mem_cons_self) _
  | inBuffer bytes => exact reports.delivers memory (fits bytes rfl)
  | inBlock offset =>
    rw [Called.Finds, after]
    refine ⟨fun inRam => Iocb.offset_setOffset inRam offset _, ?_⟩
    exact ((Iocb.changes_setOffset _ m offset).cons 3).poke (List.mem_cons_self) _

theorem Task.room_le {a : UInt8} (asked : t.action? m i a = some action) :
    action.room ≤ ((Iocb.ofChannel i).bufferLength m).toNat := by
  cases t with
  | putByte =>
    cases asked
    exact Nat.zero_le _
  | central command =>
    cases command with
    | getRecord =>
      cases asked
      exact Nat.le_refl _
    | getBytes =>
      cases asked
      unfold Action.ofLength
      split
      · exact Nat.zero_le _
      · exact Nat.le_refl _
    | putRecord | putBytes | note | point =>
      cases asked
      exact Nat.zero_le _
    | _ => cases asked

end

namespace Entry

def asks (e : Entry) (i : ChannelIndex) : Option Action :=
  match e with
  | .central cpu memory =>
    if channelOf? cpu.regs.x = some i then
      (Task.central (.ofByte ((Iocb.ofChannel i).command memory))).action? memory i cpu.regs.a
    else none
  | .put cpu _ => if putChannel cpu.regs.x = i then some (.put [cpu.regs.a]) else none

def Keeps (e : Entry) (i : ChannelIndex) : Prop :=
  match e with
  | .central cpu memory =>
    channelOf? cpu.regs.x = some i →
      (Task.central (.ofByte ((Iocb.ofChannel i).command memory))).Keeps memory i
  | .put _ _ => True

end Entry

def actions (i : ChannelIndex) (calls : List Entry) : List Action := calls.filterMap (·.asks i)

section

variable {d : FileDevice} {i : ChannelIndex} {tape : Tape} {e : Entry} {name : String}
  {mode : OpenMode} {action : Action} {calls : List Entry}

theorem Task.keeps_of_action {t : Task} {m : Memory} {a : UInt8}
    (asked : t.action? m i a = some action) : t.Keeps m i := by
  cases t with
  | putByte => trivial
  | central command =>
    cases command with
    | close | opening => cases asked
    | _ => trivial

theorem Entry.keeps_of_asks (asks : e.asks i = some action) : e.Keeps i := by
  cases e with
  | central cpu memory =>
    intro channel
    rw [Entry.asks, if_pos channel] at asks
    exact Task.keeps_of_action asks
  | put cpu memory => trivial

theorem Entry.task?_of_asks {c : Channel} (recorded : d.channel i = some c)
    (asks : e.asks i = some action) :
    ∃ t, e.task? d = some (i, t) ∧ t.action? e.memory i e.cpu.regs.a = some action := by
  cases e with
  | central cpu memory =>
    obtain ⟨channel, asks⟩ := Option.ite_none_right_eq_some.1 asks
    generalize code : Command.ofByte ((Iocb.ofChannel i).command memory) = command at asks
    have other : command ≠ .opening := by
      rintro rfl
      cases asks
    refine ⟨.central command, ?_, asks⟩
    simp only [task?, channel, Option.bind_some, code, if_true,
      claims_eq_true_of_channel recorded other]
  | put cpu memory =>
    obtain ⟨channel, asks⟩ := Option.ite_none_right_eq_some.1 asks
    exact ⟨.putByte, congrArg (fun j => some (j, _)) channel, asks⟩

theorem Entry.answers_serve (recorded : d.channel i = some (tape.channel name mode))
    (file : mode ≠ .directory) (asks : e.asks i = some action) :
    (e.serve d).Answers e d i name mode (tape.perform mode action) := by
  obtain ⟨t, taken, asked⟩ := task?_of_asks recorded asks
  have reports := reports_serve taken
  have answers := t.answers_reply recorded file asked
  exact {
    handled := reports.handled
    status := reports.y.trans (congrArg _ answers.status)
    accumulator := by rw [reports.a, answers.accumulator]
    found := reports.finds answers.memory fun _ found =>
      (tape.length_le_room found).trans (Task.room_le asked)
    device := reports.device.trans answers.device }

theorem Entry.channel_serve_of_idle {c : Channel} (recorded : d.channel i = some c)
    (idle : e.asks i = none) (keeps : e.Keeps i) :
    (e.serve d).device.channel i = d.channel i := by
  cases taken : e.task? d with
  | none => rw [(leftAlone_serve taken).device]
  | some task =>
    obtain ⟨j, t⟩ := task
    by_cases own : j = i
    · subst own
      rw [(reports_serve taken).device]
      cases e with
      | central cpu memory =>
        obtain ⟨channel, -, rfl⟩ := claims_of_task taken
        rw [asks, if_pos channel] at idle
        exact Task.channel_reply_of_idle _ recorded idle (keeps channel)
      | put cpu memory =>
        cases taken
        rw [asks, if_pos rfl] at idle
        cases idle
    · obtain ⟨c, device, -⟩ := serves_serve taken
      rw [device]
      exact channel_setChannel_of_ne d (Ne.symm own) c

theorem Entry.channel_serve (recorded : d.channel i = some (tape.channel name mode))
    (file : mode ≠ .directory) (keeps : e.Keeps i) :
    (e.serve d).device.channel i =
      some ((tape.performAll mode (e.asks i).toList).channel name mode) := by
  cases asks : e.asks i with
  | some action =>
    rw [(answers_serve recorded file asks).device]
    exact channel_setChannel _ _ _
  | none => exact (channel_serve_of_idle recorded asks keeps).trans recorded

theorem Tape.performAll_append (tape : Tape) (first last : List Action) :
    tape.performAll mode (first ++ last) = (tape.performAll mode first).performAll mode last :=
  List.foldl_append

theorem actions_cons (e : Entry) (calls : List Entry) :
    actions i (e :: calls) = (e.asks i).toList ++ actions i calls := by
  rw [actions, List.filterMap_cons]
  cases e.asks i <;> rfl

theorem channel_serveAll (recorded : d.channel i = some (tape.channel name mode))
    (file : mode ≠ .directory) (kept : ∀ e ∈ calls, e.Keeps i) :
    (d.serveAll calls).channel i =
      some ((tape.performAll mode (actions i calls)).channel name mode) := by
  induction calls generalizing d tape with
  | nil => exact recorded
  | cons e calls ih =>
    obtain ⟨first, rest⟩ := List.forall_mem_cons.1 kept
    rw [actions_cons, Tape.performAll_append]
    exact ih (e.channel_serve recorded file first) rest

theorem Request.call_close_of_tape (close : Request i .close)
    (recorded : d.channel i = some (tape.channel name mode)) :
    (close.call d).EndsWith .success ∧
      (close.call d).device =
        { d.setChannel i none with
          store :=
            if mode.writable then (d.store.write name tape.array.toByteArray).store
            else d.store } := by
  have reports := close.reports_call_of_channel recorded nofun
  have flushed : (flush d.store (tape.channel name mode)).1 =
      if mode.writable then (d.store.write name tape.array.toByteArray).store else d.store := by
    rw [flush]
    split
    · exact (if_pos ‹_›).symm
    · exact (if_neg ‹_›).symm
  refine ⟨⟨reports.handled, reports.y⟩, reports.device.trans ?_⟩
  rw [← flushed]
  rfl

end

/-- A channel is a tape during these calls. -/
structure RunsAsTape (d : FileDevice) (i : ChannelIndex) (name : String) (mode : OpenMode)
    (start : Tape) (calls : List Entry) : Prop where
  channel : (d.serveAll calls).channel i =
    some ((start.performAll mode (actions i calls)).channel name mode)
  answers : ∀ before e after action, calls = before ++ e :: after → e.asks i = some action →
    (e.serve (d.serveAll before)).Answers e (d.serveAll before) i name mode
      ((start.performAll mode (actions i before)).perform mode action)
  /-- A place that three bytes can hold is noted, and found again by pointing to what was noted. -/
  restores : ∀ before n between p after, calls = before ++ n :: between ++ p :: after →
    let noting := d.serveAll before
    let pointing := d.serveAll (before ++ n :: between)
    let noted := start.performAll mode (actions i before)
    let moved := start.performAll mode (actions i (before ++ n :: between))
    n.asks i = some .note → (Iocb.ofChannel i).InRam n.memory → noted.cursor < 2 ^ 24 →
    p.asks i = some (.point ((Iocb.ofChannel i).offset (n.serve noting).memory)) →
    (p.serve pointing).EndsWith .success ∧
      ∃ inside, (p.serve pointing).device.channel i =
        some (Tape.channel { array := moved.array, cursor := noted.cursor, inside } name mode)
  closes : ∀ close : Request i .close,
    let last := d.serveAll calls
    let array := (start.performAll mode (actions i calls)).array
    (close.call last).EndsWith .success ∧
      (close.call last).device =
        { last.setChannel i none with
          store :=
            if mode.writable then (last.store.write name array.toByteArray).store else last.store }

section

variable {d : FileDevice} {i : ChannelIndex} {start : Tape} {name : String} {mode : OpenMode}
  {calls : List Entry} {e : Entry}

theorem Entry.offset_of_note (recorded : d.channel i = some (start.channel name mode))
    (file : mode ≠ .directory) (asks : e.asks i = some .note)
    (inRam : (Iocb.ofChannel i).InRam e.memory) :
    (Iocb.ofChannel i).offset (e.serve d).memory = start.cursor % 2 ^ 24 :=
  (answers_serve recorded file asks).found.1 inRam

theorem Entry.channel_of_point (recorded : d.channel i = some (start.channel name mode))
    (file : mode ≠ .directory) {offset : Nat} (asks : e.asks i = some (.point offset))
    (inside : offset ≤ start.array.length) :
    (e.serve d).EndsWith .success ∧ (e.serve d).device.channel i =
      some (Tape.channel { array := start.array, cursor := offset, inside } name mode) := by
  have answers := answers_serve recorded file asks
  rw [Tape.perform_point inside] at answers
  refine ⟨⟨answers.handled, answers.status⟩, ?_⟩
  rw [answers.device]
  exact channel_setChannel _ _ _

theorem runsAsTape (recorded : d.channel i = some (start.channel name mode))
    (file : mode ≠ .directory) (kept : ∀ e ∈ calls, e.Keeps i) :
    d.RunsAsTape i name mode start calls where
  channel := channel_serveAll recorded file kept
  answers := by
    rintro before e after action rfl asks
    have there := channel_serveAll recorded file (List.forall_mem_append.1 kept).1
    exact Entry.answers_serve there file asks
  restores := by
    rintro before n between p after rfl noting pointing noted moved isNote inRam small isPoint
    have upToPoint := (List.forall_mem_append.1 kept).1
    have atNote : noting.channel i = some (noted.channel name mode) :=
      channel_serveAll recorded file (List.forall_mem_append.1 upToPoint).1
    have atPoint : pointing.channel i = some (moved.channel name mode) :=
      channel_serveAll recorded file upToPoint
    have told := Entry.offset_of_note atNote file isNote inRam
    rw [Nat.mod_eq_of_lt small] at told
    rw [told] at isPoint
    -- What is asked for between the two leaves the place of the first on the tape.
    have later : moved = noted.performAll mode (actions i (n :: between)) := by
      rw [← Tape.performAll_append, actions, actions, ← List.filterMap_append]
      rfl
    have inside : noted.cursor ≤ moved.array.length := by
      rw [later]
      exact noted.inside.trans (noted.length_le_performAll mode _)
    obtain ⟨ends, channel⟩ := Entry.channel_of_point atPoint file isPoint inside
    exact ⟨ends, inside, channel⟩
  closes close := close.call_close_of_tape (channel_serveAll recorded file kept)

end

def Tape.ofFile (mode : OpenMode) (f : File) : Tape :=
  if mode = .append then .atEnd f.data.data.toList else .atStart f.data.data.toList

theorem Tape.channel_ofFile (mode : OpenMode) (f : File) :
    (ofFile mode f).channel f.name mode = .copy mode f := by
  have content : f.data.data.toList.toByteArray = f.data :=
    ByteArray.ext (by rw [List.data_toByteArray, Array.toArray_toList])
  unfold ofFile Channel.copy
  split
  · rw [channel, atEnd, content]
    rfl
  · rw [channel, atStart, content]

section

variable {d : FileDevice} {m : Memory} {i : ChannelIndex} {s : Store} {text : List Char}
  {mode : OpenMode}

theorem resolveName_ne_success : resolveName s text mode ≠ .error .success := by
  unfold resolveName
  cases named : normalize? text (mode == .read) with
  | error status =>
    rintro ⟨⟩
    exact normalize?_ne_success _ named
  | ok name =>
    simp only [bind, Except.bind]
    split
    · split <;> nofun
    · nofun

theorem openFile_of_needsFile (s : Store) (text : List Char) (needs : mode.needsFile = true) :
    (∃ status, status ≠ .success ∧ openFile s text mode = .error status) ∨
      ∃ f, resolveName s text mode = .ok f.name ∧ s.find? f.name = some f ∧
        (mode.writable && f.locked) = false ∧ openFile s text mode = .ok (.copy mode f) := by
  cases resolved : resolveName s text mode with
  | error status =>
    refine .inl ⟨status, ?_, ?_⟩
    · rintro rfl
      exact resolveName_ne_success resolved
    · rw [openFile, resolved]
      rfl
  | ok name =>
    cases found : s.find? name with
    | none => exact .inl ⟨.notFound, Status.noConfusion, openFile_of_missing needs resolved found⟩
    | some f =>
      have opened := openFile_of_found needs resolved found
      obtain rfl := Store.name_of_find? found
      cases locked : mode.writable && f.locked with
      | true => exact .inl ⟨.locked, Status.noConfusion, opened.trans (if_pos locked)⟩
      | false =>
        refine .inr ⟨f, rfl, found, locked, opened.trans (if_neg ?_)⟩
        rw [locked]
        exact Bool.false_ne_true

theorem opening_of_success (mode_eq : OpenMode.ofCode? ((Iocb.ofChannel i).mode m) = some mode)
    (needs : mode.needsFile = true) (succeeded : (d.opening m i).status = .success) :
    ∃ f unit text, splitDevice ((Iocb.ofChannel i).target m) = some (unit, text) ∧
      resolveName d.store text mode = .ok f.name ∧ d.store.find? f.name = some f ∧
      (mode.writable && f.locked) = false ∧
      (d.opening m i).device = d.setChannel i (some (.copy mode f)) := by
  have file : mode ≠ .directory := by
    rintro rfl
    cases needs
  unfold opening at succeeded ⊢
  dsimp only at succeeded ⊢
  split at succeeded
  · cases succeeded
  · rename_i vacant
    rw [if_neg vacant]
    cases split : splitDevice ((Iocb.ofChannel i).target m) with
    | none =>
      rw [prepare, split] at succeeded
      cases succeeded
    | some named =>
      obtain ⟨unit, text⟩ := named
      rw [prepare_eq_openFile split mode_eq file] at succeeded ⊢
      rcases openFile_of_needsFile d.store text needs with
        ⟨status, failed, opened⟩ | ⟨f, resolved, found, unlocked, opened⟩
      · have opened : openFile (d.setChannel i none).store text mode = .error status := opened
        rw [opened] at succeeded
        exact absurd succeeded failed
      · have opened : openFile (d.setChannel i none).store text mode = .ok (.copy mode f) := opened
        rw [opened]
        exact ⟨f, unit, text, rfl, resolved, found, unlocked, setChannel_setChannel d i none _⟩

theorem Request.claims_of_handled {command : Command} (r : Request i command)
    (handled : (r.call d).handled = true) : d.claims r.memory i command = true := by
  obtain ⟨cpu, memory, x, rfl⟩ := r
  by_contra left
  have same : (d.call cpu memory).handled = false :=
    (call_of_not_claims (channelOf?_eq_some_iff.2 x) (Bool.eq_false_iff.2 left)).handled
  exact Bool.noConfusion (handled.symm.trans same)

end

/-- A file has been opened to read, append or update it. Until its channel is closed or opened anew,
the channel is a tape that starts with the bytes of the file, and the calls answer as the tape
does, whatever is done on other channels and to the files meanwhile. -/
theorem opened_as_tape (d : FileDevice) {i : ChannelIndex} {mode : OpenMode}
    (o : Request i .opening)
    (mode_eq : OpenMode.ofCode? ((Iocb.ofChannel i).mode o.memory) = some mode)
    (needs : mode.needsFile = true) (succeeded : (o.call d).EndsWith .success) :
    ∃ f unit text,
      splitDevice ((Iocb.ofChannel i).target o.memory) = some (unit, text) ∧
      resolveName d.store text mode = .ok f.name ∧ d.store.find? f.name = some f ∧
      (mode.writable && f.locked) = false ∧
      (o.call d).device = d.setChannel i (some ((Tape.ofFile mode f).channel f.name mode)) ∧
      ∀ calls : List Entry, (∀ e ∈ calls, e.Keeps i) →
        (o.call d).device.RunsAsTape i f.name mode (.ofFile mode f) calls := by
  have file : mode ≠ .directory := by
    rintro rfl
    cases needs
  have reports := o.reports_call (o.claims_of_handled succeeded.1)
  rw [carryOut_opening] at reports
  have status : (d.opening o.memory i).status = .success :=
    Status.code_inj.1 (reports.y.symm.trans succeeded.2)
  obtain ⟨f, unit, text, split, resolved, found, unlocked, device⟩ :=
    opening_of_success mode_eq needs status
  have opened : (o.call d).device =
      d.setChannel i (some ((Tape.ofFile mode f).channel f.name mode)) := by
    rw [Tape.channel_ofFile, reports.device, device]
  have recorded : (o.call d).device.channel i =
      some ((Tape.ofFile mode f).channel f.name mode) := by
    rw [opened, channel_setChannel]
  exact ⟨f, unit, text, split, resolved, found, unlocked, opened,
    fun calls kept => runsAsTape recorded file kept⟩

theorem asks_samplePut : samplePut.entry.asks Scene.channel = some (.put [0x68, 0x69]) := by
  have channel : channelOf? samplePut.cpu.regs.x = some Scene.channel :=
    channelOf?_eq_some_iff.2 samplePut.x
  rw [Request.entry, Entry.asks, if_pos channel, samplePut.code, Task.action?,
    outgoing_samplePut]

theorem keeps_samplePut : ∀ e ∈ [samplePut.entry], e.Keeps Scene.channel := by
  have asks := asks_samplePut
  -- What it asks is all that matters: the sample's memory is not to be looked into.
  generalize samplePut.entry = e at asks ⊢
  rw [List.forall_mem_singleton]
  exact Entry.keeps_of_asks asks

theorem opened_as_tape_sample :
    let o := sampleOpening .update
    OpenMode.ofCode? ((Iocb.ofChannel Scene.channel).mode o.memory) = some .update ∧
      OpenMode.update.needsFile = true ∧ (o.call sampleKept).EndsWith .success ∧
      (∀ e ∈ [samplePut.entry], e.Keeps Scene.channel) ∧
      (sampleClose.call (sampleOpened.serveAll [samplePut.entry])).device.store.read "A.B" =
        some ⟨#[0x68, 0x69]⟩ := by
  intro o
  obtain ⟨succeeded, opened⟩ := call_sampleOpening
  refine ⟨o.mode_eq, rfl, succeeded, keeps_samplePut, ?_⟩
  obtain ⟨f, unit, text, split, resolved, found, -, -, runs⟩ :=
    opened_as_tape sampleKept o.toRequest o.mode_eq rfl succeeded
  obtain ⟨rfl, rfl⟩ : o.unit = unit ∧ o.text = text := by
    simpa using o.target.symm.trans split
  have name : f.name = "A.B" :=
    (Except.ok.inj ((o.resolveName_eq sampleKept.store).symm.trans resolved)).symm
  obtain rfl : f = sampleFile := by
    rw [name, find?_sampleKept] at found
    exact (Option.some.inj found).symm
  obtain ⟨-, closed⟩ := (runs _ keeps_samplePut).closes sampleClose
  have asked : actions Scene.channel [samplePut.entry] = [.put [0x68, 0x69]] := by
    rw [actions_cons, asks_samplePut]
    rfl
  have put : ((Tape.ofFile .update sampleFile).performAll .update [.put [0x68, 0x69]]).array =
      [0x68, 0x69] := by decide
  have writable : OpenMode.update.writable = true := rfl
  rw [opened, asked, put, if_pos writable] at closed
  rw [closed]
  exact (Store.read_write _ _ _).trans rfl

end Atari800XL.FileDevice
