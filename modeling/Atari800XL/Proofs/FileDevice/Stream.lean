import Atari800XL.Proofs.FileDevice.Ownership
import Atari800XL.Proofs.FileDevice.Transfer

namespace Atari800XL.FileDevice

structure Called.Reports (c : Called) (cpu : Cpu) (i : ChannelIndex) (r : Reply) : Prop where
  handled : c.handled = true
  device : c.device = r.device
  memory : c.memory = (Iocb.ofChannel i).setStatus r.memory r.status.code
  y : c.cpu.regs.y = r.status.code
  a : c.cpu.regs.a = r.accumulator.getD cpu.regs.a

theorem carryOut_of_channel {d : FileDevice} {i : ChannelIndex} {c : Channel}
    (recorded : d.channel i = some c) (m : Memory) (a : UInt8) (command : Command) :
    d.carryOut m i a command = d.onChannel m i c a command := by
  simp only [carryOut, recorded]

structure Request (i : ChannelIndex) (command : Command) where
  cpu : Cpu
  memory : Memory
  x : cpu.regs.x = 16 * UInt8.ofNat i.val
  code : Command.ofByte ((Iocb.ofChannel i).command memory) = command

namespace Request

variable {i : ChannelIndex} {command : Command}

def call (r : Request i command) (d : FileDevice) : Called := d.call r.cpu r.memory

theorem reports_call (r : Request i command) {d : FileDevice}
    (claimed : d.claims r.memory i command = true) :
    (r.call d).Reports r.cpu i (d.carryOut r.memory i r.cpu.regs.a command) := by
  obtain ⟨cpu, memory, x, rfl⟩ := r
  have channel := channelOf?_eq_some_iff.2 x
  rw [call, FileDevice.call, channel]
  simp only [claimed, if_true]
  exact ⟨rfl, rfl, rfl, rfl, rfl⟩

theorem reports_call_of_channel (r : Request i command) {d : FileDevice} {c : Channel}
    (recorded : d.channel i = some c) (other : command ≠ .opening) :
    (r.call d).Reports r.cpu i (d.onChannel r.memory i c r.cpu.regs.a command) := by
  rw [← carryOut_of_channel recorded]
  exact r.reports_call (claims_eq_true_of_channel recorded other)

end Request

theorem Status.code_inj {s t : Status} : s.code = t.code ↔ s = t := by
  refine ⟨fun same => ?_, congrArg code⟩
  revert same
  cases s <;> cases t <;> decide

def Called.EndsWith (c : Called) (status : Status) : Prop :=
  c.handled = true ∧ c.cpu.regs.y = status.code

theorem carryOut_opening (d : FileDevice) (m : Memory) (i : ChannelIndex) (a : UInt8) :
    d.carryOut m i a .opening = d.opening m i := by
  unfold carryOut
  split <;> rfl

theorem prepare_eq_openFile {s : Files.Store} {target : List Char} {code unit : UInt8}
    {text : List Char} {mode : OpenMode} (split : splitDevice target = some (unit, text))
    (mode_eq : OpenMode.ofCode? code = some mode) (file : mode ≠ .directory) :
    prepare s target code = openFile s text mode >>= fun c => pure (unit, c) := by
  rw [prepare, split, mode_eq]
  cases mode with
  | directory => exact absurd rfl file
  | _ => rfl

theorem Request.call_of_prepare {i : ChannelIndex} (r : Request i .opening)
    (closed : (Iocb.ofChannel i).handlerId r.memory = Iocb.closedId)
    (own : (Iocb.ofChannel i).namesOwnDevice r.memory = true) {d : FileDevice} {unit : UInt8}
    {c : Channel}
    (prepared : prepare d.store ((Iocb.ofChannel i).target r.memory)
      ((Iocb.ofChannel i).mode r.memory) = .ok (unit, c)) :
    (r.call d).EndsWith .success ∧ (r.call d).device = d.setChannel i (some c) := by
  -- The old channel goes before the file is looked for.
  have prepared : prepare (d.setChannel i none).store _ _ = .ok (unit, c) := prepared
  have reply : (d.opening r.memory i).device = d.setChannel i (some c) ∧
      (d.opening r.memory i).status = .success := by
    unfold opening
    dsimp only
    rw [closed, bne_self_eq_false, if_neg Bool.false_ne_true, prepared]
    exact ⟨setChannel_setChannel d i none _, rfl⟩
  have reports := r.reports_call (d := d) own
  rw [carryOut_opening] at reports
  obtain ⟨device, status⟩ := reply
  exact ⟨⟨reports.handled, reports.y.trans (congrArg _ status)⟩, reports.device.trans device⟩

/-- A call to open a file of this name, whose control block is marked closed. -/
structure Opening (i : ChannelIndex) (mode : OpenMode) (name : String)
    extends Request i .opening where
  closed : (Iocb.ofChannel i).handlerId memory = Iocb.closedId
  mode_eq : OpenMode.ofCode? ((Iocb.ofChannel i).mode memory) = some mode
  own : (Iocb.ofChannel i).namesOwnDevice memory = true
  unit : UInt8
  text : List Char
  target : splitDevice ((Iocb.ofChannel i).target memory) = some (unit, text)
  valid : Files.normalize (String.ofList text) false = some name

namespace Opening

variable {i : ChannelIndex} {mode : OpenMode} {name : String}

theorem resolveName_eq (o : Opening i mode name) (s : Files.Store) :
    resolveName s o.text mode = .ok name := by
  obtain ⟨normalized, plain⟩ := Files.normalize_of_false o.valid (mode == .read)
  have named : normalize? o.text (mode == .read) = .ok name := by rw [normalize?, normalized]
  rw [resolveName, named]
  show (if Files.isPattern name = true then _ else _) = _
  rw [plain, if_neg Bool.false_ne_true]
  rfl

theorem openFile_write (o : Opening i .write name) {s : Files.Store}
    (unlocked : (s.find? name).any (·.locked) = false) :
    openFile s o.text .write = .ok (writing name []) := by
  rw [openFile, o.resolveName_eq]
  show (if (s.find? name).any (·.locked) = true then _ else _) = _
  rw [unlocked, if_neg Bool.false_ne_true]
  rfl

theorem openFile_read (o : Opening i .read name) {s : Files.Store} {bytes : List UInt8}
    (read : s.read name = some bytes.toByteArray) :
    openFile s o.text .read = .ok (reading name [] bytes) := by
  obtain ⟨file, found, data⟩ := Option.map_eq_some_iff.1 read
  rw [openFile, o.resolveName_eq]
  simp only [bind, Except.bind, found, data]
  rfl

theorem prepare_of_openFile (o : Opening i mode name) {s : Files.Store} {c : Channel}
    (file : mode ≠ .directory) (opened : openFile s o.text mode = .ok c) :
    prepare s ((Iocb.ofChannel i).target o.memory) ((Iocb.ofChannel i).mode o.memory) =
      .ok (o.unit, c) := by
  rw [prepare_eq_openFile o.target o.mode_eq file, opened]
  rfl

theorem call_of_openFile (o : Opening i mode name) {d : FileDevice} {c : Channel}
    (file : mode ≠ .directory) (opened : openFile d.store o.text mode = .ok c) :
    (o.call d).EndsWith .success ∧ (o.call d).device = d.setChannel i (some c) :=
  o.call_of_prepare o.closed o.own (o.prepare_of_openFile file opened)

end Opening

section

variable {i : ChannelIndex} (r : Request i .close) {d : FileDevice}
include r

theorem Request.call_close_of_writable {c : Channel} (recorded : d.channel i = some c)
    (writable : c.mode.writable = true) :
    (r.call d).EndsWith .success ∧
      (r.call d).device =
        { d.setChannel i none with store := (d.store.write c.name c.content).store } := by
  have reports := r.reports_call_of_channel recorded nofun
  have flushed : (flush d.store c).1 = (d.store.write c.name c.content).store := by
    rw [flush, if_pos writable]
  refine ⟨⟨reports.handled, reports.y⟩, reports.device.trans ?_⟩
  rw [← flushed]
  rfl

theorem Request.call_close {name : String} {bytes : List UInt8}
    (recorded : d.channel i = some (writing name bytes)) :
    (r.call d).EndsWith .success ∧
      (r.call d).device =
        { d.setChannel i none with store := (d.store.write name bytes.toByteArray).store } :=
  r.call_close_of_writable recorded writable_write

end

/-- A call that puts bytes: through the central entry, or the accumulator through the entry of the
control block. -/
inductive Output (i : ChannelIndex)
  | bytes (r : Request i .putBytes)
  | byte (cpu : Cpu) (memory : Memory) (x : cpu.regs.x.toNat / 16 % Iocb.count = i.val)

namespace Output

variable {i : ChannelIndex}

def call (d : FileDevice) : Output i → Called
  | .bytes r => r.call d
  | .byte cpu memory _ => d.putByte cpu memory

def content : Output i → List UInt8
  | .bytes r => outgoing (.ofChannel i) r.memory r.cpu.regs.a
  | .byte cpu _ _ => [cpu.regs.a]

theorem call_writing (o : Output i) {d : FileDevice} {name : String} {bytes : List UInt8}
    (recorded : d.channel i = some (writing name bytes)) :
    (o.call d).EndsWith .success ∧
      (o.call d).device = d.setChannel i (some (writing name (bytes ++ o.content))) := by
  cases o with
  | bytes r =>
    have reports := r.reports_call_of_channel recorded nofun
    obtain ⟨device, -, status⟩ :=
      putData_writing d r.memory i name bytes r.cpu.regs.a
    exact ⟨⟨reports.handled, reports.y.trans (congrArg _ status)⟩, reports.device.trans device⟩
  | byte cpu memory x =>
    have index : Fin.ofNat Iocb.count (cpu.regs.x.toNat / 16) = i := Fin.ext x
    have writable : (writing name bytes).mode.writable = true := writable_write
    unfold call putByte
    dsimp only
    rw [index, recorded]
    dsimp only
    rw [writable, Bool.not_true, if_neg Bool.false_ne_true, setChannel_setChannel,
      put_writing]
    exact ⟨⟨rfl, rfl⟩, rfl⟩

end Output

def putAll {i : ChannelIndex} (d : FileDevice) (puts : List (Output i)) : FileDevice :=
  puts.foldl (fun d o => (o.call d).device) d

theorem putAll_writing {i : ChannelIndex} (d : FileDevice) (name : String) (bytes : List UInt8)
    (puts : List (Output i)) :
    (d.setChannel i (some (writing name bytes))).putAll puts =
      d.setChannel i (some (writing name (bytes ++ puts.flatMap Output.content))) := by
  induction puts generalizing bytes with
  | nil =>
    rw [List.flatMap_nil, List.append_nil]
    rfl
  | cons o puts ih =>
    obtain ⟨-, device⟩ := o.call_writing (channel_setChannel d i (some (writing name bytes)))
    rw [putAll, List.foldl_cons, device, setChannel_setChannel]
    refine (ih (bytes ++ o.content)).trans ?_
    rw [List.flatMap_cons, List.append_assoc]

/-- A call to get bytes, with the buffer in RAM outside the page of the control blocks. That page is
low memory, which is RAM whatever is mapped (`Memory.LowIsRam`). -/
structure Input (i : ChannelIndex) extends Request i .getBytes where
  inRam : (Iocb.ofChannel i).InRam memory
  buffer : ∀ k < ((Iocb.ofChannel i).bufferLength memory).toNat,
    memory.accessAt ((Iocb.ofChannel i).bufferAddress memory + UInt16.ofNat k) = .ram ∧
      ((Iocb.ofChannel i).bufferAddress memory + UInt16.ofNat k).toNat / 256 ≠ Iocb.page

structure Receipt where
  handled : Bool
  status : UInt8
  length : UInt16
  /-- The bytes in the buffer, or the one in the accumulator. -/
  bytes : List UInt8
  deriving DecidableEq, Repr, Inhabited

def asked (length : UInt16) : Nat := if length = 0 then 1 else length.toNat

def askedAll : List UInt16 → Nat
  | [] => 0
  | length :: lengths => asked length + askedAll lengths

def Receipt.expected (rest : List UInt8) (length : UInt16) : Receipt where
  handled := true
  status := if asked length ≤ rest.length then Status.success.code else Status.endOfFile.code
  length := UInt16.ofNat (min length.toNat rest.length)
  bytes := rest.take (asked length)

def Receipt.expectedAll (rest : List UInt8) : List UInt16 → List Receipt
  | [] => []
  | length :: lengths =>
    .expected rest length :: expectedAll (rest.drop (asked length)) lengths

namespace Input

variable {i : ChannelIndex}

def length (g : Input i) : UInt16 := (Iocb.ofChannel i).bufferLength g.memory

def receipt (g : Input i) (d : FileDevice) : Receipt :=
  let c := g.call d
  let length := (Iocb.ofChannel i).bufferLength c.memory
  { handled := c.handled
    status := c.cpu.regs.y
    length
    bytes :=
      if g.length = 0 then
        if c.cpu.regs.y = Status.success.code then [c.cpu.regs.a] else []
      else c.memory.peekAll ((Iocb.ofChannel i).bufferAddress g.memory) length.toNat }

structure Delivers (g : Input i) (d : FileDevice) (name : String) (done rest : List UInt8) :
    Prop where
  receipt : g.receipt d = .expected rest g.length
  next : (g.call d).device.channel i =
    some (reading name (done ++ rest.take (asked g.length)) (rest.drop (asked g.length)))

theorem receipt_of_reports (g : Input i) {d : FileDevice} {r : Reply}
    (reports : (g.call d).Reports g.cpu i r) :
    g.receipt d =
      { handled := true
        status := r.status.code
        length := (Iocb.ofChannel i).bufferLength r.memory
        bytes :=
          if g.length = 0 then
            if r.status.code = Status.success.code then [r.accumulator.getD g.cpu.regs.a] else []
          else
            ((Iocb.ofChannel i).setStatus r.memory r.status.code).peekAll
              ((Iocb.ofChannel i).bufferAddress g.memory)
              ((Iocb.ofChannel i).bufferLength r.memory).toNat } := by
  rw [receipt, reports.handled, reports.y, reports.a, reports.memory, Iocb.bufferLength_setStatus]

theorem delivers_single (g : Input i) (single : g.length = 0) {d : FileDevice} {name : String}
    {done rest : List UInt8} (recorded : d.channel i = some (reading name done rest)) :
    g.Delivers d name done rest := by
  have reports : (g.call d).Reports g.cpu i (d.getBytes g.memory i (reading name done rest)) :=
    g.reports_call_of_channel recorded nofun
  have one : asked g.length = 1 := if_pos single
  have unchanged : (Iocb.ofChannel i).bufferLength g.memory =
      UInt16.ofNat (min g.length.toNat rest.length) := by
    have zero : g.length.toNat = 0 := congrArg UInt16.toNat single
    rw [zero, Nat.zero_min]
    exact single
  cases rest with
  | nil =>
    rw [getBytes_nil d single] at reports
    constructor
    · rw [g.receipt_of_reports reports, if_pos single, Receipt.expected, one, ← unchanged]
      rfl
    · rw [reports.device, List.take_nil, List.append_nil, List.drop_nil]
      exact recorded
  | cons byte rest =>
    rw [getBytes_cons d single] at reports
    constructor
    · have enough : 1 ≤ (byte :: rest).length := Nat.succ_pos _
      rw [g.receipt_of_reports reports, if_pos single, Receipt.expected, one, ← unchanged,
        if_pos enough]
      rfl
    · rw [reports.device, one]
      exact channel_setChannel _ _ _

theorem delivers_many (g : Input i) (many : g.length ≠ 0) {d : FileDevice} {name : String}
    {done rest : List UInt8} (recorded : d.channel i = some (reading name done rest)) :
    g.Delivers d name done rest := by
  have reports : (g.call d).Reports g.cpu i (d.getBytes g.memory i (reading name done rest)) :=
    g.reports_call_of_channel recorded nofun
  have count : asked g.length = g.length.toNat := if_neg many
  have length : (Iocb.ofChannel i).bufferLength g.memory = g.length := rfl
  obtain ⟨device, memory, status⟩ := getBytes_of_ne_zero d name done rest length many
  -- Less may be delivered than the buffer can hold.
  have within : ∀ k < (rest.take g.length.toNat).length, k < g.length.toNat :=
    fun k lt => Nat.lt_of_lt_of_le lt (List.length_take_le _ _)
  have fits : (rest.take g.length.toNat).length < 65536 :=
    Nat.lt_of_le_of_lt (List.length_take_le _ _) g.length.toNat_lt
  obtain ⟨length', bytes⟩ := Iocb.delivered g.inRam (fun k lt => g.buffer k (within k lt)) fits
    (d.getBytes g.memory i (reading name done rest)).status.code
  have found : (UInt16.ofNat (rest.take g.length.toNat).length).toNat =
      (rest.take g.length.toNat).length := UInt16.toNat_ofNat_of_lt' fits
  constructor
  · rw [g.receipt_of_reports reports, if_neg many, memory, length', found, bytes, status,
      List.length_take, Receipt.expected, count]
    by_cases enough : g.length.toNat ≤ rest.length
    · rw [if_pos enough, if_pos enough]
    · rw [if_neg enough, if_neg enough]
  · rw [reports.device, device, count]
    exact channel_setChannel _ _ _

theorem delivers (g : Input i) {d : FileDevice} {name : String} {done rest : List UInt8}
    (recorded : d.channel i = some (reading name done rest)) :
    g.Delivers d name done rest := by
  by_cases single : g.length = 0
  · exact g.delivers_single single recorded
  · exact g.delivers_many single recorded

end Input

def getAll {i : ChannelIndex} (d : FileDevice) : List (Input i) → List Receipt
  | [] => []
  | g :: gets => g.receipt d :: (g.call d).device.getAll gets

theorem getAll_reading {i : ChannelIndex} {d : FileDevice} {name : String}
    {done rest : List UInt8} (gets : List (Input i))
    (recorded : d.channel i = some (reading name done rest)) :
    d.getAll gets = Receipt.expectedAll rest (gets.map Input.length) := by
  induction gets generalizing d done rest with
  | nil => rfl
  | cons g gets ih =>
    obtain ⟨receipt, next⟩ := g.delivers recorded
    rw [getAll, receipt, ih next]
    rfl

theorem Receipt.flatMap_expectedAll (rest : List UInt8) (lengths : List UInt16) :
    (expectedAll rest lengths).flatMap (·.bytes) = rest.take (askedAll lengths) := by
  induction lengths generalizing rest with
  | nil => exact List.take_zero.symm
  | cons length lengths ih =>
    rw [expectedAll, List.flatMap_cons, ih, askedAll, List.take_add]
    rfl

/-- A file that is opened to write, put to in any pieces and closed holds what was put to it, and no
other file has changed. When it is opened to read, any pieces of it are delivered in order, the last
one cut short and followed by nothing but the end of the file. -/
theorem put_then_get (d : FileDevice) (i : ChannelIndex) (name : String)
    (unlocked : (d.store.find? name).any (·.locked) = false)
    (write : Opening i .write name) (puts : List (Output i)) (close : Request i .close)
    (read : Opening i .read name) (gets : List (Input i)) :
    let opened := write.call d
    let closed := close.call (opened.device.putAll puts)
    let reopened := read.call closed.device
    let content := puts.flatMap Output.content
    opened.EndsWith .success ∧
      (∀ before o after, puts = before ++ o :: after →
        (o.call (opened.device.putAll before)).EndsWith .success) ∧
      closed.EndsWith .success ∧
      closed.device.store.read name = some content.toByteArray ∧
      (∀ other, other ≠ name → closed.device.store.find? other = d.store.find? other) ∧
      reopened.EndsWith .success ∧
      reopened.device.getAll gets = Receipt.expectedAll content (gets.map Input.length) ∧
      (reopened.device.getAll gets).flatMap (·.bytes) =
        content.take (askedAll (gets.map Input.length)) := by
  intro opened closed reopened content
  obtain ⟨openedWell, device⟩ := write.call_of_openFile nofun (write.openFile_write unlocked)
  -- Until the channel is closed its bytes rest in it, and the store is as it was.
  have put (puts : List (Output i)) : opened.device.putAll puts =
      d.setChannel i (some (writing name (puts.flatMap Output.content))) := by
    rw [device, putAll_writing]
    rfl
  have recorded (puts : List (Output i)) : (opened.device.putAll puts).channel i =
      some (writing name (puts.flatMap Output.content)) := by
    rw [put, channel_setChannel]
  obtain ⟨closedWell, stored⟩ := close.call_close (recorded puts)
  have written : closed.device.store = (d.store.write name content.toByteArray).store := by
    rw [stored, put]
    rfl
  have found : closed.device.store.read name = some content.toByteArray := by
    rw [written, Files.Store.read_write]
  obtain ⟨reopenedWell, device'⟩ := read.call_of_openFile nofun (read.openFile_read found)
  have got := getAll_reading gets
    ((congrArg (·.channel i) device').trans (channel_setChannel _ _ _))
  refine ⟨openedWell, ?_, closedWell, found, ?_, reopenedWell, got, ?_⟩
  · rintro before o after rfl
    exact (o.call_writing (recorded before)).1
  · intro other ne
    rw [written, Files.Store.find?_write_of_ne d.store _ ne]
  · rw [got, Receipt.flatMap_expectedAll]

def sampleName : List UInt8 := [0x48, 0x3A, 0x41, 0x2E, 0x42, eol] ++ List.replicate 58 0

def sampleOpening (mode : OpenMode) : Opening Scene.channel mode "A.B" where
  cpu := { regs := { x := 16 } }
  memory :=
    Scene.memory { id := 0xFF, command := 0x03, mode := mode.code, buffer := sampleName }
      Scene.channel
  x := rfl
  code := by
    rw [Scene.command_memory]
    rfl
  closed := Scene.handlerId_memory _ Scene.channel
  mode_eq := by
    rw [Scene.mode_memory]
    cases mode <;> rfl
  own := by
    rw [Scene.namesOwnDevice_memory _ Scene.channel rfl]
    rfl
  unit := 1
  text := ['A', '.', 'B']
  target := by
    rw [Scene.target_memory _ Scene.channel rfl]
    rfl
  valid := by decide +kernel

def putScene : Scene := { id := 0x7F, command := 0x0B, length := 2, buffer := [0x68, 0x69] }

def samplePut : Request Scene.channel .putBytes where
  cpu := { regs := { x := 16 } }
  memory := putScene.memory Scene.channel
  x := rfl
  code := by
    rw [Scene.command_memory]
    rfl

theorem outgoing_samplePut (a : UInt8) :
    outgoing (.ofChannel Scene.channel) samplePut.memory a = [0x68, 0x69] := by
  have some : (Iocb.ofChannel Scene.channel).bufferLength (putScene.memory Scene.channel) ≠ 0 := by
    rw [putScene.bufferLength_memory]
    decide
  rw [outgoing, samplePut, if_neg some, putScene.peekAll_buffer Scene.channel rfl]
  rfl

def samplePuts : List (Output Scene.channel) :=
  [.byte { regs := { a := 0x2A, x := 16 } } (putScene.memory Scene.channel) (by decide),
    .bytes samplePut]

theorem content_samplePuts : samplePuts.flatMap Output.content = [0x2A, 0x68, 0x69] := by
  rw [samplePuts, List.flatMap_cons, List.flatMap_cons, Output.content, Output.content,
    outgoing_samplePut]
  rfl

def sampleClose : Request Scene.channel .close where
  cpu := { regs := { x := 16 } }
  memory := Scene.memory { id := 0x7F, command := 0x0C } Scene.channel
  x := rfl
  code := by
    rw [Scene.command_memory]
    rfl

def sampleGet (length : UInt16) (small : length.toNat ≤ 0x1000) : Input Scene.channel where
  cpu := { regs := { x := 16 } }
  memory := Scene.memory { id := 0x7F, command := 0x07, length } Scene.channel
  x := rfl
  code := by
    rw [Scene.command_memory]
    rfl
  inRam := Iocb.inRam_of_low (Scene.low_memory _ _) Scene.channel
  buffer := Scene.buffer_memory _ Scene.channel small

def sampleGets : List (Input Scene.channel) :=
  [sampleGet 2 (by decide), sampleGet 300 (by decide), sampleGet 0 (by decide)]

theorem length_sampleGets : sampleGets.map Input.length = [2, 300, 0] := by
  show [(sampleGet 2 _).length, (sampleGet 300 _).length, (sampleGet 0 _).length] = _
  simp only [Input.length, sampleGet, Scene.bufferLength_memory]

theorem put_then_get_sample :
    ((({} : FileDevice).store.find? "A.B").any (·.locked) = false) ∧
      ((sampleOpening .read).call (sampleClose.call
        (((sampleOpening .write).call {}).device.putAll samplePuts)).device).device.getAll
          sampleGets =
        [⟨true, 1, 2, [0x2A, 0x68]⟩, ⟨true, 136, 1, [0x69]⟩, ⟨true, 136, 0, []⟩] := by
  have unlocked : (({} : FileDevice).store.find? "A.B").any (·.locked) = false := rfl
  have round := put_then_get {} Scene.channel "A.B" unlocked (sampleOpening .write) samplePuts
    sampleClose (sampleOpening .read) sampleGets
  refine ⟨unlocked, round.2.2.2.2.2.2.1.trans ?_⟩
  rw [content_samplePuts, length_sampleGets]
  decide

end Atari800XL.FileDevice
