import Atari800XL.Cpu.Basic
import Atari800XL.FileDevice.Channel
import Atari800XL.FileDevice.Directory
import Atari800XL.FileDevice.Iocb
import Atari800XL.Journal

/-! A device that gives programs access to files of the host. It takes over calls of the operating
system's central input and output entry that are meant for it, and the entry that puts a single
byte, and leaves all other calls alone. -/

namespace Atari800XL

structure FileDevice where
  store : Files.Store := {}
  channels : Vector (Option FileDevice.Channel) FileDevice.Iocb.count := Vector.replicate _ none
  deriving Inhabited

namespace FileDevice

open Files

structure Reply where
  device : FileDevice
  memory : Memory
  status : Status
  transferred : Nat := 0
  accumulator : Option UInt8 := none
  notices : List Notice := []

abbrev ChannelIndex := Fin Iocb.count

def channel (d : FileDevice) (i : ChannelIndex) : Option Channel := d.channels[i]

def setChannel (d : FileDevice) (i : ChannelIndex) (c : Option Channel) : FileDevice :=
  { d with channels := d.channels.set i c }

def isOpen (d : FileDevice) (channel : Nat) : Bool := (d.channels[channel]?.join).isSome

def closeAll (d : FileDevice) : FileDevice := { d with channels := Vector.replicate _ none }

/-- The unit and the rest of a name that begins with this device's letter, perhaps a unit from 1
to 9, and a colon. -/
def splitDevice : List Char → Option (UInt8 × List Char)
  | 'H' :: ':' :: rest => some (1, rest)
  | 'H' :: d :: ':' :: rest =>
    if '1' ≤ d ∧ d ≤ '9' then some (UInt8.ofNat (d.toNat - '0'.toNat), rest) else none
  | _ => none

def normalize? (cs : List Char) (wildcards : Bool) : Except Status String :=
  match Files.normalize (String.ofList cs) wildcards with
  | some name => .ok name
  | none => .error .badName

/-- Only a name that is opened for reading may be a pattern; the first file it matches is meant. -/
def resolveName (s : Store) (raw : List Char) (mode : OpenMode) : Except Status String := do
  let name ← normalize? raw (mode == .read)
  if isPattern name then
    match s.list name with
    | [] => throw .notFound
    | e :: _ => return e.name
  else return name

def openFile (s : Store) (raw : List Char) (mode : OpenMode) : Except Status Channel := do
  let name ← resolveName s raw mode
  let file := s.find? name
  match mode with
  | .read =>
    match file with
    | none => throw .notFound
    | some f => return { name, mode, content := f.data }
  | .write =>
    if file.any (·.locked) then throw .locked
    return { name, mode, content := ByteArray.empty }
  | _ =>
    match file with
    | none => throw .notFound
    | some f =>
      if f.locked then throw .locked
      return { name, mode, content := f.data
               position := if mode = .append then f.data.size else 0 }

def openDirectory (s : Store) (raw : List Char) : Except Status Channel := do
  let pattern ← if raw.isEmpty then pure "*.*" else normalize? raw true
  return { name := pattern, mode := .directory, content := Directory.listing (s.list pattern) }

def prepare (s : Store) (target : List Char) (modeCode : UInt8) : Except Status (UInt8 × Channel) :=
  match splitDevice target with
  | none => throw .noDevice
  | some (unit, rest) => do
    match OpenMode.ofCode? modeCode with
    | none => throw .badCommand
    | some .directory => return (unit, ← openDirectory s rest)
    | some mode => return (unit, ← openFile s rest mode)

/-- A control block that is marked closed drops a channel that was left behind in it. -/
def opening (d : FileDevice) (m : Memory) (i : ChannelIndex) : Reply :=
  let b := Iocb.ofChannel i
  if b.handlerId m != Iocb.closedId then { device := d, memory := m, status := .alreadyOpen }
  else
    let dropped := match d.channel i with
      | none => []
      | some stale => [.staleChannel i.val stale.name]
    let d := d.setChannel i none
    let code := b.mode m
    match prepare d.store (b.target m) code with
    | .error status => { device := d, memory := m, status, notices := dropped }
    | .ok (unit, channel) =>
      { device := d.setChannel i (some channel)
        memory := b.claim m unit
        status := .success
        notices := dropped ++ [.channelOpened unit channel.name code] }

/-- What a channel does to the store when it is closed: all that it holds is written, if it was
open for writing. -/
def flush (s : Store) (c : Channel) : Store × List Notice :=
  if c.mode.writable then
    ((s.write c.name c.content).store, [.fileStored c.name c.content.size])
  else (s, [])

def close (d : FileDevice) (m : Memory) (i : ChannelIndex) (c : Channel) : Reply :=
  let (store, notices) := flush d.store c
  { device := { d.setChannel i none with store }
    memory := (Iocb.ofChannel i).setHandlerId m Iocb.closedId
    status := .success
    notices }

def getRecord (d : FileDevice) (m : Memory) (i : ChannelIndex) (c : Channel) : Reply :=
  let b := Iocb.ofChannel i
  if !c.mode.readable then { device := d, memory := m, status := .writeOnly }
  else
    let (got, c) := c.getRecord (b.bufferLength m).toNat
    { device := d.setChannel i (some c)
      memory := b.deliver m got.bytes
      status := got.status
      transferred := got.bytes.size }

def getBytes (d : FileDevice) (m : Memory) (i : ChannelIndex) (c : Channel) : Reply :=
  let b := Iocb.ofChannel i
  let count := (b.bufferLength m).toNat
  if !c.mode.readable then { device := d, memory := m, status := .writeOnly }
  else if count = 0 then
    match c.nextByte with
    | none => { device := d, memory := m, status := .endOfFile }
    | some (byte, c) =>
      { device := d.setChannel i (some c), memory := m, status := .success,
        transferred := 1, accumulator := some byte }
  else
    let (got, c) := c.getBytes count
    { device := d.setChannel i (some c)
      memory := b.deliver m got.bytes
      status := got.status
      transferred := got.bytes.size }

/-- Put bytes from memory, up to the first end of a record if `record`; the channel, how many were
put, and whether the last of them ended a record. -/
def putFrom (m : Memory) (record : Bool) (c : Channel) (address : UInt16) (written : Nat) :
    Nat → Channel × Nat × Bool
  | 0 => (c, written, false)
  | n + 1 =>
    let byte := m.peek address
    let c := c.put byte
    if record && byte == eol then (c, written + 1, true)
    else putFrom m record c (address + 1) (written + 1) n

def putData (d : FileDevice) (m : Memory) (i : ChannelIndex) (c : Channel) (a : UInt8)
    (record : Bool) : Reply :=
  let b := Iocb.ofChannel i
  let count := (b.bufferLength m).toNat
  if !c.mode.writable then { device := d, memory := m, status := .readOnly }
  else
    let d := d.setChannel i none
    if count = 0 then
      { device := d.setChannel i (some (c.put a)), memory := m, status := .success,
        transferred := 1 }
    else
      let (c, written, ended) := putFrom m record c (b.bufferAddress m) 0 count
      let (c, written) := if record && !ended then (c.put eol, written + 1) else (c, written)
      { device := d.setChannel i (some c), memory := m, status := .success,
        transferred := written }

def point (d : FileDevice) (m : Memory) (i : ChannelIndex) (c : Channel) : Reply :=
  if c.mode = .directory then { device := d, memory := m, status := .badCommand }
  else match c.seek ((Iocb.ofChannel i).offset m) with
    | none => { device := d, memory := m, status := .endOfFile }
    | some c => { device := d.setChannel i (some c), memory := m, status := .success }

def note (d : FileDevice) (m : Memory) (i : ChannelIndex) (c : Channel) : Reply :=
  if c.mode = .directory then { device := d, memory := m, status := .badCommand }
  else
    { device := d
      memory := (Iocb.ofChannel i).setOffset m c.position
      status := .success }

def renameFile (s : Store) (rest : List Char) : Status × Store :=
  match Text.cutList ',' rest with
  | none => (.badName, s)
  | some (old, new) =>
    let new := match new with
      | 'H' :: ':' :: r => r
      | _ => new
    match normalize? old false, normalize? new false with
    | .ok old, .ok new =>
      match s.status old with
      | none => (.notFound, s)
      | some e =>
        if e.locked then (.locked, s)
        else
          let done := s.rename old new
          (if done.succeeded then .success else .fileExists, done.store)
    | _, _ => (.badName, s)

def deleteEach (s : Store) : List Entry → Status × Store
  | [] => (.success, s)
  | e :: rest => if e.locked then (.locked, s) else deleteEach (s.delete e.name).store rest

def lockEach (s : Store) (locked : Bool) (entries : List Entry) : Store :=
  entries.foldl (fun s e => (s.setLock e.name locked).store) s

/-- Apply a command to all files that a pattern matches. -/
def onMatches (s : Store) (rest : List Char) (f : List Entry → Status × Store) : Status × Store :=
  match normalize? rest true with
  | .error status => (status, s)
  | .ok pattern =>
    match s.list pattern with
    | [] => (.notFound, s)
    | entries => f entries

def applyFile (s : Store) (command : FileCommand) (rest : List Char) : Status × Store :=
  match command with
  | .rename => renameFile s rest
  | .delete => onMatches s rest (deleteEach s)
  | .lock => onMatches s rest fun entries => (.success, lockEach s true entries)
  | .unlock => onMatches s rest fun entries => (.success, lockEach s false entries)
  | .reserved => (.badCommand, s)

def fileStatus (s : Store) (rest : List Char) : Status :=
  match normalize? rest false with
  | .error status => status
  | .ok name => if s.contains name then .success else .notFound

def onTarget (d : FileDevice) (m : Memory) (i : ChannelIndex)
    (f : List Char → Status × Store) : Reply :=
  match splitDevice ((Iocb.ofChannel i).target m) with
  | none => { device := d, memory := m, status := .noDevice }
  | some (_, rest) =>
    let (status, store) := f rest
    { device := { d with store }, memory := m, status }

def onChannel (d : FileDevice) (m : Memory) (i : ChannelIndex) (c : Channel) (a : UInt8)
    (command : Command) : Reply :=
  match command with
  | .opening => d.opening m i
  | .close => d.close m i c
  | .getRecord => d.getRecord m i c
  | .getBytes => d.getBytes m i c
  | .putRecord => d.putData m i c a true
  | .putBytes => d.putData m i c a false
  | .status => { device := d, memory := m, status := .success }
  | .point => d.point m i c
  | .note => d.note m i c
  | .file command => d.onTarget m i (applyFile d.store command)
  | .unknown => { device := d, memory := m, status := .badCommand }

def carryOut (d : FileDevice) (m : Memory) (i : ChannelIndex) (a : UInt8) (command : Command) :
    Reply :=
  match d.channel i with
  | some c => d.onChannel m i c a command
  | none =>
    match command with
    | .opening => d.opening m i
    | .file command => d.onTarget m i (applyFile d.store command)
    | _ => d.onTarget m i fun rest => (fileStatus d.store rest, d.store)

/-- Whether a call is meant for this device: one that opens or names a file, by the name; any
other, by the channel that is open here. -/
def claims (d : FileDevice) (m : Memory) (i : ChannelIndex) (command : Command) : Bool :=
  match command, d.channel i with
  | .opening, _ => (Iocb.ofChannel i).namesOwnDevice m
  | _, some _ => true
  | .status, none | .file _, none => (Iocb.ofChannel i).namesOwnDevice m
  | _, none => false

structure Called where
  handled : Bool
  device : FileDevice
  memory : Memory
  cpu : Cpu
  notices : List Notice := []

def callCycles : UInt64 := 200
def byteCycles : UInt64 := 10

def finish (cpu : Cpu) (i : ChannelIndex) (r : Reply) : Called :=
  let code := r.status.code
  let memory := (Iocb.ofChannel i).setStatus r.memory code
  let regs := cpu.regs
  let regs := { regs.result code with a := r.accumulator.getD regs.a, y := code }
  let (cpu, memory) := { cpu with regs }.returnFromCall memory
  { handled := true
    device := r.device
    memory
    cpu := cpu.advance (callCycles + UInt64.ofNat r.transferred * byteCycles)
    notices := r.notices }

def channelOf? (x : UInt8) : Option ChannelIndex :=
  if h : x &&& 0x0F = 0 ∧ x.toNat / 16 < Iocb.count then some ⟨x.toNat / 16, h.2⟩ else none

/-- The central entry. -/
def call (d : FileDevice) (cpu : Cpu) (m : Memory) : Called :=
  match channelOf? cpu.regs.x with
  | none => { handled := false, device := d, memory := m, cpu }
  | some i =>
    let byte := (Iocb.ofChannel i).command m
    let command := Command.ofByte byte
    if d.claims m i command then
      let reply := d.carryOut m i cpu.regs.a command
      finish cpu i { reply with
        notices := reply.notices ++ [.deviceCall i.val byte reply.status.code] }
    else { handled := false, device := d, memory := m, cpu }

def putByte (d : FileDevice) (cpu : Cpu) (m : Memory) : Called :=
  let i : ChannelIndex := Fin.ofNat _ (cpu.regs.x.toNat / 16)
  match d.channel i with
  | none => finish cpu i { device := d, memory := m, status := .notOpen }
  | some c =>
    if !c.mode.writable then finish cpu i { device := d, memory := m, status := .readOnly }
    else
      let d := d.setChannel i none
      finish cpu i { device := d.setChannel i (some (c.put cpu.regs.a)), memory := m,
                     status := .success, transferred := 1 }

end FileDevice

end Atari800XL
