import Atari800XL.Disk.Checksum
import Atari800XL.Disk.Rack

/-! The drives' side of the serial bus. A command frame of five bytes is sent while the command
line is asserted; a command that writes is followed by a data frame. The drive answers with bytes
that each arrive some cycles after the one before. -/

namespace Atari800XL.Disk

structure Reply where
  byte : UInt8
  delay : UInt64
  deriving DecidableEq, Repr, Inhabited

namespace Reply

def ackDelay : UInt64 := 1800
def completeDelay : UInt64 := 1500
/-- Ten bits at 19200 baud. -/
def byteDelay : UInt64 := 930

def ack : Reply := ⟨0x41, ackDelay⟩
def nak : Reply := ⟨0x4E, ackDelay⟩
def complete : Reply := ⟨0x43, completeDelay⟩
def error : Reply := ⟨0x45, completeDelay⟩

def frame (payload : ByteArray) : List Reply :=
  (payload.data.toList ++ [checksum payload]).map (⟨·, byteDelay⟩)

end Reply

inductive DataCommand
  | write
  | put
  | verify
  deriving DecidableEq, Repr, Inhabited

inductive Command
  | read
  | status
  | data (command : DataCommand)
  | format
  | motorOn
  deriving DecidableEq, Repr, Inhabited

def Command.ofByte? (byte : UInt8) : Option Command :=
  match byte.toNat with
  | 0x52 => some .read
  | 0x53 => some .status
  | 0x57 => some (.data .write)
  | 0x50 => some (.data .put)
  | 0x56 => some (.data .verify)
  | 0x21 | 0x22 => some .format
  | 0x55 => some .motorOn
  | _ => none

structure Pending where
  device : Nat
  command : DataCommand
  sector : UInt16
  length : Nat
  deriving DecidableEq, Repr, Inhabited

inductive Phase
  | command
  | data (pending : Pending)
  deriving DecidableEq, Repr, Inhabited

structure Sio where
  commandLine : Bool := false
  phase : Phase := .command
  received : ByteArray := ByteArray.empty
  replies : List Reply := []
  deriving Inhabited

structure Sio.Step where
  sio : Sio
  rack : Rack
  renewed : Bool := false
  notices : List Notice := []

namespace Sio

def setCommandLine (s : Sio) (asserted : Bool) : Sio :=
  if asserted && !s.commandLine then
    { s with commandLine := true, phase := .command, received := ByteArray.empty }
  else { s with commandLine := asserted }

def remaining (s : Sio) : Nat := s.replies.length

def nextDelay (s : Sio) : Option UInt64 := s.replies.head?.map (·.delay)

def pop (s : Sio) : Option (UInt8 × Sio) :=
  match s.replies with
  | [] => none
  | reply :: rest => some (reply.byte, { s with replies := rest })

structure Answer where
  replies : List Reply
  phase : Phase := .command
  image : Option Image := none

def noBadSectors (size : Nat) : ByteArray := ⟨#[0xFF, 0xFF] ++ Array.replicate (size - 2) 0⟩

def answer (image : Image) (device : Nat) (command : Option Command) (sector : UInt16) : Answer :=
  match command with
  | none => { replies := [.nak] }
  | some .read =>
    match image.readSector sector with
    | none => { replies := [.nak] }
    | some data => { replies := .ack :: .complete :: Reply.frame data }
  | some .status => { replies := .ack :: .complete :: Reply.frame image.statusBlock }
  | some (.data command) =>
    match image.sectorLength sector with
    | none => { replies := [.nak] }
    | some length => { replies := [.ack], phase := .data { device, command, sector, length } }
  | some .format =>
    match image.format with
    | none => { replies := [.ack, .error] }
    | some empty =>
      { replies := .ack :: .complete :: Reply.frame (noBadSectors image.sectorSize)
        image := some empty }
  | some .motorOn => { replies := [.ack] }

def responseNotice (replies : List Reply) : List Notice :=
  match replies with
  | [] => []
  | first :: _ => [.sioResponse first.byte replies.length]

def driveOfAddress? (address : UInt8) : Option Nat :=
  if 0x31 ≤ address ∧ address ≤ 0x38 then some (address.toNat - 0x30) else none

/-- A whole command frame. Without a drive, or without an image in it, nobody answers. -/
def finishCommand (s : Sio) (rack : Rack) (frame : ByteArray) : Step :=
  let b := Image.byteAt frame
  let valid := checksum (frame.extract 0 4) == b 4
  let heard := [.sioCommand frame.data.toList valid]
  let s := { s with received := ByteArray.empty }
  match (driveOfAddress? (b 0)).bind fun device => (rack.mounted device).map (device, ·) with
  | none => { sio := s, rack, notices := heard }
  | some (device, image) =>
    if !valid then
      { sio := { s with replies := [.nak], phase := .command }, rack, renewed := true,
        notices := heard }
    else
      let sector := UInt16.ofNat ((b 2).toNat + 256 * (b 3).toNat)
      let a := answer image device (Command.ofByte? (b 1)) sector
      let rack := match a.image with
        | none => rack
        | some image => rack.replace device image
      { sio := { s with replies := a.replies, phase := a.phase }, rack, renewed := true,
        notices := heard ++ responseNotice a.replies }

def carryOut (image : Image) (p : Pending) (payload : ByteArray) : Option Image × Bool :=
  match p.command with
  | .verify => (none, image.readSector p.sector == some payload)
  | .write | .put =>
    match image.writeSector p.sector payload with
    | none => (none, false)
    | some image => (some image, true)

def finishData (s : Sio) (rack : Rack) (p : Pending) (frame : ByteArray) : Step :=
  let payload := frame.extract 0 p.length
  let valid := checksum payload == Image.byteAt frame p.length
  let heard := [.sioData p.length valid]
  let s := { s with received := ByteArray.empty, phase := .command }
  let refused := { sio := { s with replies := [.nak] }, rack, renewed := true, notices := heard }
  if !valid then refused
  else match rack.mounted p.device with
    | none => refused
    | some image =>
      let (changed, ok) := carryOut image p payload
      let rack := match changed with
        | none => rack
        | some image => rack.replace p.device image
      let replies := [.ack, if ok then .complete else .error]
      { sio := { s with replies }, rack, renewed := true,
        notices := heard ++ responseNotice replies }

/-- A byte from the computer. Outside a data frame it counts only while the command line is
asserted. -/
def putByte (s : Sio) (rack : Rack) (byte : UInt8) : Step :=
  match s.phase with
  | .command =>
    if s.commandLine then
      let received := s.received.push byte
      if received.size = 5 then s.finishCommand rack received
      else { sio := { s with received }, rack }
    else { sio := s, rack }
  | .data p =>
    let received := s.received.push byte
    if received.size = p.length + 1 then s.finishData rack p received
    else { sio := { s with received }, rack }

end Sio

end Atari800XL.Disk
