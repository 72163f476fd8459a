namespace Atari800XL.FileDevice

inductive Status
  | success
  | alreadyOpen
  | noDevice
  | writeOnly
  | badCommand
  | notOpen
  | readOnly
  | endOfFile
  | truncated
  | fileExists
  | badName
  | locked
  | notFound
  deriving DecidableEq, Repr, Inhabited

def Status.code : Status → UInt8
  | .success => 0x01
  | .alreadyOpen => 0x81
  | .noDevice => 0x82
  | .writeOnly => 0x83
  | .badCommand => 0x84
  | .notOpen => 0x85
  | .readOnly => 0x87
  | .endOfFile => 0x88
  | .truncated => 0x89
  | .fileExists => 0x97
  | .badName => 0xA5
  | .locked => 0xA7
  | .notFound => 0xAA

inductive FileCommand
  | rename
  | delete
  | lock
  | unlock
  | reserved
  deriving DecidableEq, Repr, Inhabited

inductive Command
  | opening
  | getRecord
  | getBytes
  | putRecord
  | putBytes
  | close
  | status
  | point
  | note
  | file (command : FileCommand)
  | unknown
  deriving DecidableEq, Repr, Inhabited

def Command.ofByte (byte : UInt8) : Command :=
  match byte.toNat with
  | 0x03 => .opening
  | 0x05 => .getRecord
  | 0x07 => .getBytes
  | 0x09 => .putRecord
  | 0x0B => .putBytes
  | 0x0C => .close
  | 0x0D => .status
  | 0x20 => .file .rename
  | 0x21 => .file .delete
  | 0x22 => .file .reserved
  | 0x23 => .file .lock
  | 0x24 => .file .unlock
  | 0x25 => .point
  | 0x26 => .note
  | _ => .unknown

inductive OpenMode
  | read
  | directory
  | write
  | append
  | update
  deriving DecidableEq, Repr, Inhabited

namespace OpenMode

def code : OpenMode → UInt8
  | .read => 4
  | .directory => 6
  | .write => 8
  | .append => 9
  | .update => 12

def ofCode? (code : UInt8) : Option OpenMode :=
  match code.toNat with
  | 4 => some .read
  | 6 => some .directory
  | 8 => some .write
  | 9 => some .append
  | 12 => some .update
  | _ => none

def readable (m : OpenMode) : Bool := m.code &&& 4 != 0

def writable (m : OpenMode) : Bool := m.code &&& 8 != 0

theorem ofCode?_code (m : OpenMode) : ofCode? m.code = some m := by cases m <;> rfl

end OpenMode

def eol : UInt8 := 0x9B

end Atari800XL.FileDevice
