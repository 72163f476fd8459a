import Atari800XL.Text.Quoted
import Atari800XL.Trace

namespace Atari800XL

inductive Level
  | error
  | warn
  | info
  | debug
  deriving DecidableEq, Repr, Inhabited

def Level.name : Level → String
  | .error => "ERROR"
  | .warn => "WARN"
  | .info => "INFO"
  | .debug => "DEBUG"

inductive Notice
  | osRomLoaded (size : Nat)
  | basicRomLoaded (size : Nat)
  | imageAccepted (name : String) (sectors sectorSize : Nat) (writable : Bool)
  | diskStored (name : String) (slot : Nat)
  | diskMounted (device : Nat) (name : String)
  | diskLoaded (name : String) (size : Nat)
  | sioCommand (frame : List UInt8) (valid : Bool)
  | sioResponse (first : UInt8) (queued : Nat)
  | sioData (size : Nat) (valid : Bool)
  | deviceCall (channel : Nat) (command status : UInt8)
  | staleChannel (channel : Nat) (name : String)
  | channelOpened (unit : UInt8) (name : String) (mode : UInt8)
  | fileStored (name : String) (size : Nat)
  | hostFileSkipped (name : String)
  | hostFilesLoaded (count : Nat) (directory : String)
  | listInstruction (line : Nat) (address : UInt16) (command : UInt8)
  | interrupt (source : String) (cycle : UInt64)
  | osRomNotFound (path : String)
  | hardReset (pc : UInt16)
  | hooksInstalled (entry target : UInt16)
  | configRejected (path : String)
  | unknownTraceCategory (word : String)
  deriving DecidableEq, Repr, Inhabited

namespace Notice

def category? : Notice → Option TraceCategory
  | .sioCommand .. | .sioResponse .. | .sioData .. => some .sio
  | .deviceCall .. => some .cio
  | .listInstruction .. => some .displayList
  | .interrupt .. => some .interrupt
  | _ => none

def level : Notice → Level
  | .osRomNotFound _ => .error
  | .hostFileSkipped _ | .configRejected _ | .unknownTraceCategory _ => .warn
  | .osRomLoaded _ | .basicRomLoaded _ | .imageAccepted .. | .diskStored .. | .diskMounted ..
  | .diskLoaded .. | .hostFilesLoaded .. | .hardReset _ => .info
  | .sioCommand .. | .sioResponse .. | .sioData .. | .deviceCall .. | .staleChannel ..
  | .channelOpened .. | .fileStored .. | .listInstruction .. | .interrupt ..
  | .hooksInstalled .. => .debug

def validity (valid : Bool) : String := if valid then "OK" else "BAD CHECKSUM"

def text : Notice → String
  | .osRomLoaded size => s!"OS ROM loaded ({size} bytes)"
  | .basicRomLoaded size => s!"BASIC ROM loaded ({size} bytes)"
  | .imageAccepted name sectors sectorSize writable =>
    let mark := if writable then "" else " (write-protected)"
    s!"ATR '{name}': {sectors} sectors of {sectorSize} bytes{mark}"
  | .diskStored name slot => s!"Disk image '{name}' stored in slot {slot}"
  | .diskMounted device name => s!"D{device}: <- '{name}'"
  | .diskLoaded name size => s!"Disk loaded: {name} ({size} bytes)"
  | .sioCommand frame valid =>
    let bytes := String.intercalate ", " (frame.map fun b => Text.hex 2 b.toNat)
    s!"[SIO] Command [{bytes}] {validity valid}"
  | .sioResponse first queued =>
    s!"[SIO] Response '{Char.ofNat first.toNat}' ({queued} bytes queued)"
  | .sioData size valid => s!"[SIO] Data frame {size} bytes {validity valid}"
  | .deviceCall channel command status =>
    s!"[CIO] IOCB#{channel} cmd=${Text.hex 2 command.toNat} -> status {status}"
  | .staleChannel channel name => s!"H: dropping stale channel {channel} ('{name}')"
  | .channelOpened unit name mode => s!"H{unit}: open '{name}' mode {mode}"
  | .fileStored name size => s!"H: wrote '{name}' ({size} bytes)"
  | .hostFileSkipped name => s!"H: skipping '{name}' (not an 8.3 name)"
  | .hostFilesLoaded count directory => s!"H: {count} files from {directory}"
  | .listInstruction line address command =>
    s!"[DLIST] line {Text.padLeft 3 line} ${Text.hex 4 address.toNat}: {Text.hex 2 command.toNat}"
  | .interrupt source cycle => s!"[IRQ] {source} at cycle {cycle}"
  | .osRomNotFound path => s!"OS ROM not found: {Text.quoted path}"
  | .hardReset pc => s!"Hard reset: PC=${Text.hex 4 pc.toNat}"
  | .hooksInstalled entry target =>
    s!"CIO hook at ${Text.hex 4 entry.toNat} and ${Text.hex 4 target.toNat}"
  | .configRejected path =>
    s!"Failed to parse config {Text.quoted path}: not a configuration, using defaults"
  | .unknownTraceCategory word => s!"Unknown trace category: {word}"

def line (n : Notice) : String := s!"{n.level.name} {n.text}"

end Notice

structure Journal where
  flags : TraceFlags := {}
  entries : Array Notice := #[]
  deriving DecidableEq, Repr, Inhabited

namespace Journal

def wants (j : Journal) (n : Notice) : Bool :=
  match n.category? with
  | none => true
  | some category => j.flags.has category

def add (j : Journal) (n : Notice) : Journal :=
  if j.wants n then { j with entries := j.entries.push n } else j

def addAll (j : Journal) (notices : List Notice) : Journal := notices.foldl add j

end Journal

end Atari800XL
