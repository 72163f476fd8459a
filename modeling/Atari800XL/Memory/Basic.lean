import Atari800XL.Fault
import Atari800XL.Memory.Access
import Atari800XL.Ram

namespace Atari800XL

structure Window where
  start : Nat
  length : Nat
  offset : Nat
  deriving DecidableEq, Repr, Inhabited

namespace Window

def osLow : Window := ⟨0xC000, 0x1000, 0x0000⟩
def osHigh : Window := ⟨0xD800, 0x2800, 0x1800⟩
def selfTest : Window := ⟨0x5000, 0x0800, 0x1000⟩
def basic : Window := ⟨0xA000, 0x2000, 0x0000⟩

end Window

structure IoPage where
  start : Nat
  chip : Option Access
  deriving DecidableEq, Repr, Inhabited

def ioPages : List IoPage :=
  [⟨0xD000, some .gtia⟩, ⟨0xD100, none⟩, ⟨0xD200, some .pokey⟩, ⟨0xD300, some .pia⟩,
    ⟨0xD400, some .antic⟩, ⟨0xD500, none⟩, ⟨0xD600, none⟩, ⟨0xD700, none⟩]

structure Memory where
  visible : Ram
  hidden : Ram
  access : AccessMap
  os : Bytes RomKind.os.size
  basic : Option (Bytes RomKind.basic.size)
  osMapped : Bool
  basicMapped : Bool
  selfTestMapped : Bool
  deriving Inhabited

def RomKind.load (kind : RomKind) (data : ByteArray) : Except Fault (Bytes kind.size) :=
  match Bytes.ofArray? kind.size data with
  | some rom => .ok rom
  | none => .error (.romSize kind data.size)

namespace Memory

def accessAt (m : Memory) (address : UInt16) : Access := AccessMap.lookup m.access address

def peek (m : Memory) (address : UInt16) : UInt8 := Ram.read m.visible address

def peekWord (m : Memory) (address : UInt16) : UInt16 :=
  word (m.peek address) (m.peek (address + 1))

def poke (m : Memory) (address : UInt16) (value : UInt8) : Memory :=
  match m.accessAt address with
  | .ram => { m with visible := Ram.write m.visible address value }
  | _ => m

def classify (m : Memory) (first last : UInt16) (access : Access) : Memory :=
  { m with access := AccessMap.fill m.access first.toNat (last.toNat + 1 - first.toNat) access }

/-- Map a ROM in; the RAM behind it moves to the hidden side. -/
def cover {n : Nat} (m : Memory) (w : Window) (rom : Bytes n) : Memory :=
  match m with
  | { visible, hidden, access, os, basic, osMapped, basicMapped, selfTestMapped } =>
    let hidden := hidden.update w.start w.length visible.getD
    let visible := visible.update w.start w.length fun i => rom.getD (i - w.start + w.offset)
    let access := AccessMap.fill access w.start w.length .rom
    { visible, hidden, access, os, basic, osMapped, basicMapped, selfTestMapped }

def uncover (m : Memory) (w : Window) : Memory :=
  match m with
  | { visible, hidden, access, os, basic, osMapped, basicMapped, selfTestMapped } =>
    let visible := visible.update w.start w.length hidden.getD
    let access := AccessMap.fill access w.start w.length .ram
    { visible, hidden, access, os, basic, osMapped, basicMapped, selfTestMapped }

/-- Lay one page of registers over whatever is mapped. Where no chip answers the bus reads `$FF`. -/
def installPage (m : Memory) (page : IoPage) : Memory :=
  match page.chip with
  | some chip => { m with access := AccessMap.fill m.access page.start 0x100 chip }
  | none =>
    { m with
      access := AccessMap.fill m.access page.start 0x100 .rom
      visible := m.visible.update page.start 0x100 fun _ => 0xFF }

def installIo (m : Memory) : Memory := ioPages.foldl installPage m

def switchOs (m : Memory) (on : Bool) : Memory :=
  if on == m.osMapped then m
  else
    let m := { m with osMapped := on }
    if on then (m.cover .osLow m.os).cover .osHigh m.os
    else (m.uncover .osLow).uncover .osHigh

def switchSelfTest (m : Memory) (on : Bool) : Memory :=
  if on == m.selfTestMapped then m
  else
    let m := { m with selfTestMapped := on }
    if on then m.cover .selfTest m.os else m.uncover .selfTest

def switchBasic (m : Memory) (on : Bool) : Memory :=
  if on == m.basicMapped then m
  else
    let m := { m with basicMapped := on }
    match m.basic, on with
    | some rom, true => m.cover .basic rom
    | _, _ => m.uncover .basic

/-- Switch the banks as the second parallel port says: bit 0 maps the operating system in, bit 1
clear maps BASIC in if there is one, bit 7 clear maps the self test in beside the operating
system. -/
def applyPortB (m : Memory) (pins : UInt8) : Memory :=
  let wantOs := hasBit pins 0x01
  let wantBasic := !hasBit pins 0x02 && m.basic.isSome
  let wantSelfTest := wantOs && !hasBit pins 0x80
  (((m.switchOs wantOs).switchSelfTest wantSelfTest).switchBasic wantBasic).installIo

def create (os : Bytes RomKind.os.size) (basic : Option (Bytes RomKind.basic.size)) : Memory :=
  applyPortB
    { visible := Ram.filled 0
      hidden := Ram.filled 0
      access := Vector.replicate _ .ram
      os, basic
      osMapped := false
      basicMapped := false
      selfTestMapped := false } 0xFF

def reset (m : Memory) : Memory := create m.os m.basic

def loadOs (m : Memory) (data : ByteArray) : Except Fault Memory :=
  return { m with os := ← RomKind.os.load data }

def loadBasic (m : Memory) (data : ByteArray) : Except Fault Memory :=
  return { m with basic := some (← RomKind.basic.load data) }

instance : Bus Memory where
  read m address := (m.peek address, m)
  write := poke

end Memory

end Atari800XL
