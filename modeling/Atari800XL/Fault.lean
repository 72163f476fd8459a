namespace Atari800XL

inductive RomKind
  | os
  | basic
  deriving DecidableEq, Repr, Inhabited

namespace RomKind

def size : RomKind → Nat
  | .os => 0x4000
  | .basic => 0x2000

def name : RomKind → String
  | .os => "OS ROM"
  | .basic => "BASIC ROM"

end RomKind

inductive ImageFault
  | tooShort
  | badMagic (first second : UInt8)
  | sectorSize (size : Nat)
  deriving DecidableEq, Repr, Inhabited

inductive Resource
  | osRom
  | diskImage
  deriving DecidableEq, Repr, Inhabited

def Resource.name : Resource → String
  | .osRom => "OS ROM"
  | .diskImage => "disk image"

inductive Fault
  | romSize (rom : RomKind) (actual : Nat)
  | diskImage (name : String) (cause : ImageFault)
  | invalidSlot (slot : Nat)
  | missingResource (resource : Resource)
  | host (text : String)
  deriving DecidableEq, Repr, Inhabited

end Atari800XL
