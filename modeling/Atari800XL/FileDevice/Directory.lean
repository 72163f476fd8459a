import Atari800XL.FileDevice.Status
import Atari800XL.Files.Store

namespace Atari800XL.FileDevice.Directory

open Files

def capacity : Nat := 999

def sectorBytes : Nat := 125

def sectors (size : Nat) : Nat := min ((size + (sectorBytes - 1)) / sectorBytes) capacity

def threeDigits (n : Nat) : List Char :=
  let digits := (toString n).toList
  List.replicate (3 - digits.length) '0' ++ digits

def padRight (width : Nat) (cs : List Char) : List Char :=
  cs ++ List.replicate (width - cs.length) ' '

def line (e : Entry) : List Char :=
  let (base, extension) := splitName e.name.toList
  let mark := if e.locked then '*' else ' '
  mark :: ' ' :: padRight 8 base ++ ' ' :: padRight 3 (extension.getD [])
    ++ ' ' :: threeDigits (sectors e.size)

def freeLine (entries : List Entry) : List Char :=
  let used := entries.foldl (fun n e => n + sectors e.size) 0
  threeDigits (capacity - used) ++ " FREE SECTORS".toList

def record (cs : List Char) : List UInt8 := utf8 cs ++ [eol]

def listing (entries : List Entry) : ByteArray :=
  ⟨(entries.flatMap (record ∘ line) ++ record (freeLine entries)).toArray⟩

end Atari800XL.FileDevice.Directory
