import Atari800XL.Display.Picture

namespace Atari800XL.Png

def word (n : UInt32) : ByteArray :=
  ⟨#[(n >>> 24).toUInt8, (n >>> 16).toUInt8, (n >>> 8).toUInt8, n.toUInt8]⟩

def shortWord (n : Nat) : ByteArray := ⟨#[.ofNat n, .ofNat (n / 256)]⟩

def crcShift (c : UInt32) : UInt32 := if c &&& 1 == 1 then (c >>> 1) ^^^ 0xEDB88320 else c >>> 1

def crcByte (c : UInt32) (byte : UInt8) : UInt32 :=
  Nat.repeat crcShift 8 (c ^^^ byte.toUInt32)

def crc (data : ByteArray) : UInt32 := ~~~(data.foldl crcByte 0xFFFFFFFF)

structure Adler where
  low : Nat := 1
  high : Nat := 0
  deriving DecidableEq, Repr, Inhabited

namespace Adler

def modulus : Nat := 65521

def add (a : Adler) (byte : UInt8) : Adler :=
  let low := (a.low + byte.toNat) % modulus
  { low, high := (a.high + low) % modulus }

def value (a : Adler) : UInt32 := .ofNat (a.high * 0x10000 + a.low)

end Adler

def blockLimit : Nat := 0xFFFF

def blocks (data : ByteArray) (start count : Nat) (out : ByteArray) : ByteArray :=
  match count with
  | 0 => out
  | count + 1 =>
    let length := min blockLimit (data.size - start)
    let last := start + length == data.size
    let out := out.push (if last then 1 else 0) ++ shortWord length ++ shortWord (0xFFFF - length)
    let out := data.copySlice start out out.size length
    if last then out else blocks data (start + length) count out

def stream (data : ByteArray) : ByteArray :=
  blocks data 0 (data.size / blockLimit + 1) ⟨#[0x78, 0x01]⟩
    ++ word (data.foldl Adler.add {}).value

def signature : ByteArray := ⟨#[0x89, 0x50, 0x4E, 0x47, 0x0D, 0x0A, 0x1A, 0x0A]⟩

def chunk (name : String) (data : ByteArray) : ByteArray :=
  let named := name.toUTF8 ++ data
  word (.ofNat data.size) ++ named ++ word (crc named)

def header (p : Picture) : ByteArray :=
  word (.ofNat p.width) ++ word (.ofNat p.height) ++ ⟨#[8, 2, 0, 0, 0]⟩

def rows (p : Picture) : ByteArray :=
  Nat.fold p.height (fun row _ out =>
    Nat.fold p.width (fun column _ out =>
      Picture.pushPixel out (p.pixels.getD (row * p.width + column) 0)) (out.push 0)) .empty

def encode (p : Picture) : ByteArray :=
  signature ++ chunk "IHDR" (header p) ++ chunk "IDAT" (stream (rows p)) ++ chunk "IEND" .empty

end Atari800XL.Png
