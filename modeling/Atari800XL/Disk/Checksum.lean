namespace Atari800XL.Disk

def addWithEndCarry (sum : UInt16) (byte : UInt8) : UInt16 :=
  let sum := sum + byte.toUInt16
  if sum > 0xFF then (sum &&& 0xFF) + 1 else sum

def checksum (bytes : ByteArray) : UInt8 :=
  (bytes.foldl addWithEndCarry 0).toUInt8

end Atari800XL.Disk
