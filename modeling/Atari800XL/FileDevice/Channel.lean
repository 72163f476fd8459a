import Atari800XL.FileDevice.Status

namespace Atari800XL.FileDevice

structure Channel where
  name : String
  mode : OpenMode
  content : ByteArray
  position : Nat := 0
  deriving Inhabited

structure Delivery where
  bytes : ByteArray
  status : Status

namespace Channel

def remaining (c : Channel) : Nat := c.content.size - c.position

def nextByte (c : Channel) : Option (UInt8 × Channel) :=
  if h : c.position < c.content.size then
    some (c.content[c.position], { c with position := c.position + 1 })
  else none

def put (c : Channel) (byte : UInt8) : Channel :=
  match c with
  | { name, mode, content, position } =>
    if h : position < content.size then
      { name, mode, content := content.set position byte h, position := position + 1 }
    else { name, mode, content := content.push byte, position := position + 1 }

def getBytes (c : Channel) (count : Nat) : Delivery × Channel :=
  let taken := min count c.remaining
  ({ bytes := c.content.extract c.position (c.position + taken)
     status := if taken < count then .endOfFile else .success },
    { c with position := c.position + taken })

def findEol (content : ByteArray) (i : Nat) : Option Nat :=
  if h : i < content.size then
    if content[i] == eol then some 0 else (findEol content (i + 1)).map (· + 1)
  else none
  termination_by content.size - i

/-- A record into a buffer of `max` bytes. What does not fit is skipped up to the end of the record.
A last record without an end is given one if the buffer has room for it. -/
def getRecord (c : Channel) (max : Nat) : Delivery × Channel :=
  let piece (n : Nat) : ByteArray := c.content.extract c.position (c.position + n)
  match findEol c.content c.position with
  | some before =>
    let size := before + 1
    ({ bytes := piece (min size max)
       status := if size ≤ max then .success else .truncated },
      { c with position := c.position + size })
  | none =>
    let size := c.remaining
    let last : Delivery :=
      if min size max = 0 then { bytes := ByteArray.empty, status := .endOfFile }
      else if size < max then { bytes := (piece size).push eol, status := .success }
      else { bytes := piece max, status := if size = max then .success else .truncated }
    (last, { c with position := c.position + size })

def seek (c : Channel) (offset : Nat) : Option Channel :=
  if offset ≤ c.content.size then some { c with position := offset } else none

end Channel

end Atari800XL.FileDevice
