import Atari800XL.Word

namespace Atari800XL.Keyboard

def keys : List (Char × UInt8 × Bool) := [
  ('L', 0x00, false), ('J', 0x01, false), (';', 0x02, false), (':', 0x02, true),
  ('K', 0x05, false), ('+', 0x06, false), ('\\', 0x06, true), ('*', 0x07, false),
  ('^', 0x07, true), ('O', 0x08, false), ('P', 0x0A, false), ('U', 0x0B, false),
  ('\n', 0x0C, false), ('I', 0x0D, false), ('-', 0x0E, false), ('_', 0x0E, true),
  ('=', 0x0F, false), ('|', 0x0F, true), ('V', 0x10, false), ('C', 0x12, false),
  ('B', 0x15, false), ('X', 0x16, false), ('Z', 0x17, false), ('4', 0x18, false),
  ('$', 0x18, true), ('3', 0x1A, false), ('#', 0x1A, true), ('6', 0x1B, false),
  ('&', 0x1B, true), ('\x1b', 0x1C, false), ('5', 0x1D, false), ('%', 0x1D, true),
  ('2', 0x1E, false), ('\x22', 0x1E, true), ('1', 0x1F, false), ('!', 0x1F, true),
  (',', 0x20, false), ('[', 0x20, true), (' ', 0x21, false), ('.', 0x22, false),
  (']', 0x22, true), ('N', 0x23, false), ('M', 0x25, false), ('/', 0x26, false),
  ('?', 0x26, true), ('R', 0x28, false), ('E', 0x2A, false), ('Y', 0x2B, false),
  ('\t', 0x2C, false), ('T', 0x2D, false), ('W', 0x2E, false), ('Q', 0x2F, false),
  ('9', 0x30, false), ('(', 0x30, true), ('0', 0x32, false), (')', 0x32, true),
  ('7', 0x33, false), ('\x27', 0x33, true), ('\x08', 0x34, false), ('8', 0x35, false),
  ('@', 0x35, true), ('<', 0x36, false), ('>', 0x37, false), ('F', 0x38, false),
  ('H', 0x39, false), ('D', 0x3A, false), ('G', 0x3D, false), ('S', 0x3E, false),
  ('A', 0x3F, false)]

def keyFor (c : Char) : Option (UInt8 × Bool) :=
  let c := if c = '\r' then '\n' else c.toUpper
  keys.lookup c

def scanCode (key : UInt8) (shift control : Bool) : UInt8 :=
  let code := withBit (key &&& 0x3F) 0x40 shift
  withBit code 0x80 control

end Atari800XL.Keyboard
