import Atari800XL.Fault
import Atari800XL.Text.Basic

namespace Atari800XL

def ImageFault.message : ImageFault → String
  | .tooShort => "too short for an ATR header"
  | .badMagic first second => s!"bad ATR magic {Text.hex 2 first.toNat} {Text.hex 2 second.toNat}"
  | .sectorSize size => s!"unsupported sector size {size}"

def Fault.message : Fault → String
  | .romSize rom actual => s!"{rom.name} must be {rom.size} bytes (got {actual})"
  | .diskImage name cause => s!"invalid disk image: {name}: {cause.message}"
  | .invalidSlot slot => s!"invalid slot: {slot}"
  | .missingResource resource => s!"missing required resource: {resource.name}"
  | .host text => s!"I/O error: {text}"

end Atari800XL
