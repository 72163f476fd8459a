import Atari800XL.Build
import Atari800XL.Memory.Basic

namespace Atari800XL

def Memory.build (os : ByteArray) (basic : Option ByteArray) : Build Memory := do
  let osRom ← Build.ofExcept (RomKind.os.load os)
  Build.tell [.osRomLoaded os.size]
  match basic with
  | none => return Memory.create osRom none
  | some data =>
    let basicRom ← Build.ofExcept (RomKind.basic.load data)
    Build.tell [.basicRomLoaded data.size]
    return Memory.create osRom (some basicRom)

end Atari800XL
