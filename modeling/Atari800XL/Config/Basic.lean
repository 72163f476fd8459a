import Atari800XL.Host.Path
import Atari800XL.Machine.Setup

namespace Atari800XL

structure Config where
  home : String := ""
  osRom : String := "roms/atarixl.rom"
  basicRom : Option String := none
  disks : List String := []
  filesDirectory : Option String := none
  screenshotDirectory : String := "screenshots"
  machine : Setup := {}
  deriving DecidableEq, Repr, Inhabited

namespace Config

def fileName : String := "a8rs_config.json"

def resolve (c : Config) (programDirectory path : String) : String :=
  let home := if c.home.isEmpty then programDirectory else Path.join programDirectory c.home
  Path.join home path

def screenshots (c : Config) (programDirectory : String) : String :=
  c.resolve programDirectory c.screenshotDirectory

@[simp] theorem resolve_of_isAbsolute (c : Config) (programDirectory : String) {path : String}
    (h : Path.isAbsolute path) : c.resolve programDirectory path = path :=
  Path.join_of_isAbsolute _ h

end Config

end Atari800XL
