import Atari800XL.Text.LowerCase

namespace Atari800XL

inductive VideoStandard
  | ntsc
  | pal
  deriving DecidableEq, Repr, Inhabited

namespace VideoStandard

def linesPerFrame : VideoStandard → Nat
  | .ntsc => 262
  | .pal => 312

def clockRate : VideoStandard → UInt32
  | .ntsc => 1789773
  | .pal => 1773447

def name : VideoStandard → String
  | .ntsc => "ntsc"
  | .pal => "pal"

def title : VideoStandard → String
  | .ntsc => "Ntsc"
  | .pal => "Pal"

def ofName? (name : String) : Option VideoStandard :=
  match name with
  | "ntsc" => some .ntsc
  | "pal" => some .pal
  | _ => none

@[simp] theorem ofName?_name (v : VideoStandard) : ofName? v.name = some v := by
  cases v <;> rfl

def parse (text : String) : Except String VideoStandard :=
  let name := Text.lowerCase text
  match ofName? name with
  | some v => .ok v
  | none => .error s!"unknown video standard '{name}' (expected ntsc or pal)"

end VideoStandard

end Atari800XL
