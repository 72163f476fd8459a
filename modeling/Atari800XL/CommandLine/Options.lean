import Atari800XL.Config.Basic
import Atari800XL.Text.Basic

namespace Atari800XL.CommandLine

structure Options where
  osRom : Option String := none
  basicRom : Option String := none
  disks : List String := []
  filesDirectory : Option String := none
  frames : Option UInt64 := none
  video : Option VideoStandard := none
  noBasic : Bool := false
  screenshot : Option String := none
  config : Option String := none
  trace : Option String := none
  deriving DecidableEq, Repr, Inhabited

inductive Key
  | osRom
  | basicRom
  | disk
  | filesDirectory
  | frames
  | video
  | screenshot
  | config
  | trace
  deriving DecidableEq, Repr, Inhabited

inductive Switch
  | noBasic
  | help
  | version
  deriving DecidableEq, Repr, Inhabited

inductive Stop
  | usage
  | help
  | version
  deriving DecidableEq, Repr, Inhabited

inductive Argument
  | setting (key : Key) (value : Option String)
  | switch (s : Switch)
  | endOfOptions
  | unknown
  deriving DecidableEq, Repr, Inhabited

def keyOfName? (name : String) : Option Key :=
  match name with
  | "os-rom" => some .osRom
  | "basic-rom" => some .basicRom
  | "disk" => some .disk
  | "hdir" => some .filesDirectory
  | "frames" => some .frames
  | "video" => some .video
  | "screenshot" => some .screenshot
  | "config" => some .config
  | "trace" => some .trace
  | _ => none

def switchOfName? (name : String) : Option Switch :=
  match name with
  | "no-basic" => some .noBasic
  | "help" => some .help
  | "version" => some .version
  | _ => none

namespace Argument

def ofLong (cs : List Char) : Argument :=
  let (name, value) :=
    match Text.cutList '=' cs with
    | some (name, value) => (name, some (String.ofList value))
    | none => (cs, none)
  match keyOfName? (String.ofList name), switchOfName? (String.ofList name), value with
  | some key, _, value => .setting key value
  | none, some s, none => .switch s
  | none, _, _ => .unknown

def ofShort : List Char → Argument
  | ['d'] => .setting .disk none
  | 'd' :: '=' :: value => .setting .disk (some (String.ofList value))
  | 'd' :: value => .setting .disk (some (String.ofList value))
  | 'h' :: _ => .switch .help
  | 'V' :: _ => .switch .version
  | _ => .unknown

def read (text : String) : Argument :=
  match text.toList with
  | ['-', '-'] => .endOfOptions
  | '-' :: '-' :: cs => ofLong cs
  | '-' :: cs => ofShort cs
  | _ => .unknown

end Argument

def isValue (text : String) : Bool := text == "-" || text.toList.head? != some '-'

def parseFrames (text : String) : Option UInt64 :=
  let digits := if text.toList.head? == some '+' then text.toList.tail else text.toList
  if digits.isEmpty || !digits.all Char.isDigit then none
  else
    let n := digits.foldl (fun n c => 10 * n + (c.toNat - 48)) 0
    if n < UInt64.size then some (.ofNat n) else none

def parsePath (text : String) : Option String := if text.isEmpty then none else some text

def once {α : Type} (old : Option α) (value : Option α) : Option (Option α) :=
  if old.isSome then none else value.map some

namespace Options

def set (o : Options) (value : String) : Key → Option Options
  | .osRom => (once o.osRom (some value)).map ({ o with osRom := · })
  | .basicRom => (once o.basicRom (some value)).map ({ o with basicRom := · })
  | .disk => some { o with disks := o.disks ++ [value] }
  | .filesDirectory => (once o.filesDirectory (some value)).map ({ o with filesDirectory := · })
  | .frames => (once o.frames (parseFrames value)).map ({ o with frames := · })
  | .video => (once o.video (VideoStandard.parse value).toOption).map ({ o with video := · })
  | .screenshot => (once o.screenshot (parsePath value)).map ({ o with screenshot := · })
  | .config => (once o.config (parsePath value)).map ({ o with config := · })
  | .trace => (once o.trace (some value)).map ({ o with trace := · })

def read (o : Options) : List String → Except Stop Options
  | [] => .ok o
  | text :: rest =>
    match Argument.read text with
    | .unknown => .error .usage
    | .endOfOptions => if rest.isEmpty then .ok o else .error .usage
    | .switch .help => .error .help
    | .switch .version => .error .version
    | .switch .noBasic => if o.noBasic then .error .usage else { o with noBasic := true }.read rest
    | .setting key (some value) =>
      match o.set value key with
      | some o => o.read rest
      | none => .error .usage
    | .setting key none =>
      match rest with
      | [] => .error .usage
      | value :: rest =>
        match if isValue value then o.set value key else none with
        | some o => o.read rest
        | none => .error .usage

def override (o : Options) (config : Config) : Config :=
  { config with
    osRom := o.osRom.getD config.osRom
    basicRom := o.basicRom <|> config.basicRom
    disks := if o.disks.isEmpty then config.disks else o.disks
    filesDirectory := o.filesDirectory <|> config.filesDirectory
    machine := { config.machine with video := o.video.getD config.machine.video } }

end Options

end Atari800XL.CommandLine
