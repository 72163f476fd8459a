import Atari800XL.Config.Basic
import Atari800XL.Text.Json.Parse
import Atari800XL.Text.Json.Print

namespace Atari800XL

open Text.Json

def VideoStandard.ofValue : Value → Option VideoStandard
  | .string (some name) => ofName? name
  | .object [(some name, .null)] => ofName? name
  | _ => none

namespace Setup

def sampleRateOfValue (v : Value) : Option UInt32 :=
  v.asNat.bind fun n => if n < UInt32.size then some (.ofNat n) else none

def partNames : List String := ["video", "audio_enabled", "sample_rate", "h_device"]

def ofValue (v : Value) : Option Setup := do
  let parts ← v.parts partNames
  return {
    video := ← parts.read "video" VideoStandard.ofValue .ntsc
    audio := ← parts.read "audio_enabled" Value.asBool true
    sampleRate := ← parts.read "sample_rate" sampleRateOfValue 44100
    fileDevice := ← parts.read "h_device" Value.asBool true }

def toValue (s : Setup) : Value := .record [
  ("video", .text s.video.name),
  ("audio_enabled", .bool s.audio),
  ("sample_rate", .nat s.sampleRate.toNat),
  ("h_device", .bool s.fileDevice)]

end Setup

namespace Config

def partNames : List String :=
  ["a8rs_home", "os_rom", "basic_rom", "disks", "h_dir", "screenshot_dir", "machine"]

def ofValue (v : Value) : Option Config := do
  let parts ← v.parts partNames
  let default : Config := {}
  return {
    home := ← parts.read "a8rs_home" Value.asText default.home
    osRom := ← parts.read "os_rom" Value.asText default.osRom
    basicRom := ← parts.read "basic_rom" (Value.asOption Value.asText) default.basicRom
    disks := ← parts.read "disks" (Value.asList Value.asText) default.disks
    filesDirectory := ← parts.read "h_dir" (Value.asOption Value.asText) default.filesDirectory
    screenshotDirectory := ← parts.read "screenshot_dir" Value.asText default.screenshotDirectory
    machine := ← parts.read "machine" Setup.ofValue default.machine }

def toValue (c : Config) : Value :=
  let orNull (path : Option String) : Value := (path.map Value.text).getD .null
  .record [
    ("a8rs_home", .text c.home),
    ("os_rom", .text c.osRom),
    ("basic_rom", orNull c.basicRom),
    ("disks", .array (c.disks.map .text)),
    ("h_dir", orNull c.filesDirectory),
    ("screenshot_dir", .text c.screenshotDirectory),
    ("machine", c.machine.toValue)]

def parse (s : String) : Option Config := (Text.Json.parse s).bind ofValue

def print (c : Config) : String := c.toValue.print 0

end Config

end Atari800XL
