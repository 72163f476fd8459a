import Atari800XL.CommandLine.Program
import Atari800XL.Display.Png

namespace Atari800XL

def hostFault (e : IO.Error) : HostFault :=
  let told (text : String) (code : UInt32) : HostFault := .other s!"{text} (os error {code})"
  match e with
  | .noFileOrDirectory .. => .notFound
  | .permissionDenied _ code text | .inappropriateType _ code text | .invalidArgument _ code text
  | .resourceExhausted _ code text | .alreadyExists _ code text | .noSuchThing _ code text =>
    if code == 20 then .notDirectory
    else if code == 21 then .isDirectory
    else if code == 36 then .nameTooLong
    else told text code
  | .otherError code text | .unsatisfiedConstraints code text | .hardwareFault code text
  | .illegalOperation code text | .unsupportedOperation code text | .resourceBusy code text =>
    told text code
  | e => .other (toString e)

def answered {α : Type} (path : String) (action : IO α) : IO (Except HostFault α) := do
  if path.toList.contains '\x00' then return .error .nulInPath
  match ← action.toBaseIO with
  | .ok a => return .ok a
  | .error e => return .error (hostFault e)

instance : MonadHost IO where
  programDirectory := return ((← IO.appPath).parent.getD ".").toString
  pathExists path := return ← ((← IO.currentDir) / path).pathExists
  readFile path := answered path (IO.FS.readBinFile path)
  listFiles directory := answered directory do
    let entries ← ((← IO.currentDir) / directory).readDir
    let files ← entries.filterM fun entry => return (← entry.path.symlinkMetadata).type == .file
    return (files.map (·.fileName)).toList
  savePicture path picture := answered path (IO.FS.writeBinFile path (Png.encode picture))
  print line := IO.println line
  complain line := IO.eprintln line
  log line := do if (← IO.getEnv "A8RS_LOG").isSome then IO.eprintln line

end Atari800XL

def main (arguments : List String) : IO UInt32 := Atari800XL.CommandLine.run arguments
