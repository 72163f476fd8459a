import Atari800XL.Display.Picture

namespace Atari800XL

inductive HostFault
  | notFound
  | notDirectory
  | isDirectory
  | nameTooLong
  | nulInPath
  | other (text : String)
  deriving DecidableEq, Repr, Inhabited

def HostFault.message : HostFault → String
  | .notFound => "No such file or directory (os error 2)"
  | .notDirectory => "Not a directory (os error 20)"
  | .isDirectory => "Is a directory (os error 21)"
  | .nameTooLong => "File name too long (os error 36)"
  | .nulInPath => "file name contained an unexpected NUL byte"
  | .other text => text

class MonadHost (m : Type → Type) where
  programDirectory : m String
  pathExists (path : String) : m Bool
  readFile (path : String) : m (Except HostFault ByteArray)
  listFiles (directory : String) : m (Except HostFault (List String))
  savePicture (path : String) (picture : Picture) : m (Except HostFault Unit)
  print (line : String) : m Unit
  complain (line : String) : m Unit
  log (line : String) : m Unit

end Atari800XL
