import Atari800XL.Build
import Atari800XL.Display.Png
import Atari800XL.Host.Basic
import Atari800XL.Host.Path

/-! A host that is a value: its files are held in memory, and what is printed is kept. What a
program does on it is a function. -/

namespace Atari800XL

inductive HostContent
  | data (bytes : ByteArray)
  | picture (p : Picture)
  deriving Inhabited

def HostContent.bytes : HostContent → ByteArray
  | .data bytes => bytes
  | .picture p => Png.encode p

/-- Places are given by the names on the way from the top. A directory is listed with all that lead
to it. -/
structure HostModel where
  programDirectory : String
  workingDirectory : List String := []
  directories : List (List String) := [[]]
  files : List (List String × HostContent) := []
  printed : Array String := #[]
  complaints : Array String := #[]
  deriving Inhabited

namespace HostModel

def longestName : Nat := 255

def longestPath : Nat := 4095

def refusal? (path : String) : Option HostFault :=
  if path.toList.contains '\x00' then some .nulInPath
  else if path.isEmpty then some .notFound
  else if path.utf8ByteSize > longestPath then some .nameTooLong
  else none

variable (h : HostModel)

def isDirectory (place : List String) : Bool := h.directories.contains place

def content? (place : List String) : Option HostContent := h.files.lookup place

def missing (place : List String) : HostFault :=
  if h.isDirectory place then .isDirectory
  else if (h.content? place).isSome then .notDirectory
  else .notFound

def enter (place : List String) (name : String) : Except HostFault (List String) :=
  if !h.isDirectory place then .error (h.missing place)
  else if name.utf8ByteSize > longestName then .error .nameTooLong
  else .ok (Path.onward place name)

def follow (path : String) (parts : List String) : Except HostFault (List String) :=
  match refusal? path with
  | some e => .error e
  | none => parts.foldlM h.enter (if Path.isAbsolute path then [] else h.workingDirectory)

def locate (path : String) : Except HostFault (List String) := h.follow path (Path.parts path)

def pathExists (path : String) : Bool :=
  match h.locate path with
  | .ok place => h.isDirectory place || (h.content? place).isSome
  | .error _ => false

def readFile (path : String) : Except HostFault ByteArray := do
  let place ← h.locate path
  match h.content? place with
  | some content => return content.bytes
  | none => throw (h.missing place)

def listFiles (directory : String) : Except HostFault (List String) := do
  let place ← h.locate directory
  if h.isDirectory place then
    return h.files.filterMap fun (file, _) =>
      if file.dropLast == place then file.getLast? else none
  else throw (h.missing place)

def write (place : List String) (content : HostContent) : HostModel :=
  if (h.content? place).isSome then
    { h with files := h.files.map fun file => if file.1 == place then (place, content) else file }
  else { h with files := h.files ++ [(place, content)] }

def savePicture (path : String) (p : Picture) : Except HostFault HostModel := do
  match (Path.parts path).reverse.dropWhile (·.isEmpty) with
  | [] => throw ((refusal? path).getD .isDirectory)
  | name :: before =>
    let directory ← h.follow path before.reverse
    let place ← h.enter directory (if Path.endsOpen path then "." else name)
    if h.isDirectory place then throw .isDirectory else return h.write place (.picture p)

def picture? (path : String) : Option Picture :=
  match h.locate path with
  | .ok place =>
    match h.content? place with
    | some (.picture p) => some p
    | _ => none
  | .error _ => none

def putFile (path : String) (bytes : ByteArray) : HostModel :=
  match Path.places path with
  | [] => h
  | place :: directories =>
    { h with directories := directories ++ h.directories }.write place (.data bytes)

def withFiles (programDirectory directory : String) (files : List (String × ByteArray)) :
    HostModel :=
  files.foldl (fun h (path, bytes) => h.putFile (Path.join directory path) bytes)
    { programDirectory, directories := Path.places programDirectory ++ Path.places directory }

instance : MonadHost (StateM HostModel) where
  programDirectory := return (← get).programDirectory
  pathExists path := return (← get).pathExists path
  readFile path := return (← get).readFile path
  listFiles directory := return (← get).listFiles directory
  savePicture path p := modifyGet fun h =>
    match h.savePicture path p with
    | .ok h => (.ok (), h)
    | .error e => (.error e, h)
  print text := modify fun h =>
    { h with printed := h.printed ++ (Text.lines text).toArray }
  complain text := modify fun h =>
    { h with complaints := h.complaints ++ (Text.lines text).toArray }
  log _ := return

def build {α : Type} (b : BuildT (StateM HostModel) α) : Build α :=
  fun journal => ((ExceptT.run b).run journal |>.run h).1

end HostModel

end Atari800XL
