import Atari800XL.Files.Wildcard

namespace Atari800XL.Files

structure File where
  name : String
  data : ByteArray
  locked : Bool := false
  deriving Inhabited

structure Entry where
  name : String
  size : Nat
  locked : Bool
  deriving DecidableEq, Repr, Inhabited

def File.entry (f : File) : Entry := ⟨f.name, f.data.size, f.locked⟩

inductive Change
  | written (name : String)
  | deleted (name : String)
  | renamed (old new : String)
  | lockChanged (name : String) (locked : Bool)
  deriving DecidableEq, Repr, Inhabited

structure Store where
  files : List File := []
  watchers : List Nat := []
  lastWatcher : Nat := 0
  deriving Inhabited

structure Outcome where
  store : Store
  change : Option Change

def Outcome.succeeded (o : Outcome) : Bool := o.change.isSome

namespace Store

def find? (s : Store) (name : String) : Option File := s.files.find? (·.name == name)

def contains (s : Store) (name : String) : Bool := (s.find? name).isSome

def read (s : Store) (name : String) : Option ByteArray := (s.find? name).map (·.data)

def status (s : Store) (name : String) : Option Entry := (s.find? name).map File.entry

def list (s : Store) (pattern : String) : List Entry :=
  (s.files.filter fun f => wildcardMatch pattern f.name).map File.entry

def insertFile (file : File) : List File → List File
  | [] => [file]
  | f :: rest =>
    if file.name < f.name then file :: f :: rest
    else if file.name = f.name then file :: rest
    else f :: insertFile file rest

def put (s : Store) (file : File) : Store := { s with files := insertFile file s.files }

def remove (s : Store) (name : String) : Store :=
  { s with files := s.files.filter (·.name != name) }

def write (s : Store) (name : String) (data : ByteArray) : Outcome :=
  let locked := ((s.find? name).map (·.locked)).getD false
  { store := s.put { name, data, locked }, change := some (.written name) }

def unchanged (s : Store) : Outcome := { store := s, change := none }

def delete (s : Store) (name : String) : Outcome :=
  if s.contains name then { store := s.remove name, change := some (.deleted name) }
  else s.unchanged

def rename (s : Store) (old new : String) : Outcome :=
  if s.contains new then s.unchanged
  else match s.find? old with
    | none => s.unchanged
    | some file =>
      { store := (s.remove old).put { file with name := new }, change := some (.renamed old new) }

def setLock (s : Store) (name : String) (locked : Bool) : Outcome :=
  match s.find? name with
  | none => s.unchanged
  | some file => { store := s.put { file with locked }, change := some (.lockChanged name locked) }

def watch (s : Store) : Nat × Store :=
  let id := s.lastWatcher + 1
  (id, { s with watchers := s.watchers ++ [id], lastWatcher := id })

def unwatch (s : Store) (id : Nat) : Store := { s with watchers := s.watchers.filter (· != id) }

end Store

def Outcome.deliveries (o : Outcome) : List (Nat × Change) :=
  match o.change with
  | none => []
  | some change => o.store.watchers.map (·, change)

end Atari800XL.Files
