import Atari800XL.Config.Basic
import Atari800XL.Host.Basic
import Atari800XL.Machine.Basic

namespace Atari800XL.Machine

variable {m : Type → Type} [Monad m] [MonadHost m]

def demand {α : Type} (answer : m (Except HostFault α)) : BuildT m α := do
  match ← answer with
  | .ok a => return a
  | .error e => throw (.host e.message)

def loadFile (path : String) : BuildT m ByteArray := demand (MonadHost.readFile path)

def addHostFile (directory : String) (store : Files.Store) (name : String) :
    BuildT m Files.Store := do
  let upper := Text.upperCase name
  match Files.normalize upper false with
  | some stored =>
    return store.put { name := stored, data := ← loadFile (Path.join directory name) }
  | none =>
    Build.tell [.hostFileSkipped upper]
    return store

def loadStore (directory : String) : BuildT m Files.Store := do
  let names ← demand (MonadHost.listFiles directory)
  let store ← names.foldlM (addHostFile directory) {}
  Build.tell [.hostFilesLoaded store.files.length directory]
  return store

def loadDisk (machine : Machine) (slot : Nat) (path : String) : BuildT m Machine := do
  let data ← loadFile path
  let name := Path.fileName path
  Build.tell [.diskLoaded name data.size]
  let machine ← Build.told ((machine.upload slot name data).map fun (_, m, notices) => (m, notices))
  Build.told (machine.mount slot (slot + 1))

def load (config : Config) : BuildT m Machine := do
  let directory ← (MonadHost.programDirectory : m String)
  let osRom := config.resolve directory config.osRom
  unless ← (MonadHost.pathExists osRom : m Bool) do
    Build.tell [.osRomNotFound osRom]
    throw (.missingResource .osRom)
  let os ← loadFile osRom
  let basic ← config.basicRom.mapM fun path => loadFile (config.resolve directory path)
  let store ← match config.filesDirectory with
    | some path => loadStore (config.resolve directory path)
    | none => pure {}
  let machine ← Build.lift (build os basic config.machine store)
  config.disks.zipIdx.foldlM
    (fun machine (path, slot) => loadDisk machine slot (config.resolve directory path)) machine

end Atari800XL.Machine
