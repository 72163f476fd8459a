import Atari800XL.Config.Format
import Atari800XL.Host.Basic
import Atari800XL.Journal

namespace Atari800XL.Config

variable {m : Type → Type} [Monad m] [MonadHost m]

def load (path : String) : m (Config × List Notice) := do
  match ← MonadHost.readFile path with
  | .error _ => return ({}, [])
  | .ok data =>
    match String.fromUTF8? data with
    | none => return ({}, [])
    | some text =>
      match parse text with
      | some config => return (config, [])
      | none => return ({}, [.configRejected path])

end Atari800XL.Config
