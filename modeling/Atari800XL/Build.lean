import Atari800XL.Fault
import Atari800XL.Journal

namespace Atari800XL

abbrev BuildT (m : Type → Type) (α : Type) := ExceptT Fault (StateT Journal m) α

abbrev Build := BuildT Id

namespace Build

variable {m : Type → Type} [Monad m] {α : Type}

def tell (notices : List Notice) : BuildT m Unit := modify (·.addAll notices)

def ofExcept (e : Except Fault α) : BuildT m α := ExceptT.mk (pure e)

def outcome (b : Build α) (journal : Journal) : Except Fault α × Journal :=
  StateT.run (m := Id) (ExceptT.run b) journal

def lift (b : Build α) : BuildT m α := ExceptT.mk fun journal => pure (b.outcome journal)

def told (e : Except Fault (α × List Notice)) : BuildT m α := do
  let (a, notices) ← ofExcept e
  tell notices
  return a

end Build

end Atari800XL
