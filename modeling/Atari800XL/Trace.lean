import Atari800XL.Text.Basic
import Atari800XL.Text.LowerCase

namespace Atari800XL

inductive TraceCategory
  | sio
  | cio
  | displayList
  | interrupt
  deriving DecidableEq, Repr, Inhabited

structure TraceFlags where
  sio : Bool := false
  cio : Bool := false
  displayList : Bool := false
  interrupt : Bool := false
  deriving DecidableEq, Repr, Inhabited

namespace TraceFlags

def none : TraceFlags := {}

def all : TraceFlags := ⟨true, true, true, true⟩

def has (t : TraceFlags) : TraceCategory → Bool
  | .sio => t.sio
  | .cio => t.cio
  | .displayList => t.displayList
  | .interrupt => t.interrupt

def add (t : TraceFlags) : TraceCategory → TraceFlags
  | .sio => { t with sio := true }
  | .cio => { t with cio := true }
  | .displayList => { t with displayList := true }
  | .interrupt => { t with interrupt := true }

def toBits (t : TraceFlags) : Nat :=
  t.sio.toNat + 2 * t.cio.toNat + 4 * t.displayList.toNat + 8 * t.interrupt.toNat

def ofBits (n : Nat) : TraceFlags := ⟨n.testBit 0, n.testBit 1, n.testBit 2, n.testBit 3⟩

theorem ofBits_toBits (t : TraceFlags) : ofBits t.toBits = t := by
  obtain ⟨a, b, c, d⟩ := t
  revert a b c d
  decide

def addWord (t : TraceFlags) (word : String) : Except String TraceFlags :=
  match word with
  | "none" | "" => .ok t
  | "sio" => .ok (t.add .sio)
  | "cio" => .ok (t.add .cio)
  | "dlist" => .ok (t.add .displayList)
  | "irq" => .ok (t.add .interrupt)
  | "all" => .ok all
  | other => .error other

def parse (s : String) : TraceFlags × List String :=
  let words := (Text.split '+' (Text.lowerCase s)).map Text.trim
  words.foldl (fun (t, unknown) word =>
    match t.addWord word with
    | .ok t => (t, unknown)
    | .error other => (t, unknown ++ [other])) (none, [])

end TraceFlags

end Atari800XL
