namespace Atari800XL.Text.Json

/-- A value as it is written: the members of an object stay in their order, and a name may come
twice. A text is missing where escapes in it stand for no character. -/
inductive Value
  | null
  | bool (b : Bool)
  | number (digits : String)
  | string (text : Option String)
  | array (items : List Value)
  | object (members : List (Option String × Value))
  deriving Repr, Inhabited

namespace Value

def text (s : String) : Value := .string (some s)

def nat (n : Nat) : Value := .number (toString n)

def record (members : List (String × Value)) : Value :=
  .object (members.map fun (name, value) => (some name, value))

def asText : Value → Option String
  | .string s => s
  | _ => none

def asBool : Value → Option Bool
  | .bool b => some b
  | _ => none

def asNat : Value → Option Nat
  | .number digits => digits.toNat?
  | _ => none

def asList {α : Type} (item : Value → Option α) : Value → Option (List α)
  | .array items => items.mapM item
  | _ => none

def asOption {α : Type} (item : Value → Option α) : Value → Option (Option α)
  | .null => some none
  | v => (item v).map some

end Value

abbrev Parts := String → Option Value

def Value.parts (names : List String) : Value → Option Parts
  | .object members =>
    let once (name : String) := members.countP (·.1 == some name) ≤ 1
    if members.all (·.1.isSome) && names.all once then
      some fun name => members.lookup (some name)
    else none
  | .array items =>
    if items.length ≤ names.length then some fun name => (names.zip items).lookup name else none
  | _ => none

def Parts.read {α : Type} (parts : Parts) (name : String) (part : Value → Option α)
    (missing : α) : Option α :=
  match parts name with
  | none => some missing
  | some v => part v

end Atari800XL.Text.Json
