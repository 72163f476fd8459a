import Atari800XL.Text.Basic
import Atari800XL.Text.Json.Basic

namespace Atari800XL.Text.Json

def escapeChar : Char → List Char
  | '"' => ['\\', '"']
  | '\\' => ['\\', '\\']
  | '\x08' => ['\\', 'b']
  | '\x0c' => ['\\', 'f']
  | '\n' => ['\\', 'n']
  | '\r' => ['\\', 'r']
  | '\t' => ['\\', 't']
  | c => if c.toNat < 0x20 then '\\' :: 'u' :: (hexDigits 4 c.toNat).map Char.toLower else [c]

def quote (s : String) : String := String.ofList ('"' :: s.toList.flatMap escapeChar ++ ['"'])

def newLine (level : Nat) : String := "\n".pushn ' ' (2 * level)

def bracket (opening closing : Char) (level : Nat) (items : List String) : String :=
  if items.isEmpty then (toString opening).push closing
  else
    let inner := String.intercalate ("," ++ newLine (level + 1)) items
    toString opening ++ newLine (level + 1) ++ inner ++ newLine level ++ toString closing

mutual

def Value.print (level : Nat) : Value → String
  | .null => "null"
  | .bool b => toString b
  | .number digits => digits
  | .string s => quote (s.getD "")
  | .array items => bracket '[' ']' level (printItems (level + 1) items)
  | .object members => bracket '\x7b' '\x7d' level (printMembers (level + 1) members)

def Value.printItems (level : Nat) : List Value → List String
  | [] => []
  | value :: rest => value.print level :: printItems level rest

def Value.printMembers (level : Nat) : List (Option String × Value) → List String
  | [] => []
  | (name, value) :: rest =>
    (quote (name.getD "") ++ ": " ++ value.print level) :: printMembers level rest

end

end Atari800XL.Text.Json
