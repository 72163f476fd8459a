import Atari800XL.Text.Json.Token

namespace Atari800XL.Text.Json

inductive Frame
  | array (items : List Value)
  | object (members : List (Option String × Value)) (name : Option String)
  deriving Repr, Inhabited

inductive Due
  | value (outer : List Frame)
  | firstItem (outer : List Frame)
  | name (members : List (Option String × Value)) (outer : List Frame)
  | firstName (outer : List Frame)
  | colon (members : List (Option String × Value)) (name : Option String) (outer : List Frame)
  | behind (value : Value) (outer : List Frame)
  deriving Repr, Inhabited

namespace Due

def takeValue (outer : List Frame) : Token → Option Due
  | .simple v => some (.behind v outer)
  | .openArray => some (.firstItem outer)
  | .openObject => some (.firstName outer)
  | _ => none

def takeName (members : List (Option String × Value)) (outer : List Frame) : Token → Option Due
  | .simple (.string key) => some (.colon members key outer)
  | _ => none

def take : Due → Token → Option Due
  | .value outer, t => takeValue outer t
  | .firstItem outer, .closeArray => some (.behind (.array []) outer)
  | .firstItem outer, t => takeValue (.array [] :: outer) t
  | .name members outer, t => takeName members outer t
  | .firstName outer, .closeObject => some (.behind (.object []) outer)
  | .firstName outer, t => takeName [] outer t
  | .colon members key outer, .colon => some (.value (.object members key :: outer))
  | .behind v (.array items :: outer), .comma => some (.value (.array (v :: items) :: outer))
  | .behind v (.array items :: outer), .closeArray =>
    some (.behind (.array (v :: items).reverse) outer)
  | .behind v (.object members key :: outer), .comma =>
    some (.name ((key, v) :: members) outer)
  | .behind v (.object members key :: outer), .closeObject =>
    some (.behind (.object ((key, v) :: members).reverse) outer)
  | _, _ => none

def value? : Due → Option Value
  | .behind v [] => some v
  | _ => none

end Due

def parse (s : String) : Option Value :=
  (tokens s).bind fun ts => (ts.foldlM Due.take (.value [])).bind Due.value?

end Atari800XL.Text.Json
