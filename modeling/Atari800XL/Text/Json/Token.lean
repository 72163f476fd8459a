import Atari800XL.Text.Basic
import Atari800XL.Text.Json.Basic

namespace Atari800XL.Text.Json

inductive Token
  | openArray
  | closeArray
  | openObject
  | closeObject
  | comma
  | colon
  | simple (value : Value)
  deriving Repr, Inhabited

def isDigits (cs : List Char) : Bool := !cs.isEmpty && cs.all Char.isDigit

def isInteger (cs : List Char) : Bool := isDigits cs && (cs.head? != some '0' || cs.length == 1)

def isExponent : List Char → Bool
  | '+' :: cs | '-' :: cs | cs => isDigits cs

def isNumber (cs : List Char) : Bool :=
  let unsigned := if cs.head? == some '-' then cs.tail else cs
  let isMantissaChar (c : Char) := c != 'e' && c != 'E'
  let mantissa := unsigned.takeWhile isMantissaChar
  (unsigned.dropWhile isMantissaChar).tail?.all isExponent &&
    match cutList '.' mantissa with
    | some (integer, fraction) => isInteger integer && isDigits fraction
    | none => isInteger mantissa

def isNumberChar (c : Char) : Bool :=
  c.isDigit || c == '-' || c == '+' || c == '.' || c == 'e' || c == 'E'

def isHighSurrogate (code : Nat) : Bool := 0xD800 ≤ code && code < 0xDC00

def isLowSurrogate (code : Nat) : Bool := 0xDC00 ≤ code && code < 0xE000

def addCode (state : Option (Option Nat × List Char)) (code : Nat) :
    Option (Option Nat × List Char) :=
  match state with
  | none => none
  | some (some low, cs) =>
    if isHighSurrogate code then
      some (none, Char.ofNat (0x10000 + (code - 0xD800) * 0x400 + (low - 0xDC00)) :: cs)
    else none
  | some (none, cs) =>
    if isLowSurrogate code then some (some code, cs)
    else if isHighSurrogate code then none
    else some (none, Char.ofNat code :: cs)

def textOfCodes (codes : List Nat) : Option String :=
  match codes.foldl addCode (some (none, [])) with
  | some (none, cs) => some (String.ofList cs)
  | _ => none

def escaped? : Char → Option Char
  | '"' => some '"'
  | '\\' => some '\\'
  | '/' => some '/'
  | 'b' => some '\x08'
  | 'f' => some '\x0c'
  | 'n' => some '\n'
  | 'r' => some '\r'
  | 't' => some '\t'
  | _ => none

def hexValue? (c : Char) : Option Nat :=
  if c.isDigit then some (c.toNat - 48)
  else if 'a' ≤ c && c ≤ 'f' then some (c.toNat - 87)
  else if 'A' ≤ c && c ≤ 'F' then some (c.toNat - 55)
  else none

inductive Reading
  | nothing
  | word (letters : List Char)
  | number (signs : List Char)
  | text (codes : List Nat)
  | escape (codes : List Nat)
  | unicode (codes : List Nat) (digits code : Nat)
  deriving Repr, Inhabited

structure Lexer where
  tokens : List Token := []
  reading : Reading := .nothing
  deriving Inhabited

namespace Lexer

def push (l : Lexer) (t : Token) : Lexer := { tokens := t :: l.tokens }

def read (l : Lexer) (reading : Reading) : Lexer := { l with reading }

def isSpace (c : Char) : Bool := c == ' ' || c == '\t' || c == '\n' || c == '\r'

def start (l : Lexer) (c : Char) : Option Lexer :=
  match c with
  | '[' => some (l.push .openArray)
  | ']' => some (l.push .closeArray)
  | '\x7b' => some (l.push .openObject)
  | '\x7d' => some (l.push .closeObject)
  | ',' => some (l.push .comma)
  | ':' => some (l.push .colon)
  | '"' => some (l.read (.text []))
  | c =>
    if isSpace c then some l
    else if isNumberChar c then some (l.read (.number [c]))
    else if c.isLower then some (l.read (.word [c]))
    else none

def close (l : Lexer) : Option Lexer :=
  let simple (value : Value) := some (l.push (.simple value))
  match l.reading with
  | .nothing => some l
  | .word letters =>
    match String.ofList letters.reverse with
    | "null" => simple .null
    | "true" => simple (.bool true)
    | "false" => simple (.bool false)
    | _ => none
  | .number signs =>
    if isNumber signs.reverse then simple (.number (String.ofList signs.reverse)) else none
  | _ => none

def step (l : Lexer) (c : Char) : Option Lexer :=
  match l.reading with
  | .nothing => l.start c
  | .word letters =>
    if c.isLower then some (l.read (.word (c :: letters)))
    else l.close.bind (·.start c)
  | .number signs =>
    if isNumberChar c then some (l.read (.number (c :: signs)))
    else l.close.bind (·.start c)
  | .text codes =>
    match c with
    | '"' => some (l.push (.simple (.string (textOfCodes codes))))
    | '\\' => some (l.read (.escape codes))
    | c => if c.toNat < 0x20 then none else some (l.read (.text (c.toNat :: codes)))
  | .escape codes =>
    match c with
    | 'u' => some (l.read (.unicode codes 4 0))
    | c => (escaped? c).map fun c => l.read (.text (c.toNat :: codes))
  | .unicode codes digits code =>
    (hexValue? c).map fun digit =>
      let code := 16 * code + digit
      l.read (if digits ≤ 1 then .text (code :: codes) else .unicode codes (digits - 1) code)

end Lexer

def tokens (s : String) : Option (List Token) :=
  ((s.toList.foldlM Lexer.step {}).bind Lexer.close).map (·.tokens.reverse)

end Atari800XL.Text.Json
