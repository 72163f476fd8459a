import Atari800XL.Files.Name

namespace Atari800XL.Files

def suffixes : List UInt8 → List (List UInt8)
  | [] => [[]]
  | b :: rest => (b :: rest) :: suffixes rest

def star : UInt8 := 0x2A
def question : UInt8 := 0x3F

def glob : List UInt8 → List UInt8 → Bool
  | [], text => text.isEmpty
  | p :: pattern, text =>
    if p == star then (suffixes text).any (glob pattern)
    else match text with
      | [] => false
      | c :: rest => (p == question || p == c) && glob pattern rest

def utf8 (cs : List Char) : List UInt8 := (String.ofList cs).toUTF8.data.toList

/-- The two parts of a name are matched apart. A pattern without a dot takes any extension, and a
name without a dot has an empty one. -/
def wildcardMatch (pattern name : String) : Bool :=
  let (patternBase, patternExtension) := splitName pattern.toList
  let (base, extension) := splitName name.toList
  glob (utf8 patternBase) (utf8 base)
    && glob (utf8 (patternExtension.getD ['*'])) (utf8 (extension.getD []))

def isPattern (name : String) : Bool := name.toList.any fun c => c == '*' || c == '?'

end Atari800XL.Files
