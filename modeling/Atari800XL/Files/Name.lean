import Atari800XL.Text.Basic
import Atari800XL.Text.UpperCase

namespace Atari800XL.Files

def isNameChar (wildcards : Bool) (c : Char) : Bool :=
  c.isAlphanum || wildcards && (c == '*' || c == '?')

def splitName (cs : List Char) : List Char × Option (List Char) :=
  match Text.cutList '.' cs with
  | some (base, extension) => (base, some extension)
  | none => (cs, none)

/-- The name as it is stored, or nothing if the text is no name. Blanks around it are cut off, and
a dot with nothing behind it is dropped. -/
def normalize (raw : String) (wildcards : Bool) : Option String :=
  let upper := Text.upperCaseList (Text.trimList raw.toList)
  let (base, extension) := splitName upper
  let extension := extension.getD []
  if base.isEmpty || base.length > 8 || extension.length > 3 then none
  else if !(base ++ extension).all (isNameChar wildcards) then none
  else if extension.isEmpty then some (String.ofList base)
  else some (String.ofList (base ++ '.' :: extension))

end Atari800XL.Files
