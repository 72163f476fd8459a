import Atari800XL.Text.Basic

namespace Atari800XL.Path

def separator : Char := '/'

def isAbsolute (path : String) : Bool := path.toList.head? == some separator

def endsOpen (path : String) : Bool := path.toList.getLast? == some separator

def join (directory path : String) : String :=
  if isAbsolute path then path
  else if directory.isEmpty || endsOpen directory then directory ++ path
  else directory.push separator ++ path

def parts (path : String) : List String := Text.split separator path

def names (path : String) : List String :=
  (parts path).filter fun name => !name.isEmpty && name != "."

def fileName (path : String) : String :=
  match (names path).getLast? with
  | none | some ".." => ""
  | some name => name

def onward (place : List String) : String → List String
  | "" | "." => place
  | ".." => place.dropLast
  | name => place ++ [name]

def places (path : String) : List (List String) :=
  (parts path).foldl (fun behind name => onward (behind.headD []) name :: behind) [[]]

@[simp] theorem join_of_isAbsolute {path : String} (directory : String) (h : isAbsolute path) :
    join directory path = path := by simp [join, h]

end Atari800XL.Path
