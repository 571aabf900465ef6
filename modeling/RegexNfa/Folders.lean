namespace RegexNfa

inductive CreateError where
  | missing
  | directory
  | nameTooLong
  | nul
  | other (reason : String)
  deriving DecidableEq

def CreateError.message : CreateError → String
  | .missing => "No such file or directory (os error 2)"
  | .directory => "Is a directory (os error 21)"
  | .nameTooLong => "File name too long (os error 36)"
  | .nul => "file name contained an unexpected NUL byte"
  | .other reason => reason

abbrev Place := List String

structure Folders where
  existing : List Place
  current : Place

namespace Folders

def step (here : Place) (segment : String) : Place :=
  if segment = "" ∨ segment = "." then here
  else if segment = ".." then here.dropLast
  else here ++ [segment]

def isTooLong (segment : String) : Bool := 255 < segment.utf8ByteSize

def exceedsPath (path : String) : Bool := 4096 ≤ path.utf8ByteSize

def holdsNul (path : String) : Bool := path.contains '\x00'

def start (folders : Folders) (path : String) : Place :=
  if path.startsWith "/" then [] else folders.current

def follow (folders : Folders) (here : Place) : List String → Except CreateError Place
  | [] => .ok here
  | segment :: rest =>
    if isTooLong segment then .error .nameTooLong
    else if step here segment ∈ folders.existing then folders.follow (step here segment) rest
    else .error .missing

def create? (folders : Folders) (path : String) : Except CreateError Place :=
  let segments := path.splitOn "/"
  if holdsNul path then .error .nul
  else if exceedsPath path then .error .nameTooLong
  else
    match segments.reverse.dropWhile (· = "") with
    | [] => .error (if path = "" then .missing else .directory)
    | name :: above =>
      match folders.follow (folders.start path) above.reverse with
      | .error e => .error e
      | .ok parent =>
        if segments.getLast? = some "" ∨ name = "." ∨ name = ".." then .error .directory
        else if isTooLong name then .error .nameTooLong
        else if step parent name ∈ folders.existing then .error .directory
        else .ok (step parent name)

def isIdle (segment : String) : Bool := segment = "" ∨ segment = "."

def above (path : String) : List String :=
  ((((path.splitOn "/").reverse.dropWhile isIdle).drop 1).dropWhile isIdle).reverse

def extend (folders : Folders) (here : Place) : List String → Folders
  | [] => folders
  | segment :: rest =>
    extend { folders with existing := step here segment :: folders.existing }
      (step here segment) rest

def withParents (folders : Folders) (path : String) : Except CreateError Folders :=
  let segments := above path
  if segments.any holdsNul then .error .nul
  else if exceedsPath ("/".intercalate segments) ∨ segments.any isTooLong then .error .nameTooLong
  else .ok (folders.extend (folders.start path) segments)

def join (base path : String) : String :=
  if path.startsWith "/" then path else base ++ "/" ++ path

end Folders

end RegexNfa
