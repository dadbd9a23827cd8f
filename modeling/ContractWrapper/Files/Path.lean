/-! Paths with slashes.

A path is a text. Repeated slashes, slashes at the end and single dots are written but do not
count, except that a path which starts with a single dot keeps it.
-/

set_option autoImplicit false

namespace ContractWrapper.Path

/-- The parts between slashes, empty ones included. -/
def parts (path : List Char) : List (List Char) :=
  match path with
  | [] => [[]]
  | c :: rest =>
    match parts rest with
    | [] => [[c]]
    | first :: others => if c == '/' then [] :: first :: others else (c :: first) :: others

def isAbsolute (path : List Char) : Bool :=
  path.head? == some '/'

/-- Take slashes and single dots off the end of a reversed path, but neither a slash nor a
dot that the path starts with. -/
def trimReversed : List Char → List Char
  | ['/'] => ['/']
  | ['.'] => ['.']
  | '/' :: rest => trimReversed rest
  | ['.', '/'] => ['/']
  | '.' :: '/' :: rest => trimReversed ('/' :: rest)
  | path => path

/-- The path without its last part; nothing is above an empty path and above the root. -/
def parent? (path : String) : Option String :=
  let trimmed := trimReversed path.toList.reverse
  if trimmed == [] || trimmed == ['/'] then none
  else some (String.ofList (trimReversed (trimmed.dropWhile (· != '/'))).reverse)

/-- At most `count` of a path and the paths above it, the innermost first. -/
def ancestorsWithin : (count : Nat) → String → List String
  | 0, _ => []
  | count + 1, path =>
    match parent? path with
    | none => [path]
    | some above => path :: ancestorsWithin count above

/-- A path and all paths above it; each is shorter than the one before. -/
def ancestors (path : String) : List String :=
  ancestorsWithin (path.length + 1) path

/-- The last part, if it names a file or directory. -/
def fileName? (path : String) : Option String :=
  let last := (trimReversed path.toList.reverse).takeWhile (· != '/')
  if last == [] || last == ['.'] || last == ['.', '.'] then none
  else some (String.ofList last.reverse)

/-- A name up to its last dot, unless that is its first character. -/
def stemOf (name : String) : String :=
  match name.toList.reverse.dropWhile (· != '.') with
  | [] => name
  | ['.'] => name
  | _ :: stem => String.ofList stem.reverse

def fileStem? (path : String) : Option String :=
  (fileName? path).map stemOf

/-- A name inside a directory. An empty directory path stands for the current directory. -/
def join (directory name : String) : String :=
  match directory.toList.getLast? with
  | none | some '/' => directory ++ name
  | some _ => directory ++ "/" ++ name

end ContractWrapper.Path
