import ContractWrapper.Files.Host

/-! A file system as a value: directories and files under their locations.

Paths are followed part by part from the root or from the working directory. Two dots lead to
the directory above, and the root is above itself.
-/

set_option autoImplicit false

namespace ContractWrapper

/-- The names that lead from the root to a file or directory. -/
abbrev Location := List String

inductive FileTree.Entry where
  | directory
  | file (content : ByteArray)

instance : DecidableEq FileTree.Entry
  | .directory, .directory => .isTrue rfl
  | .directory, .file _ | .file _, .directory => .isFalse nofun
  | .file first, .file second =>
    match ByteArray.instDecidableEq first second with
    | .isTrue same => .isTrue (congrArg FileTree.Entry.file same)
    | .isFalse different => .isFalse fun same => different (FileTree.Entry.file.inj same)

structure FileTree where
  workingDirectory : Location
  /-- The root is a directory without being listed. -/
  entries : List (Location × FileTree.Entry)
  deriving DecidableEq

namespace FileTree

def entryAt (tree : FileTree) (location : Location) : Option Entry :=
  if location.isEmpty then some .directory else tree.entries.lookup location

def put (tree : FileTree) (location : Location) (entry : Entry) : FileTree :=
  { tree with
    entries := (location, entry) :: tree.entries.filter fun (other, _) => other ≠ location }

/-- A name may have this many bytes, and a path one less than the second number. -/
def nameLimit : Nat := 255

def pathLimit : Nat := 4096

/-- The directory at a location, in which a further part of a path is looked for. -/
def requireDirectory (tree : FileTree) (location : Location) : Except FileError Unit :=
  match tree.entryAt location with
  | none => .error .notFound
  | some (.file _) => .error .notADirectory
  | some .directory => .ok ()

/-- Where parts lead to; all but the last one must be directories. -/
def walk (tree : FileTree) (location : Location) : List String → Except FileError Location
  | [] => .ok location
  | part :: rest => do
    tree.requireDirectory location
    if part == "" || part == "." then walk tree location rest
    else if part == ".." then walk tree location.dropLast rest
    else if nameLimit < part.utf8ByteSize then .error .nameTooLong
    else walk tree (location ++ [part]) rest

def startOf (tree : FileTree) (path : String) : Except FileError (Location × List String) :=
  if path.toList.contains '\x00' then .error .nulInPath
  else if path == "" then .error .notFound
  else if pathLimit ≤ path.utf8ByteSize then .error .nameTooLong
  else
    .ok (if Path.isAbsolute path.toList then [] else tree.workingDirectory,
      (Path.parts path.toList).map String.ofList)

def locate (tree : FileTree) (path : String) : Except FileError Location := do
  let (start, parts) ← tree.startOf path
  tree.walk start parts

def read (tree : FileTree) (path : String) : Except FileError ByteArray := do
  let location ← tree.locate path
  match tree.entryAt location with
  | none => .error .notFound
  | some .directory => .error .isADirectory
  | some (.file content) => .ok content

def isDirectoryAt (tree : FileTree) (path : String) : Bool :=
  match tree.locate path with
  | .ok location => tree.entryAt location == some .directory
  | .error _ => false

/-- The last part of a path, the directory that it is to be found in, and whether slashes
follow it. Without a part of its own the path leads to a directory. -/
def target (tree : FileTree) (path : String) :
    Except FileError (Location × Option String × Bool) := do
  let (start, parts) ← tree.startOf path
  match parts.reverse.dropWhile (· == "") with
  | [] => return (start, none, true)
  | last :: before => do
    let directory ← tree.walk start before.reverse
    tree.requireDirectory directory
    if last == "." || last == ".." then return (directory, none, true)
    else return (directory, some last, parts.getLast? == some "")

def place (tree : FileTree) (directory : Location) (name : String) :
    Except FileError (Location × Option Entry) :=
  let location := directory ++ [name]
  if nameLimit < name.utf8ByteSize then .error .nameTooLong
  else .ok (location, tree.entryAt location)

def makeDirectoryAt (tree : FileTree) (path : String) : Except FileError FileTree := do
  match ← tree.target path with
  | (_, none, _) => .error .alreadyExists
  | (directory, some name, _) =>
    match ← tree.place directory name with
    | (_, some _) => .error .alreadyExists
    | (location, none) => return tree.put location .directory

/-- Slashes at the end ask for a directory, which is refused before the name is looked at. -/
def write (tree : FileTree) (path : String) (content : ByteArray) :
    Except FileError FileTree := do
  match ← tree.target path with
  | (_, none, _) | (_, some _, true) => .error .isADirectory
  | (directory, some name, false) =>
    match ← tree.place directory name with
    | (_, some .directory) => .error .isADirectory
    | (location, _) => return tree.put location (.file content)

/-- Take over a changed tree; a refusal changes nothing. -/
def attempt (change : FileTree → Except FileError FileTree) :
    StateM FileTree (Except FileError Unit) := fun tree =>
  match change tree with
  | .ok changed => (.ok (), changed)
  | .error cause => (.error cause, tree)

instance : Host (StateM FileTree) where
  readBytes path := return (← get).read path
  isDirectory path := return (← get).isDirectoryAt path
  makeDirectory path := attempt (·.makeDirectoryAt path)
  writeBytes path content := attempt (·.write path content)
  report _ := pure ()

theorem entryAt_put_self (tree : FileTree) {location : Location} (entry : Entry)
    (inside : location ≠ []) : (tree.put location entry).entryAt location = some entry := by
  simp [entryAt, put, inside]

theorem entryAt_put_of_ne (tree : FileTree) {location other : Location} (entry : Entry)
    (different : other ≠ location) :
    (tree.put location entry).entryAt other = tree.entryAt other := by
  have kept : ∀ entries : List (Location × Entry),
      (entries.filter fun (place, _) => place ≠ location).lookup other = entries.lookup other := by
    intro entries
    induction entries with
    | nil => rfl
    | cons first rest ih =>
      obtain ⟨place, found⟩ := first
      by_cases same : place = location
      · simp [same, List.lookup_cons, beq_false_of_ne different, ← ih]
      · simp [same, List.lookup_cons, ← ih]
  simp only [entryAt, put, List.lookup_cons, beq_false_of_ne different, kept]

end FileTree

end ContractWrapper
