import ServiceSpec.Files.Access

/-!
# A tree of files in memory

A tree holds files and directories by their place, the names on the way from the root.  A path is
led to a place name by name from the working directory.

## Main definitions

* `FileTree` : the state of a file system without links.
* `FileTree.locate` : the place that a path leads to.
* `FileTree.read`, `FileTree.write`, … : the operations.
-/

namespace ServiceSpec

/-- The names on the way from the root. -/
abbrev Place : Type :=
  List (List Char)

/-- What is at a place. -/
inductive FileEntry where
  | file (content : ByteArray)
  | directory

/-- The state of a file system without links.  Of several entries for a place the first counts, and
the root is always a directory. -/
structure FileTree where
  entries : List (Place × FileEntry) := []
  workingDirectory : Place := []

namespace FileTree

/-- What is at a place. -/
def at? (t : FileTree) (p : Place) : Option FileEntry :=
  if p = [] then some .directory else t.entries.lookup p

/-- The tree without what is at a place. -/
def without (t : FileTree) (p : Place) : FileTree :=
  { t with entries := t.entries.filter (·.1 ≠ p) }

/-- The tree with an entry at a place. -/
def place (t : FileTree) (p : Place) (e : FileEntry) : FileTree :=
  { t with entries := (p, e) :: (t.without p).entries }

/-! ## Paths -/

/-- The longest name of a file, in bytes. -/
def longestName : Nat := 255

/-- The longest path, in bytes. -/
def longestPath : Nat := 4095

/-- One step of a path from a place.  It must lead to a directory if the path goes on. -/
def step (t : FileTree) (p : Place) (name : List Char) : Except FileError Place :=
  match t.at? p with
  | none => .error .notFound
  | some (.file _) => .error .notDirectory
  | some .directory =>
    if Path.isIdle name then .ok p
    else if name = ['.', '.'] then .ok p.dropLast
    else if longestName < (String.ofList name).utf8ByteSize then .error .nameTooLong
    else .ok (p ++ [name])

/-- The place that names lead to from a place. -/
def walk (t : FileTree) (p : Place) : List (List Char) → Except FileError Place
  | [] => .ok p
  | name :: rest => do t.walk (← t.step p name) rest

/-- The names of a path, with where they start. -/
def start (t : FileTree) (path : String) : Except FileError (Place × List (List Char)) :=
  if path.toList.contains '\x00' then .error .zeroByte
  else if path = "" then .error .notFound
  else if longestPath < path.utf8ByteSize then .error .nameTooLong
  else .ok (if Path.isAbsolute path then [] else t.workingDirectory, Path.split path.toList)

/-- The place that a path leads to.  Behind a slash at its end must be a directory. -/
def locate (t : FileTree) (path : String) : Except FileError Place := do
  let (p, names) ← t.start path
  t.walk p names

/-- The end of a path: the directory that the last name is looked up in, the name, and whether a
slash follows it.  There is no name where the path ends in dots or at the root. -/
structure Target where
  directory : Place
  name : Option (List Char)
  hasSlash : Bool

/-- The names of a path before the last one, and the last one. -/
def splitLast (names : List (List Char)) : List (List Char) × List Char :=
  let trimmed := (names.reverse.dropWhile (· = [])).reverse
  (trimmed.dropLast, trimmed.getLast?.getD [])

/-- The end of a path whose last name need not exist. -/
def target (t : FileTree) (path : String) : Except FileError Target := do
  let (p, names) ← t.start path
  let (before, last) := splitLast names
  let directory ← t.walk p before
  match t.at? directory with
  | none => throw .notFound
  | some (.file _) => throw .notDirectory
  | some .directory =>
    if Path.isIdle last || last = ['.', '.'] then
      return ⟨directory, none, names.getLast? = some []⟩
    else if longestName < (String.ofList last).utf8ByteSize then throw .nameTooLong
    else return ⟨directory, some last, names.getLast? = some []⟩

/-! ## Operations -/

/-- The bytes of a file. -/
def read (t : FileTree) (path : String) : Except FileError ByteArray := do
  match t.at? (← t.locate path) with
  | none => throw .notFound
  | some .directory => throw .isDirectory
  | some (.file content) => return content

/-- Whether a path leads to a directory. -/
def isDirectory (t : FileTree) (path : String) : Bool :=
  match t.locate path with
  | .error _ => false
  | .ok p => t.at? p matches some .directory

/-- The tree with a new directory. -/
def makeDirectory (t : FileTree) (path : String) : Except FileError FileTree := do
  let e ← t.target path
  match e.name with
  | none => throw .alreadyExists
  | some name =>
    let p := e.directory ++ [name]
    if (t.at? p).isSome then throw .alreadyExists else return t.place p .directory

/-- The tree with a file of this content. -/
def write (t : FileTree) (path content : String) : Except FileError FileTree := do
  let e ← t.target path
  match e.name with
  | none => throw .isDirectory
  | some name =>
    let p := e.directory ++ [name]
    match t.at? p, e.hasSlash with
    | some .directory, _ => throw .isDirectory
    | some (.file _), true => throw .notDirectory
    | none, true => throw .isDirectory
    | _, false => return t.place p (.file content.toUTF8)

/-- The tree with a file moved. -/
def rename (t : FileTree) (source target : String) : Except FileError FileTree := do
  let s ← t.target source
  let e ← t.target target
  match s.name, e.name with
  | some sourceName, some name =>
    let sourcePlace := s.directory ++ [sourceName]
    let p := e.directory ++ [name]
    match t.at? sourcePlace with
    | none => throw .notFound
    | some .directory => throw .isDirectory
    | some (.file content) =>
      if s.hasSlash || e.hasSlash then throw .notDirectory
      else
        match t.at? p with
        | some .directory => throw .isDirectory
        | _ =>
          if sourcePlace = p then return t
          else return (t.without sourcePlace).place p (.file content)
  | _, _ => throw .busy

/-- The tree without a file. -/
def remove (t : FileTree) (path : String) : Except FileError FileTree := do
  let e ← t.target path
  match e.name with
  | none => throw .isDirectory
  | some name =>
    let p := e.directory ++ [name]
    match t.at? p, e.hasSlash with
    | none, _ => throw .notFound
    | some .directory, _ => throw .isDirectory
    | some (.file _), true => throw .notDirectory
    | some (.file _), false => return t.without p

/-- An operation on the state; one that fails leaves it as it is. -/
def attempt (operation : FileTree → Except FileError FileTree) :
    StateM FileTree (Except FileError Unit) := fun t =>
  match operation t with
  | .ok t' => (.ok (), t')
  | .error e => (.error e, t)

/-- A tree in memory as a file system. -/
instance : FileAccess (StateM FileTree) where
  read path := fun t => (t.read path, t)
  makeDirectory path := attempt (·.makeDirectory path)
  isDirectory path := fun t => (t.isDirectory path, t)
  write path content := attempt (·.write path content)
  rename source target := attempt (·.rename source target)
  remove path := attempt (·.remove path)

end FileTree

end ServiceSpec
