import ServiceSpec.Files.Path

/-!
# Access to files

What a program asks of a file system.  The same program runs on a tree in memory, where its effects
can be reasoned about, and on a real file system.

## Main definitions

* `FileError` : why an operation on a file fails.
* `FileAccess` : the operations.
-/

namespace ServiceSpec

/-- Why an operation on a file fails. -/
inductive FileError where
  | notFound
  | busy
  | alreadyExists
  | notDirectory
  | isDirectory
  | nameTooLong
  | notEmpty
  | zeroByte
  | notText
  /-- There is no directory to start from. -/
  | noParent
  | other (text : String)
  deriving DecidableEq, Repr

/-- The wording of a file error. -/
def FileError.message : FileError → String
  | notFound => "No such file or directory (os error 2)"
  | busy => "Device or resource busy (os error 16)"
  | alreadyExists => "File exists (os error 17)"
  | notDirectory => "Not a directory (os error 20)"
  | isDirectory => "Is a directory (os error 21)"
  | nameTooLong => "File name too long (os error 36)"
  | notEmpty => "Directory not empty (os error 39)"
  | zeroByte => "file name contained an unexpected NUL byte"
  | notText => "stream did not contain valid UTF-8"
  | noParent => "failed to create whole tree"
  | other text => text

/-- The operations of a file system. -/
class FileAccess (m : Type → Type) where
  /-- The bytes of a file. -/
  read : String → m (Except FileError ByteArray)
  /-- Makes a directory in one that exists. -/
  makeDirectory : String → m (Except FileError Unit)
  isDirectory : String → m Bool
  /-- Makes a file with this content, or gives it to a file that exists. -/
  write : String → String → m (Except FileError Unit)
  /-- Moves a file, over one that exists. -/
  rename : (source target : String) → m (Except FileError Unit)
  /-- Removes a file. -/
  remove : String → m (Except FileError Unit)

namespace FileAccess

variable {m : Type → Type} [Monad m] [FileAccess m]

/-- The text of a file. -/
def readText (path : String) : m (Except FileError String) := do
  match ← read path with
  | .error e => return .error e
  | .ok bytes =>
    match String.fromUTF8? bytes with
    | some text => return .ok text
    | none => return .error .notText

/-- An error does not count where the path is a directory already. -/
def unlessDirectory (path : String) (e : FileError) : m (Except FileError Unit) := do
  if ← isDirectory path then return .ok () else return .error e

/-- Makes a directory, and first those it is in as far as they are missing.  Fuel bounds how many
there are. -/
def makeDirectoriesWith : Nat → String → m (Except FileError Unit)
  | 0, _ => return .error .noParent
  | fuel + 1, path => do
    if path = "" then return .ok ()
    match ← makeDirectory path with
    | .ok () => return .ok ()
    | .error .notFound =>
      match Path.parent? path with
      | none => return .error .noParent
      | some parent =>
        match ← makeDirectoriesWith fuel parent with
        | .error e => return .error e
        | .ok () =>
          match ← makeDirectory path with
          | .ok () => return .ok ()
          | .error e => unlessDirectory path e
    | .error e => unlessDirectory path e

/-- Makes a directory, and first those it is in as far as they are missing. -/
def makeDirectories (path : String) : m (Except FileError Unit) :=
  makeDirectoriesWith (path.length + 1) path

end FileAccess

/-- A file that could not be written: the path that the failing operation was on. -/
structure WriteFailure where
  path : String
  error : FileError
  deriving DecidableEq, Repr

/-- The path a file is written to before it takes its place. -/
def temporaryPath (path : String) : String :=
  path ++ ".tmp"

section

variable {m : Type → Type} [Monad m] [FileAccess m]

open FileAccess

/-- Makes the directory that a file is to be in. -/
def prepareDirectory (path : String) : m (Except WriteFailure Unit) := do
  match Path.parent? path with
  | none | some "" => return .ok ()
  | some parent => return (← makeDirectories parent).mapError fun e => ⟨parent, e⟩

/-- Writes a file so that it is seen either as it was or with its whole new content: the content
goes into a file beside it, which then takes its place. -/
def writeAtomic (path content : String) : m (Except WriteFailure Unit) := do
  match ← prepareDirectory path with
  | .error e => return .error e
  | .ok () =>
    match ← write (temporaryPath path) content with
    | .error e => return .error ⟨temporaryPath path, e⟩
    | .ok () =>
      match ← rename (temporaryPath path) path with
      | .ok () => return .ok ()
      | .error e =>
        let _ ← remove (temporaryPath path)
        return .error ⟨path, e⟩

end

end ServiceSpec
