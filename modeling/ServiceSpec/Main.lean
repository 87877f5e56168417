import ServiceSpec.CommandLine

/-!
# The program

The command line over the real file system.
-/

namespace ServiceSpec

/-- The error that the system gives a number. -/
def FileError.ofCode (code : UInt32) (details : String) : FileError :=
  match code with
  | 2 => notFound
  | 16 => busy
  | 17 => alreadyExists
  | 20 => notDirectory
  | 21 => isDirectory
  | 36 => nameTooLong
  | 39 => notEmpty
  | _ => other (details ++ " (os error " ++ toString code ++ ")")

/-- The error of an operation that the system refuses. -/
def FileError.ofSystem : IO.Error → FileError
  | .noFileOrDirectory _ code details | .interrupted _ code details
  | .alreadyExists _ code details | .invalidArgument _ code details
  | .permissionDenied _ code details | .resourceExhausted _ code details
  | .inappropriateType _ code details | .noSuchThing _ code details
  | .otherError code details | .resourceBusy code details | .resourceVanished code details
  | .unsupportedOperation code details | .hardwareFault code details
  | .unsatisfiedConstraints code details | .illegalOperation code details
  | .protocolError code details | .timeExpired code details => ofCode code details
  | .unexpectedEof => other "unexpected end of file"
  | .userError text => other text

/-- An operation whose error is a value. -/
def attempt {α : Type} (operation : IO α) : BaseIO (Except FileError α) := do
  return (← operation.toBaseIO).mapError .ofSystem

/-- The real file system. -/
instance : FileAccess BaseIO where
  read path := attempt (IO.FS.readBinFile path)
  makeDirectory path := attempt (IO.FS.createDir path)
  isDirectory path := do
    match ← (IO.FS.realPath path).toBaseIO with
    | .ok p => p.isDir
    | .error _ => return false
  write path content := attempt (IO.FS.writeFile path content)
  rename source target := attempt (IO.FS.rename source target)
  remove path := attempt (IO.FS.removeFile path)

end ServiceSpec

/-- Does what the arguments ask for. -/
def main (arguments : List String) : IO UInt32 := do
  let o ← (ServiceSpec.CommandLine.perform arguments : BaseIO ServiceSpec.Outcome)
  (← IO.getStdout).putStr o.output
  (← IO.getStderr).putStr o.messages
  return o.code.toUInt32
