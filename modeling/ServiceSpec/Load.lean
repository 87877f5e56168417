import ServiceSpec.Files.Access
import ServiceSpec.Specification

/-!
# Loading of specifications

The service in a file, whose name says the format.

## Main definitions

* `Service.load` : the service in a file.
* `LoadError` : why there is none.
-/

namespace ServiceSpec

/-- Why there is no service in a file. -/
inductive LoadError where
  | read (path : String) (e : FileError)
  | unsupportedFormat (path : String)
  | specification (path : String) (e : SpecificationError)

namespace LoadError

/-- The wording of a load error. -/
def message : LoadError → String
  | read path e => "Failed to read specification '" ++ path ++ "': " ++ e.message
  | unsupportedFormat path =>
    "Unsupported specification format '" ++ path ++ "': expected .yaml, .yml or .json"
  | specification path e => e.message path

/-- The wordings of what lies behind a load error, the nearest cause first. -/
def causes : LoadError → List String
  | read _ e => [e.message]
  | specification _ (.invalid errors) => [ValidationError.summary errors]
  | _ => []

end LoadError

/-- The service in a file. -/
def Service.load {m : Type → Type} [Monad m] [FileAccess m] (path : String) :
    m (Except LoadError Service) := do
  match SourceFormat.ofPath? path with
  | none => return .error (.unsupportedFormat path)
  | some format =>
    match ← FileAccess.readText path with
    | .error e => return .error (.read path e)
    | .ok source => return (parse format source).mapError (.specification path)

end ServiceSpec
