import ServiceSpec.Expansion
import ServiceSpec.Jobs.Configuration
import ServiceSpec.Load
import ServiceSpec.OpenApi

/-!
# Running of jobs

A job loads a specification, expands it once and makes every output from the complete service.  Jobs
are done in order, up to the first error; what was written before it stays.

## Main definitions

* `Service.loadExpanded` : the complete service that a file stands for.
* `Service.output` : the text of an output.
* `Job.run`, `Configuration.run` : the effects of jobs, and what was done.
-/

namespace ServiceSpec

/-- Why a job cannot be done. -/
inductive JobError where
  | load (e : LoadError)
  | expansion (e : ExpansionError)
  /-- An object and an enum claim the same component schema. -/
  | nameCollision (name : String)
  | write (e : WriteFailure)

/-- The wordings of what lies behind an expansion error, the nearest cause first. -/
def ExpansionError.causes : ExpansionError → List String
  | invalid errors => [ValidationError.summary errors]
  | _ => []

namespace JobError

/-- The wording of a job error. -/
def message : JobError → String
  | load e => e.message
  | expansion e => "Expansion failed: " ++ e.message
  | nameCollision name =>
    "Naming collision for schema '" ++ name ++
      "': declared both as an object and as an enum. Suggestion: rename one of them"
  | write e => "Failed to write output file '" ++ e.path ++ "': " ++ e.error.message

/-- The wordings of what lies behind a job error, the nearest cause first. -/
def causes : JobError → List String
  | load e => e.causes
  | expansion e => e.message :: e.causes
  | nameCollision _ => []
  | write e => [e.error.message]

end JobError

/-- The OpenAPI document of a service as a text. -/
def Service.renderOpenApi (format : SourceFormat) (s : Service) : Except JobError String :=
  match s.openApi with
  | .error name => .error (.nameCollision name)
  | .ok d => .ok (d.render format)

/-- The schema of specifications as a text. -/
def schemaText : String :=
  specificationSchema.render .json

/-- The text of an output of a complete service.  The path says the format of an overlay, which is
otherwise YAML. -/
def Service.output (s : Service) : OutputKind → (path : String) → Except JobError String
  | .overlay, path => .ok (s.render ((SourceFormat.ofPath? path).getD .yaml))
  | .openApiJson, _ => s.renderOpenApi .json
  | .openApiYaml, _ => s.renderOpenApi .yaml
  | .schema, _ => .ok schemaText

/-- What a job has done: the paths written, in order. -/
structure JobReport where
  specification : String
  written : List String
  deriving DecidableEq, Repr

variable {m : Type → Type} [Monad m] [FileAccess m]

/-- The complete service that a file stands for. -/
def Service.loadExpanded (path : String) : m (Except JobError Service) := do
  match ← Service.load path with
  | .error e => return .error (.load e)
  | .ok s => return s.expand.mapError .expansion

namespace Job

/-- Makes outputs of a complete service, up to the first error. -/
def writeOutputs (s : Service) : List (OutputKind × String) → m (Except JobError Unit)
  | [] => return .ok ()
  | (kind, path) :: rest => do
    match s.output kind path with
    | .error e => return .error e
    | .ok text =>
      match ← writeAtomic path text with
      | .error e => return .error (.write e)
      | .ok () => writeOutputs s rest

/-- Does a job. -/
def run (j : Job) : m (Except JobError JobReport) := do
  match ← Service.loadExpanded j.specification with
  | .error e => return .error e
  | .ok s =>
    match ← writeOutputs s j.outputs with
    | .error e => return .error e
    | .ok () =>
      return .ok { specification := j.specification, written := j.outputs.map (·.2) }

end Job

/-- Does jobs in order, up to the first error. -/
def runJobs : List Job → m (Except JobError (List JobReport))
  | [] => return .ok []
  | j :: rest => do
    match ← j.run with
    | .error e => return .error e
    | .ok report =>
      match ← runJobs rest with
      | .error e => return .error e
      | .ok reports => return .ok (report :: reports)

/-- Does the jobs of a configuration. -/
def Configuration.run (c : Configuration) : m (Except JobError (List JobReport)) :=
  runJobs c.jobs

end ServiceSpec
