import ServiceSpec.Files.Access
import ServiceSpec.Model.Forms
import ServiceSpec.Yaml.Reader

/-!
# Configurations

A configuration lists jobs.  Each names a specification and the files to make from it, by paths
relative to the directory of the configuration.

## Main definitions

* `Job`, `Configuration` : the jobs to be done.
* `Configuration.ofYaml` : the configuration that a text describes.
* `Configuration.load` : the configuration in a file.
-/

namespace ServiceSpec

/-- What can be made from a specification. -/
inductive OutputKind where
  /-- The complete service, as a specification. -/
  | overlay
  | openApiJson
  | openApiYaml
  /-- The schema of specifications. -/
  | schema
  deriving DecidableEq, Repr

/-- A specification and the files to make from it. -/
structure Job where
  specification : String
  /-- The kinds of output with their paths, in the order in which they are made. -/
  outputs : List (OutputKind × String)
  deriving DecidableEq, Repr

/-- The jobs to be done. -/
structure Configuration where
  jobs : List Job
  deriving DecidableEq, Repr

namespace Job

/-- A path in a document. -/
def pathForm : Form String :=
  .text "path string"

/-- The path of an output that may be left out. -/
def outputMember (key : String) : Member (Option String) where
  key
  absent := some none
  omits := Option.isNone

/-- The outputs whose paths are given. -/
def outputsOf (overlay json yaml schema : Option String) : List (OutputKind × String) :=
  [(OutputKind.overlay, overlay), (.openApiJson, json), (.openApiYaml, yaml),
    (.schema, schema)].filterMap fun (kind, path?) => path?.map fun path => (kind, path)

/-- The layout of a job. -/
def form : Form Job :=
  .record ⟨"Job", ""⟩ true
    (.cons (.text "specification") pathForm <|
    .cons (outputMember "overlay") (.optional pathForm) <|
    .cons (outputMember "openapiJson") (.optional pathForm) <|
    .cons (outputMember "openapiYaml") (.optional pathForm) <|
    .cons (outputMember "schema") (.optional pathForm) .nil)
    (fun (specification, overlay, json, yaml, schema, _) =>
      { specification, outputs := outputsOf overlay json yaml schema })
    (fun j =>
      (j.specification, j.outputs.lookup .overlay, j.outputs.lookup .openApiJson,
        j.outputs.lookup .openApiYaml, j.outputs.lookup .schema, ()))

/-- The job with its paths taken relative to a directory. -/
def within (directory : String) (j : Job) : Job where
  specification := Path.join directory j.specification
  outputs := j.outputs.map fun (kind, path) => (kind, Path.join directory path)

end Job

/-- Why there is no configuration. -/
inductive ConfigurationError where
  | read (path : String) (e : FileError)
  | malformed (e : Yaml.Error)
  | noJobs
  /-- The job for a specification has nothing to make. -/
  | noOutputs (specification : String)

namespace ConfigurationError

/-- The wording of a configuration error. -/
def message : ConfigurationError → String
  | read path e => "Failed to read configuration '" ++ path ++ "': " ++ e.message
  | malformed e => "Invalid configuration: " ++ e.message
  | noJobs => "Invalid configuration: no jobs configured"
  | noOutputs specification =>
    "Invalid configuration: job for '" ++ specification ++ "' has no outputs"

/-- The wordings of what lies behind a configuration error, the nearest cause first. -/
def causes : ConfigurationError → List String
  | read _ e => [e.message]
  | _ => []

end ConfigurationError

namespace Configuration

/-- The layout of a configuration. -/
def form : Form Configuration :=
  .record ⟨"Config", ""⟩ true
    (.cons ⟨"jobs", none, fun _ => false, ""⟩ (.list Job.form) .nil)
    (fun (jobs, _) => { jobs })
    (fun c => (c.jobs, ()))

/-- The configuration that a text describes.  Its paths are relative to a directory. -/
def ofYaml (source directory : String) : Except ConfigurationError Configuration := do
  let c ← (Yaml.read form source).mapError .malformed
  if c.jobs.isEmpty then throw .noJobs
  match c.jobs.find? (·.outputs.isEmpty) with
  | some j => throw (.noOutputs j.specification)
  | none => return { jobs := c.jobs.map (·.within directory) }

/-- The configuration in a file. -/
def load {m : Type → Type} [Monad m] [FileAccess m] (path : String) :
    m (Except ConfigurationError Configuration) := do
  match ← FileAccess.readText path with
  | .error e => return .error (.read path e)
  | .ok source => return ofYaml source ((Path.parent? path).getD "")

end Configuration

end ServiceSpec
