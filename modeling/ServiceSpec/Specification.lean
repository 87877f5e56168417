import ServiceSpec.Files.Path
import ServiceSpec.Json.Printer
import ServiceSpec.Json.Reader
import ServiceSpec.Model.Forms
import ServiceSpec.Validation
import ServiceSpec.Yaml.Printer
import ServiceSpec.Yaml.Reader

/-!
# Specifications

A specification is the text of a service, in one of two formats.

## Main definitions

* `SourceFormat` : the formats.
* `SourceFormat.ofPath?` : the format that the name of a file says.
* `Service.parse` : the valid service that a text stands for, with its types resolved.
* `Service.render` : the text of a service.
-/

namespace ServiceSpec

/-- The formats of specifications. -/
inductive SourceFormat where
  | yaml
  | json
  deriving DecidableEq, Repr

/-- The format that the name of a file says by its extension, in any case. -/
def SourceFormat.ofPath? (path : String) : Option SourceFormat :=
  match (Path.extension? path).map (·.map Char.toLower) with
  | some "yaml" | some "yml" => some yaml
  | some "json" => some json
  | _ => none

/-- The text of a document in a format. -/
def Document.render (format : SourceFormat) (d : Document) : String :=
  match format with
  | .yaml => Yaml.render d
  | .json => Json.render d

/-- What is wrong with a text as such. -/
inductive SyntaxError where
  | yaml (e : Yaml.Error)
  | json (e : Json.Error)

namespace SyntaxError

/-- The wording of a syntax error. -/
def message : SyntaxError → String
  | yaml e => e.message
  | json e => e.message

/-- The line and column of a syntax error, both zero where it has no place. -/
def position : SyntaxError → Nat × Nat
  | yaml e => e.position
  | json e => (e.position.map fun p => (p.line, p.column)).getD (0, 0)

end SyntaxError

/-- Why a text is no specification. -/
inductive SpecificationError where
  | malformed (e : SyntaxError)
  | invalid (errors : List ValidationError)

/-- The wording of the error, which names where the text is from. -/
def SpecificationError.message (origin : String) : SpecificationError → String
  | malformed e =>
    origin ++ ":" ++ toString e.position.1 ++ ":" ++ toString e.position.2 ++ ": " ++ e.message
  | invalid errors => "Invalid specification '" ++ origin ++ "': " ++ ValidationError.summary errors

namespace Service

/-- The service that a text describes, before any check of its structure. -/
def read (format : SourceFormat) (source : String) : Except SyntaxError Service :=
  match format with
  | .yaml => (Yaml.read form source).mapError .yaml
  | .json => (Json.read form source).mapError .json

/-- The valid service that a text stands for, with its types resolved. -/
def parse (format : SourceFormat) (source : String) : Except SpecificationError Service := do
  let s ← (read format source).mapError .malformed
  s.validateAndResolve.mapError .invalid

/-- The text of a service. -/
def render (format : SourceFormat) (s : Service) : String :=
  (form.encode s).render format

end Service

end ServiceSpec
