import ServiceSpec.CommandLine.Arguments
import ServiceSpec.Jobs.Run

/-!
# The command line

What the program does for a command line, over any file system.

## Main definitions

* `Outcome` : what the caller of the program sees beside files.
* `CommandLine.perform` : the outcome of a command line.
-/

namespace ServiceSpec

/-- What the caller of the program sees beside files. -/
structure Outcome where
  /-- The exit code: 0 for success, 1 for a failure, 2 for a misuse. -/
  code : UInt8 := 0
  output : String := ""
  messages : String := ""
  deriving DecidableEq, Repr

namespace CommandLine

/-! ## Reports -/

/-- Lines put behind a margin.  A line without text has none unless it is the last one. -/
def margined (margin : List Char) : List (List Char) → List (List Char)
  | [] => []
  | [line] => [margin ++ line]
  | line :: rest => (if line.isEmpty then [] else margin ++ line) :: margined margin rest

/-- A cause behind its number, its further lines behind a margin as wide. -/
def numbered (n : Nat) (text : String) : String :=
  let number := (toString n).toList
  let label := List.replicate (4 - number.length) ' ' ++ number ++ [':', ' ']
  let lines := match Text.pieces '\n' text.toList with
    | [] => []
    | line :: rest => (label ++ line) :: margined (List.replicate label.length ' ') rest
  String.ofList (Text.joined '\n' lines)

/-- The report of an error: its wording and those of its causes, numbered. -/
def report (texts : List String) : String :=
  "Error: " ++ String.join (texts.mapIdx fun n text => "\n" ++ numbered n text)

/-- The outcome of a failure. -/
def failure (texts : List String) : Outcome where
  code := 1
  messages := report texts ++ "\n"

/-! ## Messages -/

/-- The name and version of the program. -/
def versionText : String := "blueprint 0.1.0\n"

/-- A summary of the commands. -/
def usageText : String :=
  "Usage: blueprint [-v] <COMMAND>\n\n" ++
  "Commands:\n" ++
  "  run      [-c <CONFIG>]                        Does the jobs of a configuration\n" ++
  "  expand   <SPEC> [-f json|yaml] [-o <OUTPUT>]  Writes the expanded specification\n" ++
  "  openapi  <SPEC> [-f json|yaml] [-o <OUTPUT>]  Writes the OpenAPI document\n" ++
  "  schema   [-o <OUTPUT>]                        Writes the schema of specifications\n"

/-- What is said of the jobs that were done. -/
def progressText (reports : List JobReport) : String :=
  String.join (reports.map fun r =>
    "expanded " ++ r.specification ++ "\n" ++
      String.join (r.written.map fun path => "  wrote " ++ path ++ "\n"))

/-! ## Commands -/

/-- The outcome of a command line that asks for no command. -/
def refused : Refusal → Outcome
  | .help => { output := usageText }
  | .version => { output := versionText }
  | .misuse => { code := 2, messages := usageText }

variable {m : Type → Type} [Monad m] [FileAccess m]

/-- Gives a text out, or writes it to a file. -/
def deliver (text : String) : Option String → m Outcome
  | none => return { output := text }
  | some path => do
    match ← writeAtomic path text with
    | .ok () => return { messages := "wrote " ++ path ++ "\n" }
    | .error e =>
      let e := JobError.write e
      return failure (("writing " ++ path) :: e.message :: e.causes)

/-- The outcome of a job error. -/
def failed (e : JobError) : Outcome :=
  failure (e.message :: e.causes)

/-- The outcome of a command. -/
def execute : Command → m Outcome
  | .run configuration => do
    match ← Configuration.load configuration with
    | .error e =>
      return failure (("loading " ++ configuration) :: e.message :: e.causes)
    | .ok c =>
      match ← c.run with
      | .error e => return failed e
      | .ok reports => return { messages := progressText reports }
  | .expand specification format output => do
    match ← Service.loadExpanded specification with
    | .error e => return failed e
    | .ok s =>
      let format := (format.or (output.bind SourceFormat.ofPath?)).getD .yaml
      deliver (s.render format) output
  | .openApi specification format output => do
    match ← Service.loadExpanded specification with
    | .error e => return failed e
    | .ok s =>
      match s.renderOpenApi format with
      | .error e => return failed e
      | .ok text => deliver text output
  | .schema output => deliver schemaText output

/-- The outcome of a command line. -/
def perform (arguments : List String) : m Outcome :=
  match Command.ofArguments arguments with
  | .error r => return refused r
  | .ok c => execute c

end CommandLine

end ServiceSpec
