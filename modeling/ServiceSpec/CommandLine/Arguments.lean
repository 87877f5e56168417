import ServiceSpec.Specification

/-!
# Arguments of the command line

A command line names a command, then its options and at most one plain argument, in any order.

## Main definitions

* `Command` : what can be asked for.
* `Command.ofArguments` : the command that a command line asks for.
-/

namespace ServiceSpec

/-- What can be asked for. -/
inductive Command where
  /-- Does the jobs of a configuration. -/
  | run (configuration : String)
  /-- Writes the complete service of a specification.  Without a format the name of the output says
  it. -/
  | expand (specification : String) (format : Option SourceFormat) (output : Option String)
  /-- Writes the OpenAPI document of a specification. -/
  | openApi (specification : String) (format : SourceFormat) (output : Option String)
  /-- Writes the schema of specifications. -/
  | schema (output : Option String)
  deriving DecidableEq, Repr

/-- Why a command line asks for no command. -/
inductive Refusal where
  | help
  | version
  | misuse
  deriving DecidableEq, Repr

namespace CommandLine

/-! ## The form of an argument -/

/-- An argument by its form. -/
inductive Argument where
  | plain (text : String)
  /-- Two hyphens: all that follows is plain. -/
  | divider
  /-- A long option, with the text after an equals sign. -/
  | long (name : String) (value : Option String)
  /-- Letters of short options. -/
  | short (letters : List Char)
  deriving DecidableEq, Repr

/-- The text after the first equals sign. -/
def valueAfterSign : List Char → Option String
  | [] => none
  | '=' :: rest => some (String.ofList rest)
  | _ :: rest => valueAfterSign rest

/-- An argument by its form.  A single hyphen is plain. -/
def Argument.ofString (s : String) : Argument :=
  match s.toList with
  | ['-', '-'] => divider
  | '-' :: '-' :: rest => long (String.ofList (rest.takeWhile (· ≠ '='))) (valueAfterSign rest)
  | '-' :: c :: rest => short (c :: rest)
  | _ => plain s

/-! ## Options -/

/-- The options that take a value. -/
inductive Key where
  | config
  | format
  | output
  deriving DecidableEq, Repr

/-- The long name of an option. -/
def Key.name : Key → String
  | config => "config"
  | format => "format"
  | output => "output"

/-- The letter of an option. -/
def Key.letter : Key → Char
  | config => 'c'
  | format => 'f'
  | output => 'o'

/-- The commands by name. -/
inductive Verb where
  | run
  | expand
  | openapi
  | schema
  deriving DecidableEq, Repr

namespace Verb

/-- Every command, in the order in which help lists them. -/
def all : List Verb :=
  [run, expand, openapi, schema]

/-- The name of a command. -/
def name : Verb → String
  | run => "run"
  | expand => "expand"
  | openapi => "openapi"
  | schema => "schema"

/-- The command of that name. -/
def ofName? (s : String) : Option Verb :=
  all.find? (·.name = s)

/-- The options of a command. -/
def keys : Verb → List Key
  | run => [.config]
  | expand | openapi => [.format, .output]
  | schema => [.output]

/-- Whether the command is about a specification. -/
def takesSpecification : Verb → Bool
  | expand | openapi => true
  | run | schema => false

end Verb

/-- The format that the value of an option names. -/
def formatOfName? : String → Option SourceFormat
  | "json" => some .json
  | "yaml" => some .yaml
  | _ => none

/-- Whether an option can have a value. -/
def Key.accepts : Key → String → Bool
  | format, value => (formatOfName? value).isSome
  | config, value | output, value => value ≠ ""

/-! ## Reading -/

/-- What is known of a command after some of its arguments. -/
structure Progress where
  specification : Option String := none
  values : List (Key × String) := []
  /-- The option whose value is to come. -/
  pending : Option Key := none
  /-- Whether all that follows is plain. -/
  isDivided : Bool := false

namespace Progress

/-- Gives an option its value.  An option is given once. -/
def setValue (p : Progress) (key : Key) (value : String) : Except Refusal Progress :=
  if (p.values.lookup key).isNone && key.accepts value then
    .ok { p with values := (key, value) :: p.values, pending := none }
  else .error .misuse

/-- Takes a plain argument. -/
def addPlain (verb : Verb) (p : Progress) (text : String) : Except Refusal Progress :=
  if verb.takesSpecification && p.specification.isNone && text ≠ "" then
    .ok { p with specification := some text }
  else .error .misuse

/-- Takes a long option. -/
def addLong (verb : Verb) (p : Progress) (name : String) (value : Option String) :
    Except Refusal Progress :=
  match verb.keys.find? (·.name = name), value with
  | some key, some v => p.setValue key v
  | some key, none => .ok { p with pending := some key }
  | none, none =>
    if name = "help" then .error .help
    else if name = "verbose" then .ok p
    else .error .misuse
  | none, some _ => .error .misuse

/-- Takes letters of short options.  What follows the letter of an option that takes a value is that
value. -/
def addShort (verb : Verb) (p : Progress) : List Char → Except Refusal Progress
  | [] => .ok p
  | c :: rest =>
    match verb.keys.find? (·.letter = c) with
    | some key =>
      match rest with
      | [] => .ok { p with pending := some key }
      | '=' :: value => p.setValue key (String.ofList value)
      | value => p.setValue key (String.ofList value)
    | none =>
      if c = 'v' then p.addShort verb rest
      else if c = 'h' then .error .help
      else .error .misuse

/-- Takes an argument. -/
def add (verb : Verb) (p : Progress) (argument : String) : Except Refusal Progress :=
  if p.isDivided then p.addPlain verb argument
  else
    match Argument.ofString argument, p.pending with
    | .plain text, some key => p.setValue key text
    | _, some _ => .error .misuse
    | .plain text, none => p.addPlain verb text
    | .divider, none => .ok { p with isDivided := true }
    | .long name value, none => p.addLong verb name value
    | .short letters, none => p.addShort verb letters

/-- The value of an option. -/
def value? (p : Progress) (key : Key) : Option String :=
  p.values.lookup key

/-- The format that was asked for. -/
def format? (p : Progress) : Option SourceFormat :=
  (p.value? .format).bind formatOfName?

/-- The command once all its arguments are known. -/
def finish (verb : Verb) (p : Progress) : Except Refusal Command :=
  if p.pending.isSome then .error .misuse
  else
    match verb, p.specification with
    | .run, _ => .ok (.run ((p.value? .config).getD "blueprint.yaml"))
    | .schema, _ => .ok (.schema (p.value? .output))
    | .expand, some s => .ok (.expand s p.format? (p.value? .output))
    | .openapi, some s => .ok (.openApi s (p.format?.getD .json) (p.value? .output))
    | _, none => .error .misuse

end Progress

/-- A command with its arguments. -/
def ofVerb (verb : Verb) (arguments : List String) : Except Refusal Command := do
  (← arguments.foldlM (Progress.add verb) {}).finish verb

/-- Help on a command, or on all of them. -/
def helpOn : List String → Refusal
  | [] => .help
  | [name] => if name = "help" || (Verb.ofName? name).isSome then .help else .misuse
  | _ => .misuse

/-- What letters before the command ask for. -/
def leadingLetters : List Char → Except Refusal Unit
  | [] => .ok ()
  | 'v' :: rest => leadingLetters rest
  | 'h' :: _ => .error .help
  | 'V' :: _ => .error .version
  | _ => .error .misuse

end CommandLine

open CommandLine

/-- The command that a command line asks for. -/
def Command.ofArguments : List String → Except Refusal Command
  | [] => .error .misuse
  | argument :: rest =>
    match Argument.ofString argument with
    | .plain name =>
      match Verb.ofName? name with
      | some verb => ofVerb verb rest
      | none => .error (if name = "help" then helpOn rest else .misuse)
    | .short letters => do
      leadingLetters letters
      ofArguments rest
    | .long "verbose" none => ofArguments rest
    | .long "help" none => .error .help
    | .long "version" none => .error .version
    | _ => .error .misuse

end ServiceSpec
