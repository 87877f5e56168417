import ServiceSpec.Form.Encoding

/-!
# Published schemas

The JSON Schema of a form, for editors that complete and check documents.  A form with a title is
published as a definition of its own, which other schemas refer to.

## Main definitions

* `Form.schema` : the schema that stands where a value of the form is expected.
* `Form.definitions` : the definitions that the schema refers to, each once, in order of first use.
* `Form.publish` : the schema of a whole document.
-/

namespace ServiceSpec

namespace Schema

/-- The name of the dialect that schemas are published in. -/
def dialect : String :=
  "https:" ++ "//json-schema.org/draft/2020-12/schema"

/-- A reference to a definition. -/
def reference (name : String) : Document :=
  .object [("$ref", .text ("#/$defs/" ++ name))]

/-- A schema that admits null too. -/
def orNull : Document → Document
  | .object (("type", .text t) :: rest) =>
    .object (("type", Document.texts [t, "null"]) :: rest)
  | schema => .object [("anyOf", .list [schema, .object [("type", .text "null")]])]

/-- Adds what is known of a member to the schema of its values: its description, and its default
if that would be written. -/
def ofMember {α : Type} (member : Member α) (encode : α → Document) (schema : Document) :
    Document :=
  let default : List (String × Document) := match member.absent with
    | some a => if member.omits a then [] else [("default", encode a)]
    | none => []
  match schema with
  | .object entries =>
    .object (entries ++ Document.textEntry "description" member.description ++ default)
  | other => other

/-- The schema of a record. -/
def ofRecord (properties : List (String × Document)) (required : List String)
    (description : String) : List (String × Document) :=
  [("type", .text "object"), ("properties", .object properties)] ++
    (if required.isEmpty then [] else [("required", Document.texts required)]) ++
    Document.textEntry "description" description

/-- The schema of a choice between names.  Notes on single names make each a schema of its own. -/
def ofChoice (choices : List (String × String)) (description : String) :
    List (String × Document) :=
  (if choices.all (·.2 = "") then
    [("type", .text "string"), ("enum", Document.texts (choices.map (·.1)))]
  else
    [("oneOf", .list (choices.map fun c => .object
      ([("type", .text "string"), ("const", .text c.1)] ++
        Document.textEntry "description" c.2)))]) ++
    Document.textEntry "description" description

end Schema

/-- The names of the members that must be given. -/
def Members.required : {σ τ : Type} → Members σ τ → List String
  | _, _, .nil => []
  | _, _, .cons member _ rest =>
    if member.absent.isNone then member.key :: rest.required else rest.required

/-- The schema that stands where a value of the form is expected. -/
def Form.schema : {α : Type} → Form α → Document
  | _, .text _ => .object [("type", .text "string")]
  | _, .word title _ _ => Schema.reference title.name
  | _, .flag => .object [("type", .text "boolean")]
  | _, .code => .object
      [("type", .text "integer"), ("format", .text "uint16"), ("minimum", .integer 0),
        ("maximum", .integer 65535)]
  | _, .choice title _ _ _ => Schema.reference title.name
  | _, .optional item => Schema.orNull item.schema
  | _, .list item => .object [("type", .text "array"), ("items", item.schema)]
  | _, .record title _ _ _ _ => Schema.reference title.name
  | _, .extended title _ _ _ _ => Schema.reference title.name

/-- The schemas of the members, under their names. -/
def Members.properties : {σ τ : Type} → Members σ τ → List (String × Document)
  | _, _, .nil => []
  | _, _, .cons member form rest =>
    (member.key, Schema.ofMember member form.encode form.schema) :: rest.properties

/-- The definition that a form is published as. -/
def Form.definition? : {α : Type} → Form α → Option (String × List (String × Document))
  | _, .word title _ _ =>
    some (title.name, [("type", .text "string"), ("minLength", .integer 1)] ++
      Document.textEntry "description" title.description)
  | _, .choice title values name note =>
    some (title.name, Schema.ofChoice (values.map fun a => (name a, note a)) title.description)
  | _, .record title _ members _ _ =>
    some (title.name, Schema.ofRecord members.properties members.required title.description)
  | _, .extended title base members _ _ =>
    some (title.name, Schema.ofRecord (base.properties ++ members.properties)
      (base.required ++ members.required) title.description)
  | _, _ => none

mutual

/-- Adds the definitions that the schema of a form refers to, each before those it refers to. -/
def Form.define : {α : Type} → Form α → List (String × Document) → List (String × Document)
  | _, .optional item, defs => item.define defs
  | _, .list item, defs => item.define defs
  | _, .record title strict members build parts, defs =>
    match (Form.record title strict members build parts).definition? with
    | some (name, schema) =>
      if (defs.lookup name).isSome then defs
      else members.define (defs ++ [(name, .object schema)])
    | none => defs
  | _, .extended title base members build parts, defs =>
    match (Form.extended title base members build parts).definition? with
    | some (name, schema) =>
      if (defs.lookup name).isSome then defs
      else members.define (base.define (defs ++ [(name, .object schema)]))
    | none => defs
  | _, form, defs =>
    match form.definition? with
    | some (name, schema) =>
      if (defs.lookup name).isSome then defs else defs ++ [(name, .object schema)]
    | none => defs

/-- Adds the definitions that the schemas of the members refer to. -/
def Members.define :
    {σ τ : Type} → Members σ τ → List (String × Document) → List (String × Document)
  | _, _, .nil, defs => defs
  | _, _, .cons _ form rest, defs => rest.define (form.define defs)

end

/-- The definitions that the members of a form refer to. -/
def Form.definitions : {α : Type} → Form α → List (String × Document)
  | _, .record _ _ members _ _ => members.define []
  | _, .extended _ base members _ _ => members.define (base.define [])
  | _, .optional item => item.definitions
  | _, .list item => item.definitions
  | _, _ => []

/-- The schema of documents of a form. -/
def Form.publish {α : Type} (form : Form α) : Document :=
  match form.definition? with
  | some (name, schema) => .object
      (schema ++ [("title", .text name),
        ("$schema", .text Schema.dialect),
        ("$defs", .object form.definitions)])
  | none => form.schema

end ServiceSpec
