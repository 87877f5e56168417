import ServiceSpec.Model.Forms
import ServiceSpec.Proofs.FormRoundTrip
import ServiceSpec.Proofs.Resolution

/-!
# Reading a service that was written

A document keeps of a type no more than its name, so a service comes back with every type read
anew: the name loses the white space around it and stands for a primitive if it names one.  A type
with a blank name is not read at all.  All the rest comes back as it was.  Whether a member is
written depends on its value, so for each member the value that is left out has to be the one that
its absence stands for.

What a service restores is what its types restore, whatever that is, so each part of a service is
shown to restore itself with its types changed by any function that types are restored by.

## Main definitions

* `TypeRef.reread`: the type that is read where this one was written
* `TypesRestored`: the types of some fields are restored as a function says

## Main results

* `Service.restores`: a service restores what its types restore
* `Service.decode_encode_reread`: a written service is read with its types read anew
-/

namespace ServiceSpec

/-! ## Kinds of members -/

namespace Member

variable {key description : String}

theorem restores_text (s : String) : (Member.text key description).Restores plainText s s :=
  restores_written (Form.restores_text _ s)

theorem restores_optionalText (s : String) :
    (Member.optionalText key description).Restores plainText s s := by
  apply restores_of (Form.restores_text _ s)
  intro ho
  have hs : s = "" := by simpa [Member.optionalText] using ho
  rw [hs]
  rfl

variable {α : Type} {item : Form α} {as bs : List α}

theorem restores_list (h : (Form.list item).Restores as bs) :
    (Member.list key description).Restores (.list item) as bs :=
  restores_written h

/-- A list may be left out if it comes back empty only where it was empty. -/
theorem restores_optionalList (h : (Form.list item).Restores as bs) (he : as = [] → bs = []) :
    (Member.optionalList key description).Restores (.list item) as bs := by
  apply restores_of h
  intro ho
  have has : as = [] := by simpa [Member.optionalList] using ho
  rw [he has]
  rfl

theorem restores_optionalList_map {g : α → α} (h : ∀ a ∈ as, item.Restores a (g a)) :
    (Member.optionalList key description).Restores (.list item) as (as.map g) :=
  restores_optionalList (Form.restores_list h) fun has => by rw [has]; rfl

theorem restores_optionalList_self (h : ∀ a ∈ as, item.Restores a a) :
    (Member.optionalList key description).Restores (.list item) as as :=
  restores_optionalList (Form.restores_list_self h) id

end Member

/-! ## Vocabulary -/

theorem Modifier.restores (m : Modifier) : Modifier.form.Restores m m :=
  Form.restores_choice (by decide) (by cases m <;> simp [all])

theorem Operation.restores (op : Operation) : Operation.form.Restores op op :=
  Form.restores_choice (by decide) (by cases op <;> simp [all])

theorem Method.restores (m : Method) : Method.form.Restores m m :=
  Form.restores_choice (by decide) (by cases m <;> simp [all])

namespace TypeRef

/-- The type that is read where this one was written. -/
def reread (t : TypeRef) : TypeRef :=
  ofName (Text.trim t.name)

/-- The name of a type is read unless it is blank. -/
theorem restores_reread {t : TypeRef} (h : ¬ Text.isBlank t.name) :
    TypeRef.form.Restores t t.reread := by
  apply Form.restores_word
  rw [TypeRef.read, if_neg h]
  rfl

end TypeRef

/-! ## Fields -/

/-- The field with its type changed. -/
def Field.mapType (g : TypeRef → TypeRef) (f : Field) : Field :=
  { f with type := g f.type }

/-- Documents of the types of these fields are read as the changed types. -/
def TypesRestored (g : TypeRef → TypeRef) (fields : List Field) : Prop :=
  ∀ f ∈ fields, TypeRef.form.Restores f.type (g f.type)

variable {g : TypeRef → TypeRef}

namespace Field

theorem restores_members {f : Field} (h : TypeRef.form.Restores f.type (g f.type)) :
    members.Restores f.parts (f.mapType g).parts :=
  .cons (Member.restores_text f.name) <|
  .cons (Member.restores_optionalText f.description) <|
  .cons (Member.restores_written h) <|
  .cons (Member.restores_optionalText f.default) <|
  .cons (Member.restores_optionalText f.sample) <|
  .cons (Member.restores_optionalList_self fun m _ => Modifier.restores m) .nil

theorem restores {f : Field} (h : TypeRef.form.Restores f.type (g f.type)) :
    form.Restores f (f.mapType g) :=
  Form.restores_record (by decide) rfl (restores_members h)

theorem restores_list {fields : List Field} (h : TypesRestored g fields) :
    (Form.list form).Restores fields (fields.map (mapType g)) :=
  Form.restores_list fun f hf => restores (h f hf)

theorem restores_optionalList {key description : String} {fields : List Field}
    (h : TypesRestored g fields) :
    (Member.optionalList key description).Restores (.list form) fields (fields.map (mapType g)) :=
  Member.restores_optionalList_map fun f hf => restores (h f hf)

end Field

/-- The operations stand beside the members of the field and are read apart from them. -/
theorem ResourceField.restores {f : ResourceField}
    (h : TypeRef.form.Restores f.field.type (g f.field.type)) :
    form.Restores f { f with field := f.field.mapType g } :=
  Form.restores_extended (by decide) rfl (Field.restores_members h) <|
    .cons (Member.restores_list (Form.restores_list_self fun op _ => Operation.restores op)) .nil

/-! ## Objects, enums and servers -/

theorem Object.restores {o : Object} (h : TypesRestored g o.fields) :
    form.Restores o { o with fields := o.fields.map (Field.mapType g) } :=
  Form.restores_record (by decide) rfl <|
    .cons (Member.restores_text o.name) <|
    .cons (Member.restores_optionalText o.description) <|
    .cons (Member.restores_list (Field.restores_list h)) .nil

theorem EnumValue.restores (v : EnumValue) : form.Restores v v :=
  Form.restores_record (by decide) rfl <|
    .cons (Member.restores_text v.name) <|
    .cons (Member.restores_optionalText v.description) .nil

theorem Enum.restores (e : Enum) : form.Restores e e :=
  Form.restores_record (by decide) rfl <|
    .cons (Member.restores_text e.name) <|
    .cons (Member.restores_optionalText e.description) <|
    .cons (Member.restores_written (Form.restores_list_self fun v _ => EnumValue.restores v)) .nil

theorem Server.restores (s : Server) : form.Restores s s :=
  Form.restores_record (by decide) rfl <|
    .cons (Member.restores_text s.url) <|
    .cons (Member.restores_optionalText s.description) .nil

/-! ## Endpoints -/

theorem ErrorResponse.restores (e : ErrorResponse) : form.Restores e e :=
  Form.restores_record (by decide) rfl <|
    .cons (Member.restores_written (Form.restores_code e.statusCode)) <|
    .cons (Member.restores_text e.code) <|
    .cons (Member.restores_text e.description) <|
    .cons (Member.restores_text e.bodyObject) .nil

theorem Request.restores {r : Request}
    (h : TypesRestored g (r.headers ++ r.pathParams ++ r.queryParams ++ r.bodyParams)) :
    form.Restores r
      { r with
        headers := r.headers.map (Field.mapType g)
        pathParams := r.pathParams.map (Field.mapType g)
        queryParams := r.queryParams.map (Field.mapType g)
        bodyParams := r.bodyParams.map (Field.mapType g) } := by
  simp only [TypesRestored, List.forall_mem_append] at h
  obtain ⟨⟨⟨hheaders, hpath⟩, hquery⟩, hbody⟩ := h
  exact Form.restores_record (by decide) rfl <|
    .cons (Member.restores_optionalText r.contentType) <|
    .cons (Field.restores_optionalList hheaders) <|
    .cons (Field.restores_optionalList hpath) <|
    .cons (Field.restores_optionalList hquery) <|
    .cons (Field.restores_optionalList hbody) .nil

/-- A response without a body object is told from one whose body object has an empty name. -/
theorem Response.restores_bodyObject {key description : String} (name? : Option String) :
    Member.Restores ⟨key, some none, Option.isNone, description⟩ (.optional plainText)
      name? name? := by
  cases name? with
  | none => exact Member.restores_of (Form.restores_none plainText) fun _ => rfl
  | some name =>
    have htext : (plainText.encode name).shape ≠ .null := fun h => nomatch h
    exact Member.restores_of (Form.restores_some htext (Form.restores_text _ name))
      fun ho => nomatch ho

theorem Response.restores {r : Response} (h : TypesRestored g (r.headers ++ r.bodyFields)) :
    form.Restores r
      { r with
        headers := r.headers.map (Field.mapType g)
        bodyFields := r.bodyFields.map (Field.mapType g) } := by
  obtain ⟨hheaders, hbody⟩ := List.forall_mem_append.mp h
  exact Form.restores_record (by decide) rfl <|
    .cons (Member.restores_optionalText r.contentType) <|
    .cons (Member.restores_written (Form.restores_code r.statusCode)) <|
    .cons (Field.restores_optionalList hheaders) <|
    .cons (Field.restores_optionalList hbody) <|
    .cons (restores_bodyObject r.bodyObject) .nil

theorem Endpoint.restores {e : Endpoint} (h : TypesRestored g e.fields) :
    form.Restores e (e.mapFields (Field.mapType g)) := by
  rw [fields, List.append_assoc _ e.response.headers] at h
  obtain ⟨hrequest, hresponse⟩ := List.forall_mem_append.mp h
  exact Form.restores_record (by decide) rfl <|
    .cons (Member.restores_text e.name) <|
    .cons (Member.restores_optionalText e.title) <|
    .cons (Member.restores_optionalText e.summary) <|
    .cons (Member.restores_optionalText e.description) <|
    .cons (Member.restores_written (Method.restores e.method)) <|
    .cons (Member.restores_written (Form.restores_text _ e.path)) <|
    .cons (Member.restores_written (Request.restores hrequest)) <|
    .cons (Member.restores_written (Response.restores hresponse)) <|
    .cons (Member.restores_optionalList_self fun r _ => ErrorResponse.restores r) .nil

/-! ## Resources and services -/

/-- The flag is left out where it is down, which is what its absence stands for. -/
theorem Resource.restores_skipAutoColumns {key description : String} (b : Bool) :
    Member.Restores ⟨key, some false, (!·), description⟩ .flag b b := by
  apply Member.restores_of (Form.restores_flag b)
  intro ho
  have hb : b = false := by simpa using ho
  rw [hb]

theorem Resource.restores {r : Resource}
    (hfields : ∀ f ∈ r.fields, TypeRef.form.Restores f.field.type (g f.field.type))
    (hendpoints : ∀ e ∈ r.endpoints, TypesRestored g e.fields) :
    form.Restores r (r.mapLocatedFields fun _ => Field.mapType g) :=
  Form.restores_record (by decide) rfl <|
    .cons (Member.restores_text r.name) <|
    .cons (Member.restores_optionalText r.description) <|
    .cons (Member.restores_list (Form.restores_list_self fun op _ => Operation.restores op)) <|
    .cons (Member.restores_list
      (Form.restores_list fun f hf => ResourceField.restores (hfields f hf))) <|
    .cons (Member.restores_list
      (Form.restores_list fun e he => Endpoint.restores (hendpoints e he))) <|
    .cons (restores_skipAutoColumns r.skipAutoColumns) .nil

namespace Service

/-- A service restores what its types restore. -/
theorem restores {s : Service}
    (h : ∀ p ∈ s.locatedFields, TypeRef.form.Restores p.2.type (g p.2.type)) :
    form.Restores s (s.mapTypes g) := by
  obtain ⟨hobjects, hfields, hendpoints⟩ :=
    (forall_locatedFields (P := fun f => TypeRef.form.Restores f.type (g f.type))).mp h
  exact Form.restores_record (by decide) rfl <|
    .cons (Member.restores_text s.name) <|
    .cons (Member.restores_optionalText s.version) <|
    .cons (Member.restores_optionalList_self fun server _ => Server.restores server) <|
    .cons (Member.restores_list (Form.restores_list_self fun e _ => Enum.restores e)) <|
    .cons (Member.restores_list
      (Form.restores_list fun o ho => Object.restores (hobjects o ho))) <|
    .cons (Member.restores_list (Form.restores_list fun r hr =>
      Resource.restores (hfields r hr) (hendpoints r hr))) .nil

/-- **A written service is read with its types read anew**, and with all the rest as it was. -/
theorem decode_encode_reread {s : Service}
    (h : ∀ p ∈ s.locatedFields, ¬ Text.isBlank p.2.type.name) :
    form.decode (form.encode s) = .ok (s.mapTypes TypeRef.reread) := by
  apply Form.decode_encode
  apply restores
  intro p hp
  exact TypeRef.restores_reread (h p hp)

/-- A service of values that are rarely written: empty and repeated ones, a body object with an
empty name, codes at both ends, and types whose names have white space around them. -/
def oddments : Service where
  name := ""
  servers := [⟨"", ""⟩, ⟨"", ""⟩]
  enums := [⟨"Mood", "", [⟨"Calm", " "⟩, ⟨"Calm", ""⟩]⟩, ⟨"Mood", "", []⟩]
  objects := [
    { name := "Entry"
      fields := [
        { name := "day", type := .object " Date\n", default := " ", modifiers := [.array, .array] },
        { name := "mood", type := .enum "Mood", sample := "\t" }] }]
  resources := [
    { name := "Entry"
      operations := [.read, .read]
      fields := [
        { field := { name := "mood", type := .named "Mood" }, operations := [.delete, .delete] },
        { field := { name := "note", type := .named "String", modifiers := [.nullable] } }]
      endpoints := [
        { name := "Count"
          method := .patch
          request := {
            contentType := " ", headers := [{ name := "", type := .primitive .uuid }],
            bodyParams := [{ name := "since", type := .object "\u00a0Entry" }] }
          response := { statusCode := 0, bodyObject := some "" }
          errorResponses := [⟨65535, "", "", "Missing"⟩, ⟨65535, "", "", "Missing"⟩] },
        { name := "Count", method := .get, path := "/", response := Response.empty 65535 }]
      skipAutoColumns := true }]

theorem decode_encode_oddments :
    (∀ p ∈ oddments.locatedFields, ¬ Text.isBlank p.2.type.name) ∧
      form.decode (form.encode oddments) = .ok (oddments.mapTypes TypeRef.reread) := by
  have h : ∀ p ∈ oddments.locatedFields, ¬ Text.isBlank p.2.type.name := by decide
  exact ⟨h, decode_encode_reread h⟩

end Service

end ServiceSpec
