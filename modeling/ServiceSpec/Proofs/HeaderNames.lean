import ServiceSpec.Proofs.CamelCase
import ServiceSpec.Proofs.OperationIds

/-!
# Names of headers

An endpoint takes headers with its request and gives headers with its response.  The response shows
a header under its name.  The request shows it as a parameter, and parameters have the keys of
their fields, which are made for payloads and paths: the camel case of the name.  So a header is
shown alike on both sides only if its name is in camel case.  That is unusual for headers: a name
with a hyphen never is.

Of several headers of a response with one name the last one is shown, and the response itself is
shown under its status unless an error response has the same one.

## Main definitions

* `Document.parametersIn`: the parameters of an operation in a place
* `Naming.IsCamelCase`: a name in camel case

## Main results

* `parametersIn_header_operation`: every header of a request is a parameter
* `at?_headers_success_iff`: what a response shows under the name of a header
* `headers_alike_iff`: which headers have their names on both sides
-/

namespace ServiceSpec

open Document

/-- The parameters of an operation in a place, in order. -/
def Document.parametersIn (operation : Document) (place : ParameterPlace) : List Document :=
  (((operation.find? "parameters").map items).getD []).filter (·.textAt? "in" = some place.name)

/-! ## Requests -/

namespace Field

theorem textAt?_name_parameter (f : Field) (place : ParameterPlace) :
    (f.parameter place).textAt? "name" = some (Naming.camelCase f.name) :=
  rfl

theorem textAt?_in_parameter (f : Field) (place : ParameterPlace) :
    (f.parameter place).textAt? "in" = some place.name :=
  rfl

theorem filter_parameters (place place' : ParameterPlace) (fields : List Field) :
    (fields.map (·.parameter place)).filter (·.textAt? "in" = some place'.name) =
      if place = place' then fields.map (·.parameter place) else [] := by
  have hname : place.name = place'.name ↔ place = place' := by
    cases place <;> cases place' <;> decide
  rw [List.filter_map]
  simp only [Function.comp_def, textAt?_in_parameter, Option.some.injEq, hname]
  split_ifs with h <;> simp [h]

end Field

namespace Endpoint

variable {r : Resource} {e : Endpoint}

theorem find?_parameters (r : Resource) (e : Endpoint) : (e.operation r).find? "parameters" =
    if e.request.parameters = [] then none else some (.list e.request.parameters) := by
  rw [find?_eq_lookup, operation, entries]
  simp only [List.cons_append, List.lookup_append, lookup_cons, lookup_textEntry, lookup_ite]
  cases e.request.parameters <;> simp

theorem find?_responses (r : Resource) (e : Endpoint) :
    (e.operation r).find? "responses" = some (.object e.responses) := by
  rw [find?_eq_lookup, operation, entries]
  simp only [List.cons_append, List.lookup_append, lookup_cons, lookup_textEntry, lookup_ite]
  cases e.request.parameters <;> simp [lookup_cons]

/-- **Every header of a request is a parameter**, in order, and there are no others. -/
theorem parametersIn_header_operation (r : Resource) (e : Endpoint) :
    (e.operation r).parametersIn .header = e.request.headers.map (·.parameter .header) := by
  have hitems : (((e.operation r).find? "parameters").map items).getD [] =
      e.request.parameters := by
    rw [find?_parameters]
    split
    · exact Eq.symm ‹_›
    · rfl
  rw [parametersIn, hitems, Request.parameters, List.filter_append, List.filter_append,
    Field.filter_parameters, Field.filter_parameters, Field.filter_parameters]
  rfl

/-! ## Responses -/

theorem find?_headers_success (e : Endpoint) : e.success.find? "headers" =
    if e.response.headers = [] then none
    else some (.object (ofEntries (e.response.headers.map fun h =>
      (h.name, .object [("schema", h.schema)])))) := by
  rw [find?_eq_lookup, success, entries]
  cases e.response.headers <;> cases e.response.schema? <;> simp [lookup_cons]

end Endpoint

/-- The headers of a response that no later one has the name of: those that are shown. -/
def Response.shownHeaders (r : Response) : List Field :=
  r.headers.pwFilter fun a b => a.name ≠ b.name

namespace Endpoint

variable {r : Resource} {e : Endpoint}

/-- **What a response shows under a name** is a header of that name, the last one of them. -/
theorem at?_headers_success_iff {name : String} {d : Document} :
    e.success.at? ["headers", name] = some d ↔
      ∃ h ∈ e.response.shownHeaders, h.name = name ∧ .object [("schema", h.schema)] = d := by
  have hfind : e.success.at? ["headers", name] =
      (e.response.headers.map fun h =>
        (h.name, Document.object [("schema", h.schema)])).reverse.lookup name := by
    rw [at?_cons, find?_headers_success]
    split_ifs with hnone
    · simp [hnone]
    · rw [Option.bind_some, at?_cons, find?_eq_lookup, entries, lookup_ofEntries]
      exact Option.bind_fun_some _
  rw [hfind, lookup_reverse_map_eq_some_iff, Response.shownHeaders]

/-- Every header is shown, or a later one with its name is. -/
theorem exists_shownHeaders {h : Field} (hh : h ∈ e.response.headers) :
    ∃ shown ∈ e.response.shownHeaders, shown.name = h.name := by
  by_contra hnone
  push Not at hnone
  have hall := (List.forall_mem_pwFilter (R := fun a b : Field => a.name ≠ b.name)
    (fun {x y z} hxz => by
      by_cases hxy : x.name = y.name
      · exact .inr (hxy ▸ hxz)
      · exact .inl hxy) h e.response.headers).mp fun b hb => (hnone b hb).symm
  exact hall h hh rfl

theorem toString_injective {a b : UInt16} (h : toString a = toString b) : a = b := by
  have hdigits : Nat.toDigits 10 a.toNat = Nat.toDigits 10 b.toNat := by
    rw [← Nat.toList_repr, ← Nat.toList_repr]
    exact congrArg String.toList h
  have hvalue := congrArg (Nat.ofDigitChars 10 · 0) hdigits
  simp only [Nat.ofDigitChars_toDigits (b := 10) (by decide) (by decide)] at hvalue
  exact UInt16.toNat_inj.mp hvalue

/-- The successful response stands under its status unless an error response has the same one. -/
theorem at?_success (r : Resource)
    (h : ∀ x ∈ e.errorResponses, x.statusCode ≠ e.response.statusCode) :
    (e.operation r).at? ["responses", toString e.response.statusCode] = some e.success := by
  have hnone : (e.errorResponses.map fun x =>
      (toString x.statusCode, x.document)).reverse.lookup (toString e.response.statusCode) =
        none := by
    rw [List.lookup_eq_none_iff]
    intro p hp
    obtain ⟨x, hx, rfl⟩ := List.mem_map.mp (List.mem_reverse.mp hp)
    simpa using fun heq => h x hx (toString_injective heq).symm
  rw [at?_cons, find?_responses, Option.bind_some, at?_cons, find?_eq_lookup, entries, responses,
    lookup_ofEntries, List.reverse_cons, List.lookup_append, hnone, lookup_cons, if_pos rfl]
  rfl

end Endpoint

/-! ## Both sides -/

/-- A name in camel case. -/
def Naming.IsCamelCase (s : String) : Prop :=
  Chars.IsCamelCase s.toList

theorem Naming.camelCase_eq_self_iff {s : String} (ha : Text.IsAscii s.toList) :
    camelCase s = s ↔ IsCamelCase s := by
  rw [IsCamelCase, ← Chars.camelCase_eq_self_iff ha, ← String.toList_inj, camelCase,
    String.toList_ofList]

namespace Endpoint

/-- **Which headers have their names on both sides.**  The header parameters of an operation are the
headers of the request, each under the camel case of its name.  Every header of the response stands
under its name, with the schema of the last header of that name, in the response that the operation
shows under the status as long as no error response has the same one.  So a header of both sides is
shown under one name if and only if its name is in camel case. -/
theorem headers_alike_iff (r : Resource) (e : Endpoint) :
    ((e.operation r).parametersIn .header = e.request.headers.map (·.parameter .header) ∧
      ∀ h ∈ e.request.headers,
        (h.parameter .header).textAt? "name" = some (Naming.camelCase h.name)) ∧
    ((∀ h ∈ e.response.headers, ∃ shown ∈ e.response.shownHeaders, shown.name = h.name ∧
        e.success.at? ["headers", h.name] = some (.object [("schema", shown.schema)])) ∧
      ((∀ x ∈ e.errorResponses, x.statusCode ≠ e.response.statusCode) →
        (e.operation r).at? ["responses", toString e.response.statusCode] = some e.success)) ∧
    ∀ h ∈ e.request.headers, ∀ h' ∈ e.response.headers, h.name = h'.name →
      ((h.parameter .header).textAt? "name" = some h'.name ↔
        Naming.camelCase h.name = h.name) ∧
      (Text.IsAscii h.name.toList →
        (Naming.camelCase h.name = h.name ↔ Naming.IsCamelCase h.name)) := by
  refine ⟨⟨parametersIn_header_operation r e, fun h _ => h.textAt?_name_parameter .header⟩,
    ⟨fun h hh => ?_, at?_success r⟩, fun h _ h' _ hname => ⟨?_, Naming.camelCase_eq_self_iff⟩⟩
  · obtain ⟨shown, hs, hname⟩ := exists_shownHeaders hh
    exact ⟨shown, hs, hname, at?_headers_success_iff.mpr ⟨shown, hs, hname, rfl⟩⟩
  · rw [h.textAt?_name_parameter, Option.some.injEq, hname]

/-- A header that requests pass on to responses. -/
def requestId : Field where
  name := "X-Request-ID"
  type := .primitive .uuid

/-- A header whose name is in camel case. -/
def etag : Field where
  name := "etag"
  type := .primitive .string

/-- An endpoint with both headers on both sides. -/
def ping : Endpoint where
  name := "Ping"
  method := .get
  path := "/ping"
  request := { headers := [requestId, etag] }
  response := { statusCode := 204, headers := [requestId, etag] }

theorem headers_alike_ping :
    etag ∈ ping.request.headers ∧ etag ∈ ping.response.headers ∧
      Text.IsAscii etag.name.toList ∧ Naming.IsCamelCase etag.name ∧
      (etag.parameter .header).textAt? "name" = some etag.name ∧
      (ping.operation { name := "Call" }).at? ["responses", "204"] = some ping.success ∧
      ∃ shown ∈ ping.response.shownHeaders, shown.name = etag.name ∧
        ping.success.at? ["headers", etag.name] = some (.object [("schema", shown.schema)]) := by
  have hrequest : etag ∈ ping.request.headers := by decide
  have hresponse : etag ∈ ping.response.headers := by decide
  have ha : Text.IsAscii etag.name.toList := by decide
  have hcamel : Naming.camelCase etag.name = etag.name := by decide +kernel
  obtain ⟨-, ⟨hshown, hsuccess⟩, halike⟩ := headers_alike_iff { name := "Call" } ping
  obtain ⟨hnamed, hascii⟩ := halike etag hrequest etag hresponse rfl
  exact ⟨hrequest, hresponse, ha, (hascii ha).mp hcamel, hnamed.mpr hcamel,
    hsuccess (by simp [ping]), hshown etag hresponse⟩

/-- The header of the request has another name than that of the response. -/
theorem ping_requestId_renamed :
    requestId ∈ ping.request.headers ∧ requestId ∈ ping.response.headers ∧
      ((ping.operation { name := "Call" }).parametersIn .header).map (·.textAt? "name") =
        [some "xRequestId", some "etag"] ∧
      ((ping.operation { name := "Call" }).at?
        ["responses", "204", "headers", "X-Request-ID"]).isSome := by
  decide +kernel

end Endpoint

end ServiceSpec
