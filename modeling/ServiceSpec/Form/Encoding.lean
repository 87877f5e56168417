import ServiceSpec.Document
import ServiceSpec.Form.Reading

/-!
# Documents of values

The document that a form makes of a value, and the value that it reads back.

## Main definitions

* `Form.encode` : the document of a value.
* `Form.decode` : the value of a document.
-/

namespace ServiceSpec

/-- The outside of a document. -/
def Document.shape : Document → Shape Document
  | null => .null
  | bool b => .bool b
  | integer n => .integer n
  | float x => .float x
  | text s => .text s
  | list items => .list items
  | object entries => .map (entries.map fun e => (text e.1, e.2))

/-- The value that a document is of a form. -/
def Form.decode {α : Type} (form : Form α) (d : Document) : Except Problem α :=
  form.read (ValueReader.format Document.shape false) d

mutual

/-- The document of a value. -/
def Form.encode : {α : Type} → Form α → α → Document
  | _, .text _, s => .text s
  | _, .word _ _ write, a => .text (write a)
  | _, .flag, b => .bool b
  | _, .code, n => .integer n.toNat
  | _, .choice _ _ name _, a => .text (name a)
  | _, .optional item, a? =>
    match a? with
    | none => .null
    | some a => item.encode a
  | _, .list item, as => .list (as.map item.encode)
  | _, .record _ _ members _ parts, a => .object (members.encode (parts a))
  | _, .extended _ base members _ parts, a =>
    .object (base.encode (parts a).1 ++ members.encode (parts a).2)

/-- The entries of the members that are not left out. -/
def Members.encode : {σ τ : Type} → Members σ τ → τ → List (String × Document)
  | _, _, .nil, _ => []
  | _, _, .cons member form rest, (a, t) =>
    if member.omits a then rest.encode t else (member.key, form.encode a) :: rest.encode t

end

end ServiceSpec
