import ServiceSpec.Form.Problem

/-!
# Forms

A form describes how the values of a type are laid out in a document.  Readers, the writer and the
published schema are all obtained from the same form, so they cannot disagree.

## Main definitions

* `Form` : the layout of the values of a type.
* `Members` : the members of a record.  `Members σ τ` reads a `τ` by filling slots of type `σ`.
* `Members.finish` : the members once every slot that has a value is filled.
-/

namespace ServiceSpec

/-- The published name of a form, with its description. -/
structure Title where
  name : String
  description : String := ""

/-- What is known of a member of a record beside its form. -/
structure Member (α : Type) where
  key : String
  /-- The value when the member is left out.  Without one it must be given. -/
  absent : Option α := none
  /-- Whether a value is left out in writing. -/
  omits : α → Bool := fun _ => false
  description : String := ""

mutual

/-- The layout of the values of a type. -/
inductive Form : Type → Type 1 where
  /-- Any text.  The noun says what is expected. -/
  | text (noun : String) : Form String
  /-- A non-blank text that stands for a value. -/
  | word {α : Type} (title : Title) (read : String → Except Problem α) (write : α → String) :
    Form α
  /-- A truth value. -/
  | flag : Form Bool
  /-- A number from 0 to 65535. -/
  | code : Form UInt16
  /-- One of several values, given by name.  Each may have a description. -/
  | choice {α : Type} (title : Title) (values : List α) (name note : α → String) : Form α
  /-- A value or null. -/
  | optional {α : Type} (item : Form α) : Form (Option α)
  /-- A list of values. -/
  | list {α : Type} (item : Form α) : Form (List α)
  /-- Named members.  A strict record refuses other names. -/
  | record {α σ τ : Type} (title : Title) (strict : Bool) (members : Members σ τ)
    (build : τ → α) (parts : α → τ) : Form α
  /-- The members of a base record, and further members beside them on the same level. -/
  | extended {α σ τ σ' τ' : Type} (title : Title) (base : Members σ' τ')
    (members : Members σ τ) (build : τ' × τ → α) (parts : α → τ' × τ) : Form α

/-- The members of a record, in order. -/
inductive Members : Type → Type → Type 1 where
  | nil : Members Unit Unit
  | cons {α σ τ : Type} (member : Member α) (form : Form α) (rest : Members σ τ) :
    Members (Option α × σ) (α × τ)

end

namespace Members

variable {σ τ : Type}

/-- The names of the members, in order. -/
def keys : {σ τ : Type} → Members σ τ → List String
  | _, _, nil => []
  | _, _, cons member _ rest => member.key :: rest.keys

/-- The slots before anything is read. -/
def start : {σ τ : Type} → Members σ τ → σ
  | _, _, nil => ()
  | _, _, cons _ _ rest => (none, rest.start)

/-- The members from the filled slots.  An empty slot takes the value for an absent member; the
first one without is a problem, stated by its position and name. -/
def finish (missing : Nat → String → Problem) :
    {σ τ : Type} → Members σ τ → Nat → σ → Except Problem τ
  | _, _, nil, _, _ => .ok ()
  | _, _, cons member _ rest, i, (slot, slots) =>
    match slot.or member.absent with
    | some a => do return (a, ← rest.finish missing (i + 1) slots)
    | none => .error (missing i member.key)

end Members

end ServiceSpec
