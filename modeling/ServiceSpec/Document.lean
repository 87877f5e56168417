/-!
# Documents

A document is the value that a data file holds: text, numbers, lists and objects whose entries keep
their order.

## Main definitions

* `Document` : the values.
* `Document.set` : an entry of an object given its value, at its old place or at the end.
-/

namespace ServiceSpec

/-- A value of a data file. -/
inductive Document where
  | null
  | bool (value : Bool)
  | integer (value : Int)
  | float (value : Float)
  | text (value : String)
  | list (items : List Document)
  | object (entries : List (String × Document))
  deriving Repr, Inhabited

namespace Document

/-- Gives a key its value.  A key that is there already keeps its place. -/
def set (key : String) (value : Document) : List (String × Document) → List (String × Document)
  | [] => [(key, value)]
  | (k, v) :: rest => if k = key then (key, value) :: rest else (k, v) :: set key value rest

/-- The entries in which a repeated key keeps its first place and its last value. -/
def ofEntries (entries : List (String × Document)) : List (String × Document) :=
  entries.foldl (fun done e => set e.1 e.2 done) []

/-- The value of the first entry with that key. -/
def find? (d : Document) (key : String) : Option Document :=
  match d with
  | object entries => entries.lookup key
  | _ => none

/-- A list of texts. -/
def texts (values : List String) : Document :=
  list (values.map text)

/-- A text entry, left out when the text is empty. -/
def textEntry (key value : String) : List (String × Document) :=
  if value = "" then [] else [(key, text value)]

end Document

end ServiceSpec
