import ServiceSpec.Form.Basic

/-!
# Reading by a form

A notation says how to read texts, lists and records; a form says which of them make up a value.
Together they read a value.

## Main definitions

* `Format` : what a notation can read.
* `Form.read` : the values of a form read in a notation.
* `Shape` : the outside of a value whose parts are of some type.
* `ofShape` : the notation of values that are in memory already.
-/

namespace ServiceSpec

/-- The outside of a value. -/
inductive Shape (δ : Type) where
  | null
  | bool (value : Bool)
  | integer (value : Int)
  | float (value : Float)
  | text (value : String)
  | list (items : List δ)
  | map (entries : List (δ × δ))

/-- How a shape is named in a problem. -/
def Shape.found {δ : Type} : Shape δ → Found
  | null => .null
  | bool b => .bool b
  | integer n => .integer n
  | float x => .float x
  | text s => .text s
  | list _ => .list
  | map _ => .map

/-- A member of a record as a reader sees it. -/
structure Slot (m : Type → Type) (σ : Type) where
  key : String
  isFilled : σ → Bool
  /-- Reads the value of the member into its slot. -/
  read : m (σ → σ)

/-- The slot of a member that stands after another. -/
def Slot.after {m : Type → Type} [Functor m] {σ : Type} (β : Type) (s : Slot m σ) :
    Slot m (β × σ) where
  key := s.key
  isFilled p := s.isFilled p.2
  read := (fun f p => (p.1, f p.2)) <$> s.read

/-- The two ways to write the members of a record: under their names, or in order. -/
inductive Layout where
  | keyed
  | positional

/-- A record as a reader sees it. -/
structure RecordReader (m : Type → Type) (σ τ : Type) where
  title : Title
  /-- Whether other names are refused. -/
  strict : Bool
  slots : List (Slot m σ)
  start : σ
  finish : Layout → σ → Except Problem τ

namespace RecordReader

variable {m : Type → Type} {σ τ : Type}

/-- What is expected where the record is. -/
def expected (r : RecordReader m σ τ) : String :=
  "struct " ++ r.title.name

/-- The names of the members, in order. -/
def keys (r : RecordReader m σ τ) : List String :=
  r.slots.map (·.key)

/-- The slot of that name. -/
def slot? (r : RecordReader m σ τ) (key : String) : Option (Slot m σ) :=
  r.slots.find? (·.key = key)

/-- The problem of a name that no member has, if the record refuses it. -/
def refusal? (r : RecordReader m σ τ) (key : String) : Option Problem :=
  if r.strict then some (.unknownField key r.keys) else none

end RecordReader

/-- What a notation can read, with effects of a monad.  A record that extends another keeps what
it does not know itself as raw values. -/
structure Format (m : Type → Type) where
  Raw : Type
  shape : Raw → Shape Raw
  raise : {α : Type} → Problem → m α
  text : (noun : String) → m String
  flag : m Bool
  code : m UInt16
  choice : {α : Type} → (title : Title) → (values : List α) → (name : α → String) → m α
  optional : {α : Type} → m α → m (Option α)
  list : {α : Type} → m α → m (List α)
  record : {σ τ : Type} → RecordReader m σ τ → m τ
  extended : {σ τ ρ : Type} → RecordReader m σ τ →
    (base : List (String × Raw) → Except Problem ρ) → m (ρ × τ)

/-- The value of that name. -/
def pickByName {α : Type} (values : List α) (name : α → String) (s : String) :
    Except Problem α :=
  match values.find? (name · = s) with
  | some a => .ok a
  | none => .error (.unknownVariant s (values.map name))

/-- The value at that position. -/
def pickByIndex {α : Type} (values : List α) (n : Nat) : Except Problem α :=
  match values[n]? with
  | some a => .ok a
  | none =>
    .error (.invalidValue (.integer n) ("variant index 0 <= i < " ++ toString values.length))

/-- The code with that number. -/
def codeOfInt (n : Int) : Except Problem UInt16 :=
  if 0 ≤ n ∧ n < 65536 then .ok n.toNat.toUInt16 else .error (.invalidValue (.integer n) "u16")

/-- A reader of values in memory. -/
abbrev ValueReader (δ : Type) : Type → Type :=
  ReaderT δ (Except Problem)

namespace ValueReader

variable {δ : Type} (shape : δ → Shape δ)

/-- Fills the slot of an entry, if a member has that name. -/
def fill {σ τ : Type} (r : RecordReader (ValueReader δ) σ τ) (s : σ) (key : String) (value : δ) :
    Except Problem (Option σ) :=
  match r.slot? key with
  | some slot =>
    if slot.isFilled s then .error (.duplicateField key)
    else do return some ((← slot.read value) s)
  | none =>
    match r.refusal? key with
    | some p => .error p
    | none => .ok none

/-- The text of a key. -/
def keyText (key : δ) : Except Problem String :=
  match shape key with
  | .text s => .ok s
  | other => .error (.invalidType other.found "field identifier")

/-- Fills the slots from the entries, and keeps the entries that no slot takes. -/
def fillAll {σ τ : Type} (r : RecordReader (ValueReader δ) σ τ) :
    List (δ × δ) → σ → Except Problem (σ × List (String × δ))
  | [], s => .ok (s, [])
  | (key, value) :: rest, s => do
    let name ← keyText shape key
    match ← fill r s name value with
    | some s' => fillAll r rest s'
    | none =>
      let (s', others) ← fillAll r rest s
      return (s', (name, value) :: others)

/-- Fills the slots from named entries, and drops the entries that no slot takes. -/
def fillNamed {σ τ : Type} (r : RecordReader (ValueReader δ) σ τ) :
    List (String × δ) → σ → Except Problem σ
  | [], s => .ok s
  | (name, value) :: rest, s => do
    match ← fill r s name value with
    | some s' => fillNamed r rest s'
    | none => fillNamed r rest s

/-- Fills the slots in order. -/
def fillInOrder {σ : Type} : List (Slot (ValueReader δ) σ) → List δ → σ → Except Problem σ
  | slot :: slots, value :: values, s => do fillInOrder slots values ((← slot.read value) s)
  | _, _, s => .ok s

/-- The value that a key stands for. -/
def pickByKey {α : Type} (values : List α) (name : α → String) (key : δ) : Except Problem α :=
  match shape key with
  | .text s => pickByName values name s
  | .integer n =>
    if 0 ≤ n then pickByIndex values n.toNat
    else .error (.invalidType (.integer n) "variant identifier")
  | other => .error (.invalidType other.found "variant identifier")

/-- Whether a shape stands for nothing: null, and if it was buffered an empty map too. -/
def isNothing (buffered : Bool) : Shape δ → Bool
  | .null => true
  | .map [] => buffered
  | _ => false

/-- The notation of values in memory.  Buffered values are those that a record kept for the part
it extends. -/
def format (buffered : Bool) : Format (ValueReader δ) where
  Raw := δ
  shape := shape
  raise p := throw p
  text noun := fun d =>
    match shape d with
    | .text s => .ok s
    | other => .error (.invalidType other.found noun)
  flag := fun d =>
    match shape d with
    | .bool b => .ok b
    | other => .error (.invalidType other.found "a boolean")
  code := fun d =>
    match shape d with
    | .integer n => codeOfInt n
    | other => .error (.invalidType other.found "u16")
  choice _ values name := fun d =>
    match shape d with
    | .text s => pickByName values name s
    | .map [(key, value)] => do
      let a ← pickByKey shape values name key
      if isNothing buffered (shape value) then return a
      else throw (.invalidType (shape value).found "unit")
    | .map _ => .error (.invalidValue .map "map with a single key")
    | other => .error (.invalidType other.found "string or map")
  optional item := fun d =>
    match shape d with
    | .null => .ok none
    | _ => some <$> item d
  list item := fun d =>
    match shape d with
    | .list ds => ds.mapM item
    | other => .error (.invalidType other.found "a sequence")
  record r := fun d =>
    match shape d with
    | .map entries => do
      let (s, _) ← fillAll shape r entries r.start
      r.finish .keyed s
    | .list items => do
      let t ← r.finish .positional (← fillInOrder r.slots items r.start)
      if items.length ≤ r.slots.length then return t
      else throw (.invalidLength items.length "fewer elements in array")
    | other => .error (.invalidType other.found r.expected)
  extended r base := fun d =>
    match shape d with
    | .map entries => do
      let (s, others) ← fillAll shape r entries r.start
      let t ← r.finish .keyed s
      return (← base others, t)
    | other => .error (.invalidType other.found r.expected)

end ValueReader

/-- The problem of a member that is not given. -/
def missingMember (title : Title) (count : Nat) : Layout → Nat → String → Problem
  | .keyed, _, key => .missingField key
  | .positional, i, _ =>
    .invalidLength i ("struct " ++ title.name ++ " with " ++ toString count ++
      if count = 1 then " element" else " elements")

/-- The members as a reader sees them. -/
def Members.reader {σ τ : Type} {m : Type → Type} (members : Members σ τ) (title : Title)
    (strict : Bool) (slots : List (Slot m σ)) : RecordReader m σ τ where
  title
  strict
  slots
  start := members.start
  finish layout := members.finish (missingMember title members.keys.length layout) 0

mutual

/-- The values of a form read in a notation. -/
def Form.read : {α : Type} → Form α → {m : Type → Type} → [Monad m] → Format m → m α
  | _, .text noun, _, _, F => F.text noun
  | _, .word _ read _, _, _, F => do
    match read (← F.text "a string") with
    | .ok a => return a
    | .error p => F.raise p
  | _, .flag, _, _, F => F.flag
  | _, .code, _, _, F => F.code
  | _, .choice title values name _, _, _, F => F.choice title values name
  | _, .optional item, _, _, F => F.optional (item.read F)
  | _, .list item, _, _, F => F.list (item.read F)
  | _, .record title strict members build _, _, _, F =>
    build <$> F.record (members.reader title strict (members.slots F))
  | _, .extended title base members build _, _, _, F =>
    build <$> F.extended (members.reader title false (members.slots F)) fun entries => do
      let r := base.reader title false (base.slots (ValueReader.format F.shape true))
      r.finish .keyed (← ValueReader.fillNamed r entries r.start)

/-- The members as slots to fill. -/
def Members.slots :
    {σ τ : Type} → Members σ τ → {m : Type → Type} → [Monad m] → Format m → List (Slot m σ)
  | _, _, .nil, _, _, _ => []
  | _, _, @Members.cons α _ _ member form rest, _, _, F =>
    { key := member.key
      isFilled := fun p => p.1.isSome
      read := (fun a p => (some a, p.2)) <$> form.read F } ::
    (rest.slots F).map (Slot.after (Option α))

end

end ServiceSpec
