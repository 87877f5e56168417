import ServiceSpec.Form.Encoding
import ServiceSpec.Yaml.Contents

/-!
# Reading YAML text

## Main definitions

* `Yaml.Datum` : a value whose type is guessed from its text.
* `Yaml.Error` : what is wrong with a text, and where.
* `Yaml.format` : YAML as a notation that forms are read in.
* `Yaml.read` : a text read by a form.
-/

namespace ServiceSpec.Yaml

/-- A value whose type is guessed from its text.  Keys may be values of any kind. -/
inductive Datum where
  | null
  | bool (value : Bool)
  | integer (value : Int)
  | float (value : Float)
  | text (value : String)
  | list (items : List Datum)
  | map (entries : List (Datum × Datum))

/-- The outside of a value. -/
def Datum.shape : Datum → Shape Datum
  | null => .null
  | bool b => .bool b
  | integer n => .integer n
  | float x => .float x
  | text s => .text s
  | list items => .list items
  | map entries => .map entries

/-- The way to a value from the root of a document. -/
inductive Path where
  | root
  | item (parent : Path) (index : Nat)
  | entry (parent : Path) (key : String)
  /-- An entry whose key is no scalar. -/
  | unnamed (parent : Path)
  | aliased (parent : Path)

/-- The wording of a path. -/
def Path.describe : Path → String
  | root => "."
  | item parent index => parent.describe ++ "[" ++ toString index ++ "]"
  | entry root key => key
  | entry parent key => parent.describe ++ "." ++ key
  | unnamed root => "?"
  | unnamed parent => parent.describe ++ ".?"
  | aliased parent => parent.describe

/-- Numbers in messages are positional, and halves go up. -/
def messageLayout : Decimal.Layout where
  isPositional _ := true
  signsExponent := false
  tie := .up

/-- How YAML words what was found. -/
def wording : Wording where
  null := "unit value"
  float x :=
    if x.isNaN then "NaN"
    else if x.isInf then (if 0 < x then "inf" else "-inf")
    else writeFloat messageLayout x

/-- What is wrong with a text. -/
inductive Error where
  | content (problem : Problem) (place : Option (Mark × Path))
  | fault (fault : Fault)
  | unknownAnchor (mark : Mark)
  | tooDeep (mark : Mark)
  | tooManyAliases
  | endOfText
  | severalDocuments

namespace Error

/-- Gives a problem of content a place unless it has one. -/
def locate (mark : Mark) (path : Path) : Error → Error
  | content p none => content p (some (mark, path))
  | e => e

/-- The place of an error. -/
def mark? : Error → Option Mark
  | content _ place => place.map (·.1)
  | fault f => some f.mark
  | unknownAnchor m => some m
  | tooDeep m => some m
  | tooManyAliases | endOfText | severalDocuments => none

/-- The line and column of an error, counted from one; zero where they are not known. -/
def position (e : Error) : Nat × Nat :=
  match e.mark? with
  | some m => (m.line + 1, m.column + 1)
  | none => (0, 0)

/-- The wording of an error without its place. -/
def describe : Error → String
  | content p none => p.message wording
  | content p (some (_, path)) =>
    match path.describe with
    | "." => p.message wording
    | text => text ++ ": " ++ p.message wording
  | fault f => f.message
  | unknownAnchor _ => "unknown anchor"
  | tooDeep _ => "recursion limit exceeded"
  | tooManyAliases => "repetition limit exceeded"
  | endOfText => "EOF while parsing a value"
  | severalDocuments =>
    "deserializing from YAML containing more than one document is not supported"

/-- The wording of an error. -/
def message (e : Error) : String :=
  match e with
  | fault f => f.message
  | _ =>
    match e.mark? with
    | some m => if m.isNamed then e.describe ++ " at " ++ m.describe else e.describe
    | none => e.describe

/-- The error that parts end early with. -/
def ofBreak : Break → Error
  | .fault f => fault f
  | .unknownAnchor m => unknownAnchor m

end Error

/-- What a reader knows of where it is. -/
structure Scope where
  contents : Contents
  path : Path := .root
  /-- How deep values may still nest. -/
  room : Nat := 128

/-- The part that comes next, and how many aliases were followed. -/
structure Progress where
  next : Nat := 0
  jumps : Nat := 0

/-- A reader of parts of a document. -/
abbrev Reader : Type → Type :=
  ReaderT Scope (EStateM Error Progress)

variable {α : Type}

/-- A problem of content, whose place is not known yet. -/
def raise (p : Problem) : Reader α :=
  throw (.content p none)

/-- What was read, or the problem with it. -/
def ofExcept : Except Problem α → Reader α
  | .ok a => return a
  | .error p => raise p

/-- The next part. -/
def peek : Reader (Part × Mark) := do
  let c := (← read).contents
  match c.parts[(← get).next]? with
  | some p => return p
  | none => throw ((c.broken.map Error.ofBreak).getD .endOfText)

/-- Passes the next part. -/
def skip : Reader Unit :=
  modify fun p => { p with next := p.next + 1 }

/-- The next part, passed. -/
def take : Reader (Part × Mark) := do
  let p ← peek
  skip
  return p

/-- Puts an error without a place at a mark on the present path. -/
def located (m : Mark) (r : Reader α) : Reader α := fun scope p =>
  match r scope p with
  | .ok a p' => .ok a p'
  | .error e p' => .error (e.locate m scope.path) p'

/-- Reads on a longer path. -/
def within (step : Path → Path) (r : Reader α) : Reader α :=
  withReader (fun scope => { scope with path := step scope.path }) r

/-- Reads the value that an alias stands for, then goes on behind the alias. -/
def follow (number : Nat) (r : Reader α) : Reader α := do
  let c := (← read).contents
  let here ← get
  if c.parts.size * 100 < here.jumps + 1 then throw .tooManyAliases
  else
    set { next := (c.targets.lookup number).getD c.parts.size, jumps := here.jumps + 1 : Progress }
    let a ← within .aliased r
    modify fun p => { p with next := here.next }
    return a

/-- Reads one level deeper. -/
def nested (m : Mark) (r : Reader α) : Reader α := do
  match (← read).room with
  | 0 => throw (.tooDeep m)
  | room + 1 => withReader (fun scope => { scope with room }) r

/-! ## Scalars -/

/-- What a scalar stands for: what its tag says, or what a plain one is spelled like. -/
def scalarValue (tag : Option Tag) (text : String) (style : ScalarStyle) :
    Except Problem Found :=
  let ofTag (value? : Option Found) (expected : String) : Except Problem Found :=
    match value? with
    | some f => .ok f
    | none => .error (.invalidValue (.text text) expected)
  match tag with
  | none => .ok (if style = .plain then guess text else .text text)
  | some t =>
    if t = Tag.core "bool" then ofTag ((bool? text).map .bool) "a boolean"
    else if t = Tag.core "int" then ofTag ((integer? text).bind ofInteger?) "an integer"
    else if t = Tag.core "float" then ofTag ((float? text).map .float) "a float"
    else if t = Tag.core "null" then ofTag (if isNull text then some .null else none) "null"
    else .ok (if t.isLocal && style = .plain then guess text else .text text)

/-- A part of another kind than expected. -/
def unexpected (part : Part) (expected : String) : Reader α := do
  let found (f : Found) : Reader α := raise (.invalidType f expected)
  match part with
  | .scalar tag text style => found (← ofExcept (scalarValue tag text style))
  | .listStart _ => found .list
  | .mapStart _ => found .map
  | .aliasOf _ | .listEnd | .mapEnd | .void => throw .endOfText

/-- Whether a scalar may be read as a value of a core type: it is plain, or a literal block with the
tag of the type. -/
def mayBe (type : String) (tag : Option Tag) (style : ScalarStyle) : Bool :=
  style = .plain || (style = .literal && tag = some (Tag.core type))

/-- Whether a part stands for an empty list or record. -/
def isEmptyPart : Part → Bool
  | .void => true
  | .scalar _ text style => text = "" && style = .plain
  | _ => false

/-- The number of values that aliases may lead to in turn. -/
def aliasFuel : Reader Nat :=
  return (← read).contents.parts.size * 100 + 1

/-- Reads the next part, and where it is an alias, the part it leads to. -/
def takeThrough (r : Part → Mark → Reader α) : Nat → Reader α
  | 0 => throw .tooManyAliases
  | fuel + 1 => do
    let (part, m) ← take
    match part with
    | .aliasOf number => follow number (takeThrough r fuel)
    | _ => located m (r part m)

/-- Reads the next part through aliases; an error without a place is put there. -/
def onPart (r : Part → Mark → Reader α) : Reader α := do
  takeThrough r (← aliasFuel)

/-- What a scalar, as it is written, is read as. -/
def textWith (noun : String) (check : String → Except Problem α) : Reader α :=
  onPart fun part _ =>
    match part with
    | .scalar _ text _ => ofExcept (check text)
    | _ => unexpected part noun

/-- A text: any scalar as it is written. -/
def textOf (noun : String) : Reader String :=
  textWith noun .ok

/-- A truth value. -/
def flagOf : Reader Bool :=
  onPart fun part _ =>
    match part with
    | .scalar tag text style =>
      match if mayBe "bool" tag style then bool? text else none with
      | some b => return b
      | none => unexpected part "a boolean"
    | _ => unexpected part "a boolean"

/-- The number of 64 bits without a minus sign that a text spells. -/
def unsigned? (s : String) : Option Int :=
  if s.toList.head? = some '-' then none else (integer? s).filter (· < Int.pow 2 64)

/-- A number from 0 to 65535. -/
def codeOf : Reader UInt16 :=
  onPart fun part _ =>
    match part with
    | .scalar tag text style =>
      match if mayBe "int" tag style then unsigned? text else none with
      | some n => ofExcept (codeOfInt n)
      | none => unexpected part "u16"
    | _ => unexpected part "u16"

/-- Nothing, written behind a tag: an empty scalar or null. -/
def nothing : Reader Unit :=
  onPart fun part _ =>
    match part with
    | .scalar _ text style =>
      if style = .plain && (text = "" || isNull text) then return ()
      else raise (.invalidValue (.text text) "null")
    | .void => return ()
    | _ => unexpected part "unit"

/-- The name in the tag of a part, which says which value it is. -/
def partTag? : Part → Option String
  | .scalar tag _ _ | .listStart tag | .mapStart tag => tag.bind Tag.name?
  | _ => none

/-- One of several values, by its name or by a tag with its name. -/
def choiceOf (values : List α) (name : α → String) : Nat → Reader α
  | 0 => throw .tooManyAliases
  | fuel + 1 => do
    let (part, m) ← peek
    match part, partTag? part with
    | _, some tag =>
      let a ← ofExcept (pickByName values name tag)
      nothing
      return a
    | .aliasOf number, none =>
      skip
      located m (follow number (choiceOf values name fuel))
    | .scalar .., none =>
      located m (textWith "variant identifier" (pickByName values name))
    | .listStart _, none =>
      located m (raise (.invalidType .list "a YAML tag starting with '!'"))
    | .mapStart _, none =>
      located m (raise (.invalidType .map "a YAML tag starting with '!'"))
    | .listEnd, none | .mapEnd, none | .void, none => throw .endOfText

/-- Whether a scalar is not null. -/
def isGiven (tag : Option Tag) (text : String) (style : ScalarStyle) : Except Problem Bool :=
  match style, tag with
  | .plain, none => .ok (text ≠ "" && !isNull text)
  | .plain, some t =>
    if t = Tag.core "null" then
      if isNull text then .ok false else .error (.invalidValue (.text text) "null")
    else .ok true
  | _, _ => .ok true

/-- A value or null. -/
def optionalOf (item : Reader α) : Nat → Reader (Option α)
  | 0 => throw .tooManyAliases
  | fuel + 1 => do
    let (part, _) ← peek
    match part with
    | .aliasOf number =>
      skip
      follow number (optionalOf item fuel)
    | .scalar tag text style =>
      if ← ofExcept (isGiven tag text style) then return some (← item)
      else
        skip
        return none
    | .void =>
      skip
      return none
    | _ => return some (← item)

/-! ## Lists and maps -/

/-- The items of a list up to its end. -/
def itemsFrom (item : Reader α) : Nat → Nat → Reader (List α)
  | 0, _ => return []
  | fuel + 1, index => do
    match (← peek).1 with
    | .listEnd | .void =>
      skip
      return []
    | _ =>
      let a ← within (.item · index) item
      return a :: (← itemsFrom item fuel (index + 1))

/-- The number of parts that are left. -/
def partsLeft : Reader Nat :=
  return (← read).contents.parts.size + 1

/-- The items of a list whose start was passed. -/
def items (m : Mark) (item : Reader α) : Reader (List α) :=
  nested m do itemsFrom item (← partsLeft) 0

/-- The step on a path to the value of a key. -/
def stepTo : Part → Path → Path
  | .scalar _ text _, path => .entry path text
  | _, path => .unnamed path

/-- The entries of a map up to its end, each read by what its key calls for. -/
def entriesFrom {σ : Type} (entry : (Path → Path) → σ → Reader σ) : Nat → σ → Reader σ
  | 0, s => return s
  | fuel + 1, s => do
    match (← peek).1 with
    | .mapEnd =>
      skip
      return s
    | keyPart => entriesFrom entry fuel (← entry (stepTo keyPart) s)

/-- The entries of a map whose start was passed. -/
def entries {σ : Type} (m : Mark) (entry : (Path → Path) → σ → Reader σ) (start : σ)
    (finish : σ → Reader α) : Reader α :=
  nested m do finish (← entriesFrom entry (← partsLeft) start)

/-- Passes the parts up to the end of the lists and maps that are open. -/
def skipOpen : Nat → Nat → Reader Unit
  | 0, _ => return
  | fuel + 1, depth => do
    let (part, _) ← take
    let depth' := match part with
      | .listStart _ | .mapStart _ => depth + 1
      | .listEnd | .mapEnd => depth - 1
      | _ => depth
    if depth' = 0 then return else skipOpen fuel depth'

/-- Passes any value. -/
def skipValue : Reader Unit := do
  skipOpen (← partsLeft) 0

/-- Any value, its type guessed from its text.  Fuel bounds the depth of values and aliases. -/
def anyValueWith : Nat → Reader Datum
  | 0 => throw .tooManyAliases
  | fuel + 1 => do
    let (part, m) ← take
    located m do
      match part, partTag? part with
      | _, some _ => raise .tagNotKept
      | .aliasOf number, _ => follow number (anyValueWith fuel)
      | .scalar tag text style, _ =>
        match ← ofExcept (scalarValue tag text style) with
        | .null => return .null
        | .bool b => return .bool b
        | .integer n => return .integer n
        | .float x => return .float x
        | .text s => return .text s
        | other => raise (.invalidType other "any value")
      | .listStart _, _ => return .list (← items m (anyValueWith fuel))
      | .mapStart _, _ =>
        entries m
          (fun step done => do
            let key ← anyValueWith fuel
            return done ++ [(key, ← within step (anyValueWith fuel))])
          [] (fun done => return .map done)
      | .void, _ | .listEnd, _ | .mapEnd, _ => return .null

/-- Any value, its type guessed from its text. -/
def anyValue : Reader Datum := do
  anyValueWith ((← aliasFuel) + (← read).room)

/-- A key of a record with its slot, if the record does not refuse it. -/
def slotOf {σ τ : Type} (r : RecordReader Reader σ τ) (key : String) :
    Except Problem (String × Option (Slot Reader σ)) :=
  match r.slot? key, r.refusal? key with
  | none, some p => .error p
  | slot?, _ => .ok (key, slot?)

/-- An entry of a record.  What no member takes is left to `other`. -/
def fillEntry {σ τ ρ : Type} (r : RecordReader Reader σ τ) (other : String → ρ → Reader ρ)
    (step : Path → Path) : σ × ρ → Reader (σ × ρ)
  | (s, others) => do
    match ← textWith "field identifier" (slotOf r) with
    | (key, some slot) =>
      if slot.isFilled s then raise (.duplicateField key)
      else return ((← within step slot.read) s, others)
    | (key, none) => return (s, ← within step (other key others))

/-- A record, written as a map or as nothing. -/
def recordOf {σ τ ρ : Type} (r : RecordReader Reader σ τ) (other : String → ρ → Reader ρ)
    (start : ρ) (finish : τ → ρ → Reader α) : Reader α :=
  onPart fun part m =>
    match part with
    | .mapStart _ =>
      entries m (fillEntry r other) (r.start, start) fun (s, others) => do
        finish (← ofExcept (r.finish .keyed s)) others
    | _ => do
      if isEmptyPart part then finish (← ofExcept (r.finish .keyed r.start)) start
      else unexpected part r.expected

/-- YAML as a notation. -/
def format : Format Reader where
  Raw := Datum
  shape := Datum.shape
  raise := raise
  text := textOf
  flag := flagOf
  code := codeOf
  choice _ values name := do choiceOf values name (← aliasFuel)
  optional item := do optionalOf item (← aliasFuel)
  list item :=
    onPart fun part m =>
      match part with
      | .listStart _ => items m item
      | _ => if isEmptyPart part then return [] else unexpected part "a sequence"
  record r := recordOf r (fun _ _ => skipValue) () fun t _ => return t
  extended r base :=
    recordOf r (fun key others => return others ++ [(key, ← anyValue)]) [] fun t others =>
      return (← ofExcept (base others), t)

/-- The parts of a document read by a form. -/
def readContents (form : Form α) (c : Contents) : Except Error α :=
  match form.read format { contents := c } {} with
  | .error e _ => .error e
  | .ok a _ =>
    match c.broken with
    | some b => .error (.ofBreak b)
    | none => if c.hasMore then .error .severalDocuments else .ok a

/-- A text read by a form.  It holds one document. -/
def read (form : Form α) (s : String) : Except Error α :=
  readContents form (contents s)

end ServiceSpec.Yaml
