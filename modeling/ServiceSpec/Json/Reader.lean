import ServiceSpec.Form.Encoding
import ServiceSpec.Json.Scalar

/-!
# Reading JSON text

## Main definitions

* `Json.anyValue` : any value, as a document.
* `Json.skipValue` : any value, passed over.
* `Json.format` : JSON as a notation that forms are read in.
* `Json.read` : a text read by a form.
-/

namespace ServiceSpec.Json

variable {α : Type}

/-! ## Lists and objects -/

/-- Whether a list goes on.  The cursor is then on the next item. -/
def hasItem (first : Bool) : Reader Bool := do
  match ← peekToken with
  | none => failAhead .endInList
  | some ']' => return false
  | some c =>
    if first then return true
    else if c = ',' then
      advance
      match ← peekToken with
      | some ']' => failAhead .trailingComma
      | some _ => return true
      | none => failAhead .endInValue
    else failAhead .expectedListEnd

/-- Whether an object goes on.  The cursor is then on the next key. -/
def hasKey (first : Bool) : Reader Bool := do
  match ← peekToken with
  | none => failAhead .endInObject
  | some '\x7d' => return false
  | some c =>
    if first then
      if c = '"' then return true else failAhead .keyNotText
    else if c = ',' then
      advance
      match ← peekToken with
      | some '"' => return true
      | some '\x7d' => failAhead .trailingComma
      | some _ => failAhead .keyNotText
      | none => failAhead .endInValue
    else failAhead .expectedObjectEnd

/-- Passes the colon behind a key. -/
def colon : Reader Unit := do
  match ← peekToken with
  | some ':' => advance
  | some _ => failAhead .expectedColon
  | none => failAhead .endInObject

/-- A key behind which its value stands. -/
def key : Reader String := do
  advance
  textBody

/-- Passes the end of a list. -/
def endList : Reader Unit := do
  match ← peekToken with
  | some ']' => advance
  | some ',' =>
    advance
    match ← peekToken with
    | some ']' => failAhead .trailingComma
    | _ => failAhead .trailingText
  | some _ => failAhead .trailingText
  | none => failAhead .endInList

/-- Passes the end of an object. -/
def endObject : Reader Unit := do
  match ← peekToken with
  | some '\x7d' => advance
  | some ',' => failAhead .trailingComma
  | some _ => failAhead .trailingText
  | none => failAhead .endInObject

/-- The items of a list. -/
def itemsFrom (item : Reader α) : Nat → Bool → Reader (List α)
  | 0, _ => return []
  | fuel + 1, first => do
    if ← hasItem first then
      let a ← item
      return a :: (← itemsFrom item fuel false)
    else return []

/-- A list whose opening bracket is at the cursor. -/
def listOf (item : Reader α) : Reader (List α) :=
  nested do
    advance
    closing (fun c => itemsFrom item (c.rest.length + 1) true c) endList

/-- The entries of an object, each read by what its key calls for. -/
def entriesFrom {σ : Type} (entry : σ → Reader σ) : Nat → Bool → σ → Reader σ
  | 0, _, s => return s
  | fuel + 1, first, s => do
    if ← hasKey first then entriesFrom entry fuel false (← entry s) else return s

/-- An object whose opening brace is at the cursor, with what is made of its entries. -/
def objectOf {σ : Type} (entry : σ → Reader σ) (start : σ) (finish : σ → Reader α) :
    Reader α :=
  nested do
    advance
    closing
      (do finish (← fun c => entriesFrom entry (c.rest.length + 1) true start c))
      endObject

/-! ## Any value -/

/-- The document of a number. -/
def Number.document : Number → Document
  | integer n => .integer n
  | float x => .float x

/-- Any value.  Fuel bounds the depth. -/
def anyValueWith : Nat → Reader Document
  | 0 => failAhead .tooDeep
  | fuel + 1 => located do
    let c ← peekValue
    if c = 'n' then
      advance
      word "ull"
      return .null
    else if c = 't' then
      advance
      word "rue"
      return .bool true
    else if c = 'f' then
      advance
      word "alse"
      return .bool false
    else if c = '-' then
      advance
      return (← number false).document
    else if c.isDigit then return (← number true).document
    else if c = '"' then
      advance
      return .text (← textBody)
    else if c = '[' then return .list (← listOf (anyValueWith fuel))
    else if c = '\x7b' then
      objectOf
        (fun entries => do
          let k ← key
          colon
          return entries ++ [(k, ← anyValueWith fuel)])
        [] (fun entries => return .object entries)
    else failAhead .expectedValue

/-- Any value. -/
def anyValue : Reader Document := fun c =>
  anyValueWith (c.room + 1) c

/-- Passes a scalar at the cursor. -/
def skipScalar (c : Char) : Reader Unit :=
  if c = 'n' then do advance; word "ull"
  else if c = 't' then do advance; word "rue"
  else if c = 'f' then do advance; word "alse"
  else if c = '-' then do advance; skipNumber
  else if c.isDigit then skipNumber
  else if c = '"' then do advance; skipText
  else failAhead .expectedValue

/-- Passes the key of an entry and its colon. -/
def skipKey : Reader Unit := do
  match ← peekToken with
  | some '"' => advance
  | some _ => failAhead .keyNotText
  | none => failAhead .endInObject
  skipText
  colon

/-- Passes the rest of values that are open: lists (`false`) and objects (`true`), the innermost
first.  After a value, `hasValue` says so, and a comma leads to the next one. -/
def skipOpen : Nat → Bool → List Bool → Reader Unit
  | 0, _, _ => return
  | _, _, [] => return
  | fuel + 1, hasValue, isObject :: outer => do
    match ← peekToken with
    | none => failAhead (if isObject then .endInObject else .endInList)
    | some c =>
      if c = (if isObject then '\x7d' else ']') then
        advance
        skipOpen fuel true outer
      else
        if hasValue then
          if c = ',' then advance
          else failAhead (if isObject then .expectedObjectEnd else .expectedListEnd)
        if isObject then skipKey
        let v ← peekValue
        if v = '[' ∨ v = '\x7b' then
          advance
          skipOpen fuel false ((v = '\x7b') :: isObject :: outer)
        else
          skipScalar v
          skipOpen fuel true (isObject :: outer)

/-- Passes any value, however deep it is. -/
def skipValue : Reader Unit := do
  let v ← peekValue
  if v = '[' ∨ v = '\x7b' then
    advance
    fun c => skipOpen (c.rest.length + 1) false [v = '\x7b'] c
  else skipScalar v

/-! ## Values of forms -/

/-- A value of another kind than expected.  A scalar is passed, for its value is named. -/
def unexpected (expected : String) : Reader α := located do
  let found (f : Found) : Reader α := raise (.invalidType f expected)
  match ← peek with
  | some 'n' =>
    advance
    word "ull"
    found .null
  | some 't' =>
    advance
    word "rue"
    found (.bool true)
  | some 'f' =>
    advance
    word "alse"
    found (.bool false)
  | some '-' =>
    advance
    found (← number false).found
  | some '"' =>
    advance
    found (.text (← textBody))
  | some '[' => found .list
  | some '\x7b' => found .map
  | some c => if c.isDigit then found (← number true).found else failAhead .expectedValue
  | none => failAhead .expectedValue

/-- A text. -/
def textOf (noun : String) : Reader String := located do
  if (← peekValue) = '"' then
    advance
    textBody
  else unexpected noun

/-- The value of a name. -/
def pick (values : List α) (name : α → String) : Reader α := located do
  if (← peekValue) = '"' then
    advance
    ofExcept (pickByName values name (← textBody))
  else unexpected "variant identifier"

/-- Passes a null. -/
def nothing : Reader Unit := located do
  if (← peekValue) = 'n' then
    advance
    word "ull"
  else unexpected "unit"

/-- One of several values: its name, or an object that gives the name the value null. -/
def choiceOf (values : List α) (name : α → String) : Reader α := do
  match ← peekToken with
  | some '"' => pick values name
  | some '\x7b' =>
    let a ← nested do
      advance
      let a ← pick values name
      colon
      nothing
      return a
    match ← peekToken with
    | some '\x7d' =>
      advance
      return a
    | some _ => fail .expectedValue
    | none => fail .endInObject
  | some _ => failAhead .expectedValue
  | none => failAhead .endInValue

/-- The items of a list as the members of a record, in order. -/
def fillInOrder {σ : Type} : List (Slot Reader σ) → Bool → σ → Reader σ
  | [], _, s => return s
  | slot :: slots, first, s => do
    if ← hasItem first then fillInOrder slots false ((← slot.read) s) else return s

/-- An entry of a record.  What no member takes is left to `other`. -/
def fillEntry {σ τ ρ : Type} (r : RecordReader Reader σ τ) (other : String → ρ → Reader ρ) :
    σ × ρ → Reader (σ × ρ)
  | (s, others) => do
    let k ← key
    match r.slot? k with
    | some slot =>
      if slot.isFilled s then raise (.duplicateField k)
      else
        colon
        return ((← slot.read) s, others)
    | none =>
      match r.refusal? k with
      | some p => raise p
      | none =>
        colon
        return (s, ← other k others)

/-- A record, written as an object or as the list of its members. -/
def recordOf {σ τ : Type} (r : RecordReader Reader σ τ) : Reader τ := located do
  let c ← peekValue
  if c = '[' then
    nested do
      advance
      closing
        (do ofExcept (r.finish .positional (← fillInOrder r.slots true r.start)))
        endList
  else if c = '\x7b' then
    objectOf (fillEntry r fun _ _ => skipValue) (r.start, ())
      fun (s, _) => ofExcept (r.finish .keyed s)
  else unexpected r.expected

/-- JSON as a notation.  A record that extends another is an object. -/
def format : Format Reader where
  Raw := Document
  shape := Document.shape
  raise := raise
  text := textOf
  flag := located do
    match ← peekValue with
    | 't' =>
      advance
      word "rue"
      return true
    | 'f' =>
      advance
      word "alse"
      return false
    | _ => unexpected "a boolean"
  code := located do
    let c ← peekValue
    let n ← if c = '-' then do
        advance
        number false
      else if c.isDigit then number true
      else unexpected "u16"
    match n with
    | .integer n => ofExcept (codeOfInt n)
    | .float x => raise (.invalidType (.float x) "u16")
  choice _ := choiceOf
  optional item := do
    match ← peekToken with
    | some 'n' =>
      advance
      word "ull"
      return none
    | _ => return some (← item)
  list item := located do
    if (← peekValue) = '[' then listOf item else unexpected "a sequence"
  record := recordOf
  extended r base := located do
    if (← peekValue) = '\x7b' then
      objectOf (fillEntry r fun k others => return others ++ [(k, ← anyValue)]) (r.start, [])
        fun (s, others) => do
          let t ← ofExcept (r.finish .keyed s)
          return (← ofExcept (base others), t)
    else unexpected r.expected

/-- A whole text: one value and blanks around it. -/
def whole (r : Reader α) (s : String) : Except Error α :=
  let reader : Reader α := do
    let a ← r
    match ← peekToken with
    | none => return a
    | some _ => failAhead .trailingText
  match reader (Cursor.ofString s) with
  | .ok a _ => .ok a
  | .error e _ => .error e

/-- A text read by a form. -/
def read (form : Form α) (s : String) : Except Error α :=
  whole (form.read format) s

/-- A text read as a document. -/
def readDocument (s : String) : Except Error Document :=
  whole anyValue s

end ServiceSpec.Json
