import ServiceSpec.Json.Cursor

/-!
# Texts and numbers of JSON

## Main definitions

* `Json.textBody` : a text behind its opening quote.
* `Json.number` : a number, an integer if it is written as one and fits into 64 bits.
* `Json.skipText`, `Json.skipNumber` : the same, passed over without a value.
-/

namespace ServiceSpec.Json

/-- Passes the characters of a word. -/
def word (s : String) : Reader Unit :=
  s.toList.forM fun c => do
    match ← peek with
    | none => fail .endInValue
    | some c' => if c' = c then advance else failAhead .expectedWord

/-! ## Texts -/

/-- The value of a hexadecimal digit. -/
def hexValue? (c : Char) : Option Nat :=
  if '0' ≤ c ∧ c ≤ '9' then some (c.toNat - '0'.toNat)
  else if 'a' ≤ c ∧ c ≤ 'f' then some (c.toNat - 'a'.toNat + 10)
  else if 'A' ≤ c ∧ c ≤ 'F' then some (c.toNat - 'A'.toNat + 10)
  else none

/-- The number of bytes of a text. -/
def byteLength (cs : List Char) : Nat :=
  (String.ofList cs).utf8ByteSize

/-- The four hexadecimal digits of an escape. -/
def hexCode : Reader Nat := fun c =>
  let behind := c.position.pastBytes 4 c.rest
  if byteLength (c.rest.take 4) < 4 then
    .error ⟨.grammar .endInText, some behind⟩ c
  else
    match (c.rest.take 4).mapM hexValue? with
    | some digits =>
      .ok (digits.foldl (fun n d => 16 * n + d) 0)
        { c with rest := c.rest.drop 4, position := behind }
    | none => .error ⟨.grammar .invalidEscape, some behind⟩ c

/-- The next character of a text. -/
def peekText : Reader Char := do
  match ← peek with
  | some c => return c
  | none => fail .endInText

/-- Passes a character that has to follow a leading surrogate. -/
def surrogateSeparator (c : Char) : Reader Unit := do
  if (← peekText) = c then advance else failAhead .unfinishedSurrogate

/-- The character of an escape by number.  A leading surrogate needs a trailing one behind it. -/
def codeEscape : Reader Char := do
  let n ← hexCode
  if 0xDC00 ≤ n ∧ n ≤ 0xDFFF then fail .loneSurrogate
  else if n < 0xD800 ∨ 0xDBFF < n then return Char.ofNat n
  else
    surrogateSeparator '\\'
    surrogateSeparator 'u'
    let n' ← hexCode
    if n' < 0xDC00 ∨ 0xDFFF < n' then fail .loneSurrogate
    else return Char.ofNat ((n - 0xD800) * 1024 + (n' - 0xDC00) + 0x10000)

/-- The character that an escape by letter stands for. -/
def letterEscape? (c : Char) : Option Char :=
  if c = '"' || c = '\\' || c = '/' then some c
  else if c = 'b' then some '\x08'
  else if c = 'f' then some '\x0c'
  else if c = 'n' then some '\n'
  else if c = 'r' then some '\r'
  else if c = 't' then some '\t'
  else none

/-- The character of an escape behind its backslash. -/
def escape : Reader Char := do
  let c ← peekText
  match letterEscape? c with
  | some x =>
    advance
    return x
  | none =>
    if c = 'u' then
      advance
      codeEscape
    else failAhead .invalidEscape

/-- Reads a text up to its closing quote; `done` holds what was read, last character first. -/
def textFrom : Nat → List Char → Reader String
  | 0, _ => fail .endInText
  | fuel + 1, done => do
    let c ← peekText
    if c = '"' then
      advance
      return String.ofList done.reverse
    else if c = '\\' then
      advance
      textFrom fuel ((← escape) :: done)
    else if c.toNat < 0x20 then failAhead .controlCharacter
    else
      advance
      textFrom fuel (c :: done)

/-- A text behind its opening quote. -/
def textBody : Reader String := fun c =>
  textFrom (c.rest.length + 1) [] c

/-- Passes an escape without looking at the character it stands for. -/
def skipEscape : Reader Unit := do
  let c ← peekText
  if (letterEscape? c).isSome then advance
  else if c = 'u' then
    advance
    let _ ← hexCode
  else failAhead .invalidEscape

/-- Passes a text up to its closing quote. -/
def skipTextFrom : Nat → Reader Unit
  | 0 => fail .endInText
  | fuel + 1 => do
    let c ← peekText
    if c = '"' then advance
    else if c = '\\' then
      advance
      skipEscape
      skipTextFrom fuel
    else if c.toNat < 0x20 then fail .controlCharacter
    else
      advance
      skipTextFrom fuel

/-- Passes a text behind its opening quote. -/
def skipText : Reader Unit := fun c =>
  skipTextFrom (c.rest.length + 1) c

/-! ## Numbers -/

/-- A number. -/
inductive Number where
  | integer (value : Int)
  | float (value : Float)

/-- How a number is named in a problem. -/
def Number.found : Number → Found
  | integer n => .integer n
  | float x => .float x

/-- The digits at the cursor, passed over. -/
def digits : Reader (List Nat) := fun c =>
  let ds := c.rest.takeWhile Char.isDigit
  .ok (ds.map fun d => d.toNat - '0'.toNat)
    { c with
      rest := c.rest.drop ds.length
      position := { c.position with column := c.position.column + ds.length } }

/-- Appends digits to a number while it fits into 64 bits, and gives the digits that are left. -/
def appendDigits (n : Nat) : List Nat → Nat × List Nat
  | [] => (n, [])
  | d :: ds => if 10 * n + d < Nat.pow 2 64 then appendDigits (10 * n + d) ds else (n, d :: ds)

/-- `10 ^ n` for `n` up to 308. -/
def powerOfTen (n : Nat) : Float :=
  Float.ofScientific 1 false n

/-- Scales a number by a power of ten; none if it is too large.  A power beyond the range of
floating point is applied in steps. -/
def scale : Nat → Float → Int → Option Float
  | 0, x, _ => some x
  | fuel + 1, x, e =>
    if e.natAbs ≤ 308 then
      if 0 ≤ e then
        let y := x * powerOfTen e.natAbs
        if y.isInf then none else some y
      else some (x / powerOfTen e.natAbs)
    else if x == 0 then some x
    else if 0 ≤ e then none
    else scale fuel (x / powerOfTen 308) (e + 308)

/-- The number `significand * 10 ^ e` with its sign. -/
def scaled (positive : Bool) (significand : Nat) (e : Int) : Reader Number := do
  match scale 8 significand.toUInt64.toFloat e with
  | some x => return .float (if positive then x else -x)
  | none => fail .numberOutOfRange

/-- The index of the digit at which a number does not fit into 31 bits any more. -/
def overflowAt? (n i : Nat) : List Nat → Option Nat
  | [] => none
  | d :: ds => if 10 * n + d < Nat.pow 2 31 then overflowAt? (10 * n + d) (i + 1) ds else some i

/-- The exponent of a number behind its letter, applied to what stands before it. -/
def exponentPart (positive : Bool) (significand : Nat) (e : Int) : Reader Number := do
  advance
  let sign ← peek
  if sign = some '+' || sign = some '-' then advance
  match ← peek with
  | none => fail .endInValue
  | some c =>
    if !c.isDigit then failAhead .invalidNumber
    else fun start =>
      (do
        let ds ← digits
        match overflowAt? 0 0 ds with
        | some i =>
          if significand ≠ 0 ∧ sign ≠ some '-' then
            throw ⟨.grammar .numberOutOfRange, some
              { start.position with column := start.position.column + i + 1 }⟩
          else return .float (if positive then 0 else -0.0)
        | none =>
          let n : Nat := ds.foldl (fun n d => 10 * n + d) 0
          scaled positive significand (if sign = some '-' then e - n else e + n) :
        Reader Number) start

/-- The digits behind the point of a number, and its exponent. -/
def fractionPart (positive : Bool) (significand : Nat) (e : Int) : Reader Number := do
  advance
  let ds ← digits
  if ds.isEmpty then
    match ← peek with
    | some _ => failAhead .invalidNumber
    | none => failAhead .endInValue
  else
    let (n, dropped) := appendDigits significand ds
    let e' := e - (ds.length - dropped.length : Nat)
    match ← peek with
    | some 'e' | some 'E' => exponentPart positive n e'
    | _ => scaled positive n e'

/-- What follows the integer part of a number.  Digits of it that did not fit into 64 bits are
left to the exponent. -/
def numberTail (positive : Bool) (significand dropped : Nat) : Reader Number := do
  match ← peek with
  | some '.' => fractionPart positive significand dropped
  | some 'e' | some 'E' => exponentPart positive significand dropped
  | _ =>
    if dropped ≠ 0 then scaled positive significand dropped
    else if positive then return .integer significand
    else if significand = 0 ∨ Nat.pow 2 63 < significand then
      return .float (-significand.toUInt64.toFloat)
    else return .integer (-significand)

/-- A number behind its sign. -/
def number (positive : Bool) : Reader Number := do
  match ← peek with
  | none => fail .endInValue
  | some c =>
    if c = '0' then
      advance
      match ← peek with
      | some d => if d.isDigit then failAhead .invalidNumber else numberTail positive 0 0
      | none => numberTail positive 0 0
    else if c.isDigit then
      let (n, dropped) := appendDigits 0 (← digits)
      numberTail positive n dropped.length
    else failAhead .invalidNumber

/-- Passes the exponent of a number. -/
def skipExponent : Reader Unit := do
  advance
  match ← peek with
  | some '+' | some '-' => advance
  | _ => pure ()
  if (← digits).isEmpty then failAhead .invalidNumber

/-- Passes what follows the integer part of a number. -/
def skipNumberTail : Reader Unit := do
  match ← peek with
  | some '.' =>
    advance
    if (← digits).isEmpty then failAhead .invalidNumber
    match ← peek with
    | some 'e' | some 'E' => skipExponent
    | _ => return
  | some 'e' | some 'E' => skipExponent
  | _ => return

/-- Passes a number behind its sign. -/
def skipNumber : Reader Unit := do
  match ← peek with
  | some '0' =>
    advance
    match ← peek with
    | some d => if d.isDigit then failAhead .invalidNumber else skipNumberTail
    | none => return
  | _ =>
    if (← digits).isEmpty then failAhead .invalidNumber
    skipNumberTail

end ServiceSpec.Json
