import ServiceSpec.Form.Problem

/-!
# What plain scalars stand for

A plain scalar is a text, unless it is spelled like a null, a truth value or a number.

## Main definitions

* `Yaml.null?`, `Yaml.bool?`, `Yaml.integer?`, `Yaml.float?` : the spellings of other values.
* `Yaml.guess` : what a plain scalar stands for.
* `Yaml.isAmbiguous` : whether a text would not be read as itself.
-/

namespace ServiceSpec.Yaml

/-- Whether a text spells null. -/
def isNull (s : String) : Bool :=
  s = "null" || s = "Null" || s = "NULL" || s = "~"

/-- The truth value that a text spells. -/
def bool? (s : String) : Option Bool :=
  if s = "true" || s = "True" || s = "TRUE" then some true
  else if s = "false" || s = "False" || s = "FALSE" then some false
  else none

/-- The value of a digit in some base up to sixteen. -/
def digitValue? (base : Nat) (c : Char) : Option Nat :=
  let value :=
    if '0' ≤ c ∧ c ≤ '9' then c.toNat - '0'.toNat
    else if 'a' ≤ c ∧ c ≤ 'f' then c.toNat - 'a'.toNat + 10
    else if 'A' ≤ c ∧ c ≤ 'F' then c.toNat - 'A'.toNat + 10
    else base
  if value < base then some value else none

/-- The number that digits spell. -/
def natural? (base : Nat) (cs : List Char) : Option Nat :=
  if cs.isEmpty then none
  else (cs.mapM (digitValue? base)).map (·.foldl (fun n d => base * n + d) 0)

/-- Whether digits follow a leading zero, behind an optional sign.  Such a text is no number. -/
def hasLeadingZero (cs : List Char) : Bool :=
  match cs with
  | '-' :: '0' :: d :: ds | '+' :: '0' :: d :: ds | '0' :: d :: ds => (d :: ds).all Char.isDigit
  | _ => false

/-- The number spelled in another base than ten. -/
def based? (cs : List Char) : Option Nat :=
  match cs with
  | '0' :: 'x' :: ds => natural? 16 ds
  | '0' :: 'o' :: ds => natural? 8 ds
  | '0' :: 'b' :: ds => natural? 2 ds
  | _ => none

/-- The integer that a text spells. -/
def integer? (s : String) : Option Int :=
  let cs := s.toList
  if hasLeadingZero cs then none
  else
    match cs with
    | '-' :: ds => ((based? ds).or (natural? 10 ds)).map fun n => -(n : Int)
    | '+' :: ds => ((based? ds).or (natural? 10 ds)).map Int.ofNat
    | ds => ((based? ds).or (natural? 10 ds)).map Int.ofNat

/-- A decimal in floating point.  Exponents far beyond the range are not computed. -/
def floatOf (digits : Nat) (exponent : Int) : Float :=
  let before := exponent + (Nat.toDigits 10 digits).length
  if digits = 0 ∨ before < -400 then 0
  else if 400 < before then 1.0 / 0.0
  else if 0 ≤ exponent then Float.ofScientific (digits * Nat.pow 10 exponent.toNat) false 0
  else Float.ofScientific digits true (-exponent).toNat

/-- The number that digits with an optional point and an optional exponent spell. -/
def unsignedFloat? (cs : List Char) : Option Float :=
  let whole := cs.takeWhile Char.isDigit
  let rest := cs.dropWhile Char.isDigit
  let (fraction, rest) := match rest with
    | '.' :: rest => (rest.takeWhile Char.isDigit, rest.dropWhile Char.isDigit)
    | rest => ([], rest)
  let exponent? : Option Int := match rest with
    | [] => some 0
    | e :: ds =>
      if e = 'e' || e = 'E' then
        match ds with
        | '-' :: ds => (natural? 10 ds).map fun n => -(n : Int)
        | '+' :: ds => (natural? 10 ds).map Int.ofNat
        | ds => (natural? 10 ds).map Int.ofNat
      else none
  match natural? 10 (whole ++ fraction), exponent? with
  | some n, some e => some (floatOf n (e - fraction.length))
  | _, _ => none

/-- The finite number that a text spells, with an optional sign. -/
def finiteFloat? (s : String) : Option Float :=
  let x? := match s.toList with
    | '-' :: cs => (unsignedFloat? cs).map fun x => -x
    | '+' :: cs => unsignedFloat? cs
    | cs => unsignedFloat? cs
  x?.filter Float.isFinite

/-- The floating point number that a text spells. -/
def float? (s : String) : Option Float :=
  if [".inf", ".Inf", ".INF", "+.inf", "+.Inf", "+.INF"].contains s then some (1.0 / 0.0)
  else if ["-.inf", "-.Inf", "-.INF"].contains s then some (-1.0 / 0.0)
  else if [".nan", ".NaN", ".NAN"].contains s then some (0.0 / 0.0)
  else finiteFloat? s

/-- An integer by its width; none if it has more than 128 bits. -/
def ofInteger? (n : Int) : Option Found :=
  if -Int.pow 2 63 ≤ n ∧ n < Int.pow 2 64 then some (.integer n)
  else if -Int.pow 2 127 ≤ n ∧ n < Int.pow 2 128 then some (.wideInteger n)
  else none

/-- What a plain scalar stands for. -/
def guess (s : String) : Found :=
  if s = "" || isNull s then .null
  else
    match bool? s, (integer? s).bind ofInteger? with
    | some b, _ => .bool b
    | none, some n => n
    | none, none =>
      if hasLeadingZero s.toList then .text s
      else
        match float? s with
        | some x => .float x
        | none => .text s

/-- Whether a text would not be read as itself, or has the leading zeros of a number. -/
def isAmbiguous (s : String) : Bool :=
  match guess s with
  | .text _ => hasLeadingZero s.toList
  | _ => true

end ServiceSpec.Yaml
