/-!
# Shortest decimals

The decimal with the fewest digits that reads back as a given binary floating point number, and
among those the nearest one.  All arithmetic is exact.

## Main definitions

* `Binary` : a positive number `significand * 2 ^ exponent` of 64-bit floating point.
* `Decimal` : a number `digits * 10 ^ exponent`.
* `Tie` : which of two neighbours a number halfway between them goes to.
* `Binary.shortest` : the shortest decimal of a binary number.
* `Decimal.Layout`, `Decimal.write` : a decimal written out under a layout.
-/

namespace ServiceSpec

/-- The number `digits * 10 ^ exponent`. -/
structure Decimal where
  digits : Nat
  exponent : Int
  deriving DecidableEq, Repr

/-- The positive number `significand * 2 ^ exponent`. -/
structure Binary where
  significand : Nat
  exponent : Int
  deriving DecidableEq, Repr

/-- Which neighbour a number goes to that is halfway between two. -/
inductive Tie where
  | even
  | up
  deriving DecidableEq, Repr

/-- Whether a number halfway between `d` and `d + 1` goes to `d`. -/
def Tie.goesDown (d : Nat) : Tie → Bool
  | even => d % 2 = 0
  | up => false

namespace Binary

/-- The magnitude of a finite floating point number by its bits. -/
def ofBits (bits : Nat) : Binary :=
  let fraction : Nat := bits % Nat.pow 2 52
  let biased : Nat := bits / Nat.pow 2 52 % Nat.pow 2 11
  if biased = 0 then ⟨fraction, -1074⟩ else ⟨Nat.pow 2 52 + fraction, (biased : Int) - 1075⟩

/-- `a * 2 ^ x * 10 ^ y` as a fraction. -/
def scaled (a : Nat) (x y : Int) : Nat × Nat :=
  (a * Nat.pow 2 x.toNat * Nat.pow 10 y.toNat, Nat.pow 2 (-x).toNat * Nat.pow 10 (-y).toNat)

/-- Whether `d * 10 ^ e` reads back as `b`: it lies between the midpoints to the two neighbours of
`b`, the midpoints themselves included when the significand is even. -/
def readsBack (b : Binary) (d : Nat) (e : Int) : Bool :=
  let below := if b.significand = Nat.pow 2 52 && -1074 < b.exponent then 1 else 2
  let bound (a : Nat) := scaled a (b.exponent - 2) (-e)
  let low := bound (4 * b.significand - below)
  let high := bound (4 * b.significand + 2)
  if b.significand % 2 = 0 then low.1 ≤ d * low.2 && d * high.2 ≤ high.1
  else low.1 < d * low.2 && d * high.2 < high.1

/-- The decimal on the grid of multiples of `10 ^ e` that reads back as `b` and is nearest. -/
def onGrid? (tie : Tie) (b : Binary) (e : Int) : Option Decimal :=
  let v := scaled b.significand b.exponent (-e)
  let d := v.1 / v.2
  match readsBack b d e, readsBack b (d + 1) e with
  | true, true =>
    let twice := 2 * (v.1 % v.2)
    some ⟨if twice < v.2 || (twice = v.2 && tie.goesDown d) then d else d + 1, e⟩
  | true, false => some ⟨d, e⟩
  | false, true => some ⟨d + 1, e⟩
  | false, false => none

/-- The number of decimal digits before the point, negative for leading zeros after it, searched
upwards from a lower bound. -/
def magnitude (b : Binary) : Nat → Int → Int
  | 0, k => k
  | fuel + 1, k =>
    let v := scaled b.significand b.exponent (-k)
    if v.1 < v.2 then k else magnitude b fuel (k + 1)

/-- The first hit on grids of growing digit counts. -/
def searchGrids (tie : Tie) (b : Binary) (k : Int) : List Nat → Decimal
  | [] => ⟨b.significand * Nat.pow 2 b.exponent.toNat, 0⟩
  | n :: rest =>
    match onGrid? tie b (k - n) with
    | some d => d
    | none => searchGrids tie b k rest

/-- The decimal with the fewest digits that reads back as `b`, the nearest of those.  The grid of
no digits is there for numbers just below a power of ten. -/
def shortest (tie : Tie) (b : Binary) : Decimal :=
  if b.significand = 0 then ⟨0, 0⟩
  else searchGrids tie b (magnitude b 700 (-330)) (List.range 18)

end Binary

namespace Decimal

/-- How numbers are written. -/
structure Layout where
  /-- Which numbers are written positionally, by the number of digits before the point. -/
  isPositional : Int → Bool
  /-- Whether an exponent that is not negative has a plus sign. -/
  signsExponent : Bool
  tie : Tie

/-- Writes the digits with a point, and with a zero on either side that would be bare. -/
def positional (digits : List Char) (before : Int) : List Char :=
  if before ≤ 0 then '0' :: '.' :: List.replicate (-before).toNat '0' ++ digits
  else if before < digits.length then
    digits.take before.toNat ++ '.' :: digits.drop before.toNat
  else digits ++ List.replicate (before.toNat - digits.length) '0' ++ ['.', '0']

/-- Writes one digit, the others after a point, and the exponent. -/
def scientific (signsExponent : Bool) (digits : List Char) (before : Int) : List Char :=
  let fraction := match digits.drop 1 with
    | [] => []
    | rest => '.' :: rest
  let sign := if signsExponent && 0 < before then ['+'] else []
  digits.take 1 ++ fraction ++ 'e' :: sign ++ (toString (before - 1)).toList

/-- Writes a decimal. -/
def write (layout : Layout) (d : Decimal) : String :=
  if d.digits = 0 then "0.0"
  else
    let digits := Nat.toDigits 10 d.digits
    let before := d.exponent + digits.length
    String.ofList
      (if layout.isPositional before then positional digits before
      else scientific layout.signsExponent digits before)

end Decimal

/-- Writes a finite floating point number by its shortest decimal. -/
def writeFloat (layout : Decimal.Layout) (x : Float) : String :=
  let bits := x.toBits.toNat
  let text := ((Binary.ofBits bits).shortest layout.tie).write layout
  if bits < Nat.pow 2 63 then text else "-" ++ text

end ServiceSpec
