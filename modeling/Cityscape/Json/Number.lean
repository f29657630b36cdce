import Cityscape.Json
import Cityscape.Scalar.Single

/-!
# Numbers in JSON texts

How the digits of a number are turned into its value. The digits are collected into one machine
word; digits that no longer fit only shift the decimal point. The word is then multiplied with, or
divided by, one power of ten.

## Main definitions

* `Decimal` — the sign, digits and exponent of a number as written.
* `Decimal.toNumeral?` — its value; nothing when the value is beyond the range of numbers.
* `OfNumeral` — the conversion between written numbers and a number type.
-/

namespace Cityscape.Json

/-- A number as written, in its decimal digits. -/
structure Decimal where
  negative : Bool
  /-- The digits in front of the point. -/
  whole : List Nat
  /-- The digits after the point, if there is one. -/
  fraction : Option (List Nat)
  /-- The exponent, if there is one: whether it is negative, and its digits. -/
  exponent : Option (Bool × List Nat)

namespace Decimal

def wordMax : Nat := 0xffffffffffffffff

/-- The largest exponent that is read. -/
def exponentMax : Nat := 0x7fffffff

/-- Digits collected into a word as far as they fit, and the number of digits taken. -/
def collect (word : Nat) : List Nat → Nat × Nat
  | [] => (word, 0)
  | d :: rest =>
    if word * 10 + d ≤ wordMax then
      let (word, taken) := collect (word * 10 + d) rest
      (word, taken + 1)
    else (word, 0)

/-- The powers of ten that have a finite value. -/
def powersOfTen : Array Float := (Array.range 309).map fun k => Float.ofScientific 1 false k

/-- Divides by the largest power of ten as long as the exponent is beyond the table. -/
def shrink : Nat → Float → Nat → Float
  | 0, f, _ => f
  | fuel + 1, f, k =>
    match powersOfTen[k]? with
    | some p => f / p
    | none => if f == 0 then f else shrink fuel (f / 1e308) (k - 308)

/-- The magnitude `word * 10 ^ exponent`; nothing when it is beyond the range of numbers. -/
def magnitude? (word : Nat) (exponent : Int) : Option Float :=
  let f := word.toUInt64.toFloat
  if exponent < 0 then some (shrink 8 f exponent.natAbs)
  else match powersOfTen[exponent.natAbs]? with
    | some p => let v := f * p; if v.isInf then none else some v
    | none => if f == 0 then some f else none

/-- The value of a written number. Without point and exponent it is a whole number if it fits a
machine word; a zero with a minus sign is not whole. -/
def toNumeral? (d : Decimal) : Option Numeral :=
  let (word, taken) := collect 0 d.whole
  let rest := d.whole.length - taken
  let signed (f : Float) : Numeral := .real (if d.negative then -f else f)
  if d.fraction.isNone && d.exponent.isNone && rest == 0 then
    if d.negative then
      if word = 0 ∨ 0x8000000000000000 < word then some (signed word.toUInt64.toFloat)
      else some (.negative word)
    else some (.natural word)
  else
    let (word, places) := match d.fraction with
      | none => (word, 0)
      | some digits => collect word digits
    let start : Int := (rest : Int) - (places : Int)
    match d.exponent with
    | none => (magnitude? word start).map signed
    | some (below, digits) =>
      let e := digits.foldl (fun e k => e * 10 + k) 0
      if exponentMax < e then
        if word ≠ 0 ∧ below = false then none else some (signed 0)
      else (magnitude? word (if below then start - e else start + e)).map signed

end Decimal

/-! ## Conversion to a number type -/

/-- How written numbers are read as numbers of type `α`, and written from them. -/
class OfNumeral (α : Type) where
  /-- The number nearest to a written one. -/
  ofNumeral : Numeral → α
  /-- The written form of a number, if it has one. -/
  toNumeral? : α → Option Numeral

instance : OfNumeral Float32 where
  ofNumeral
    | .natural n => n.toUInt64.toFloat32
    | .negative n => -n.toUInt64.toFloat32
    | .real x => Single.ofDouble x
  toNumeral? x := if x.isFinite then some (.real (Single.toDouble x)) else none

instance : OfNumeral Float where
  ofNumeral
    | .natural n => n.toUInt64.toFloat
    | .negative n => -n.toUInt64.toFloat
    | .real x => x
  toNumeral? x := if x.isFinite then some (.real x) else none

end Cityscape.Json
