/-!
# Shortest decimals

The text of a machine number: the fewest decimal digits that read back as the number, written out
in full, without an exponent.

## Main definitions

* `Shortest.Interval` — the numbers that round to a machine number.
* `Shortest.Decimal` — digits and the power of ten they count.
* `Shortest.find` — the decimal of the coarsest power of ten that lies in an interval.
* `Shortest.text` — the text of a single-precision number.
-/

namespace Cityscape.Shortest

/-- The interval of the numbers that round to a positive machine number, in units of a power of
two. -/
structure Interval where
  low : Nat
  /-- The machine number itself. -/
  value : Nat
  high : Nat
  /-- Whether the ends round to the machine number too. -/
  closed : Bool
  /-- The power of two that is the unit. -/
  exponent : Int

/-- The number `digits * 10 ^ exponent`. -/
structure Decimal where
  digits : Nat
  /-- The power of ten. -/
  exponent : Int
  deriving DecidableEq, Repr

namespace Interval

/-- The numerator of a count of units, next to that of a count of `10 ^ exponent`. -/
def unitScale (i : Interval) (exponent : Int) : Nat :=
  Nat.pow 2 i.exponent.toNat * Nat.pow 10 (-exponent).toNat

/-- The numerator of a count of `10 ^ exponent`, next to that of a count of units. -/
def decimalScale (i : Interval) (exponent : Int) : Nat :=
  Nat.pow 10 exponent.toNat * Nat.pow 2 (-i.exponent).toNat

def contains (i : Interval) (d : Decimal) : Bool :=
  let x := d.digits * i.decimalScale d.exponent
  let low := i.low * i.unitScale d.exponent
  let high := i.high * i.unitScale d.exponent
  if i.closed then decide (low ≤ x ∧ x ≤ high) else decide (low < x ∧ x < high)

/-- The decimal of a given power of ten that lies in the interval and nearest to the machine number;
of two equally near ones the greater. -/
def nearest? (i : Interval) (exponent : Int) : Option Decimal :=
  let value := i.value * i.unitScale exponent
  let scale := i.decimalScale exponent
  let below : Decimal := ⟨value / scale, exponent⟩
  let above : Decimal := ⟨value / scale + 1, exponent⟩
  match i.contains below, i.contains above with
  | true, true => if 2 * (value % scale) < scale then some below else some above
  | true, false => some below
  | false, true => some above
  | false, false => none

end Interval

/-- The decimal of the greatest power of ten, among `count` from `exponent` downwards, that lies in
the interval. -/
def find (i : Interval) : Nat → Int → Option Decimal
  | 0, _ => none
  | count + 1, exponent => (i.nearest? exponent).or (find i count (exponent - 1))

/-- The interval of the numbers that round to a positive finite single-precision number. It reaches
half as far down as up at a power of two. -/
def interval (x : Float32) : Interval :=
  let exponent := (x.toBits >>> 23).toNat % 256
  let fraction := (x.toBits &&& 0x7fffff).toNat
  let m := if exponent = 0 then fraction else fraction + 0x800000
  let gap := if fraction = 0 ∧ 1 < exponent then 1 else 2
  ⟨4 * m - gap, 4 * m, 4 * m + 2, m % 2 = 0, (Max.max exponent 1 : Nat) - 152⟩

/-- A decimal written out. -/
def Decimal.text (d : Decimal) : String :=
  let digits := toString d.digits
  if 0 ≤ d.exponent then digits ++ String.ofList (List.replicate d.exponent.toNat '0')
  else
    let places := d.exponent.natAbs
    let padded := List.replicate (places + 1 - digits.length) '0' ++ digits.toList
    let whole := padded.length - places
    String.ofList (padded.take whole ++ '.' :: padded.drop whole)

/-- The text of a single-precision number. -/
def text (x : Float32) : String :=
  if x.isNaN then "NaN"
  else
    let sign := if x.toBits >>> 31 = 0 then "" else "-"
    if x.isInf then sign ++ "inf"
    else if x == 0 then sign ++ "0"
    else
      match find (interval x) 100 39 with
      | some d => sign ++ d.text
      | none => sign ++ "0"

end Cityscape.Shortest
