import Cityscape.Scalar

/-!
# Single-precision numbers

The numbers the program runs on. The roundings are defined through the conversion between numbers
and counts, and the conversions between the precisions through the parts of a number, so that each
is a computation a proof can follow.

## Main definitions

* `Single.round`, `Single.ceil` — whole numbers next to a number.
* `Single.ofDouble`, `Single.toDouble` — the conversions from and to double precision.
* the instance `Scalar Float32`.
-/

namespace Cityscape

namespace Single

/-- From this magnitude on every number is whole. -/
def wholeFrom : Float32 := 8388608

/-- The whole number at or below a magnitude smaller than `wholeFrom`. -/
def truncate (x : Float32) : Float32 := x.toUInt64.toFloat32

/-- The nearest whole number; a half goes away from zero, and the sign is kept, also on zero. -/
def round (x : Float32) : Float32 :=
  if x.abs < wholeFrom then
    if x == 0 then x
    else
      let low := truncate x.abs
      let magnitude := if (0.5 : Float32) ≤ x.abs - low then low + 1 else low
      if x < 0 then -magnitude else magnitude
  else x

/-- The least whole number that is not smaller; the sign is kept, also on zero. -/
def ceil (x : Float32) : Float32 :=
  if x.abs < wholeFrom then
    if x == 0 then x
    else
      let low := truncate x.abs
      if x < 0 then -low else if low < x then low + 1 else low
  else x

/-- For a positive number, the next smaller one: its bits are the next smaller word. -/
def pred (x : Float32) : Float32 := Float32.ofBits (x.toBits - 1)

def largest : Float32 := Float32.ofBits 0x7f7fffff

open Float.Model (Format UnpackedFloat)

/-- The parts of the nearest number of a format; of two equally near ones the even one. -/
def nearestParts (format : Format) : UnpackedFloat → UnpackedFloat
  | .finite sign mantissa exponent _ => .round format sign mantissa exponent
  | special => special

/-- The single-precision number nearest to one of double precision. -/
def ofDouble (x : Float) : Float32 :=
  .ofBits ⟨(nearestParts .binary32 (.unpack .binary64 x.toBits.toBitVec)).pack .binary32⟩

/-- A single-precision number in double precision, where it has the same value. -/
def toDouble (x : Float32) : Float :=
  .ofBits ⟨(nearestParts .binary64 (.unpack .binary32 x.toBits.toBitVec)).pack .binary64⟩

end Single

instance : Scalar Float32 where
  zero := 0
  one := 1
  decidableLT := inferInstance
  decidableLE := inferInstance
  ofNat n := Float32.ofNat n
  abs := Float32.abs
  sqrt := Float32.sqrt
  round := Single.round
  ceil := Single.ceil
  whole x := x.toUInt64.toNat
  isFinite := Float32.isFinite
  pred := Single.pred
  largest := Single.largest

end Cityscape
