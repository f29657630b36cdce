/-!
# Scalars

The numbers a city is computed in. Every generator of this library is written over a type with
these operations and nothing else, so one definition serves the machine numbers it runs on and the
exact numbers in which its geometry can be stated.

## Main definitions

* `Scalar` — arithmetic, comparison, the roundings the generators use, and conversion from counts.
* `Scalar.min`, `Scalar.max`, `Scalar.clamp` — selections that are indifferent to a number that
  does not compare with itself.
* `Scalar.sum` — the sum of a list, from the left.
* `Scalar.approximately` — equality up to `Scalar.tolerance`.
-/

namespace Cityscape

/-- A type of numbers with the operations that the generators use. -/
class Scalar (α : Type) extends Add α, Sub α, Mul α, Div α, Neg α, LT α, LE α, BEq α, Zero α,
    One α, OfScientific α where
  decidableLT : DecidableLT α
  decidableLE : DecidableLE α
  /-- The number nearest to a count. -/
  ofNat : Nat → α
  abs : α → α
  sqrt : α → α
  /-- The nearest whole number; a half goes away from zero. -/
  round : α → α
  ceil : α → α
  /-- The whole part as a count: zero for a negative number and for one that is not a number, and at
  most the largest machine word where numbers are machine numbers. -/
  whole : α → Nat
  /-- Whether the number is neither infinite nor undefined. -/
  isFinite : α → Bool
  /-- For a positive number, the next smaller one. -/
  pred : α → α
  largest : α

attribute [reducible, instance] Scalar.decidableLT Scalar.decidableLE

namespace Scalar

variable {α : Type} [Scalar α]

/-! ## Selections -/

/-- The smaller of two numbers, the first of two equal ones; an operand that is not a number is
passed over. -/
protected def min (a b : α) : α :=
  if b < a then b else if a == a then a else b

/-- The larger of two numbers, the first of two equal ones; an operand that is not a number is
passed over. -/
protected def max (a b : α) : α :=
  if a < b then b else if a == a then a else b

/-- The nearest number between `low` and `high`. -/
def clamp (low high a : α) : α :=
  if a < low then low else if high < a then high else a

/-! ## Sums -/

/-- The sum of a list, added up from the left; the empty sum is the zero that leaves every number
it is added to unchanged, which is the negative one. -/
protected def sum (xs : List α) : α :=
  xs.foldl (· + ·) (-0)

/-! ## Comparison up to a tolerance -/

/-- The tolerance of comparisons between map coordinates. -/
def tolerance : α := 1e-5

/-- Whether two numbers differ by no more than the tolerance. -/
def approximately (a b : α) : Bool :=
  decide (Scalar.abs (a - b) ≤ tolerance)

/-- Whether `a` lies in the closed interval from `low` to `high`. -/
def within (low high a : α) : Bool :=
  decide (low ≤ a) && decide (a ≤ high)

end Scalar

end Cityscape
