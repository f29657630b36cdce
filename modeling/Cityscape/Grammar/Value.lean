import Cityscape.Grammar.Shape
import Cityscape.Random.Stream

/-!
# Values

Numeric expressions of rules. Every value says whether it is relative; what that means is up to the
operation that uses it.

## Main definitions

* `Value` — an expression.
* `Value.compute` — its number, which may depend on the current scope and on chance.
-/

namespace Cityscape

/-- A random number between two bounds in any order. A bound that is not finite leaves the other
one, and without finite bounds the number is zero. -/
def RandomStream.range {α : Type} [Scalar α] (low high : α) (s : RandomStream) :
    Except Fault (α × RandomStream) :=
  match Scalar.isFinite low, Scalar.isFinite high with
  | true, false => .ok (low, s)
  | false, true => .ok (high, s)
  | false, false => .ok (0, s)
  | true, true =>
    let (low, high) := if low ≤ high then (low, high) else (high, low)
    if low == high then .ok (low, s) else s.between low high

namespace Grammar

/-- The operations on numbers. -/
inductive Operator
  | add
  | subtract
  | multiply
  | divide
  | power
  deriving DecidableEq, Repr

/-- A numeric expression; the flag of every value says whether it is relative. -/
inductive Value (α : Type)
  | number (relative : Bool) (value : α)
  | operation (relative : Bool) (operator : Operator) (lhs rhs : Value α)
  | random (relative : Bool) (low high : Value α)
  /-- A quantity of the scope of the shape under evaluation. -/
  | scope (relative : Bool) (property : ScopeProperty) (axis : Axis)
  /-- The number that stands for a cover. -/
  | cover (relative : Bool) (result : Cover)
  deriving Repr

def Operator.apply {α : Type} [Scalar α] [Trigonometry α] (a b : α) : Operator → α
  | add => a + b
  | subtract => a - b
  | multiply => a * b
  | divide => a / b
  | power => Trigonometry.pow a b

namespace Value

variable {α : Type}

def relative : Value α → Bool
  | number r .. | operation r .. | random r .. | scope r .. | cover r .. => r

variable [Scalar α] [Trigonometry α]

/-- The number of a value for the scope of the shape under evaluation, and the random stream after
it. -/
def compute (current : Scope α) : Value α → RandomStream → Except Fault (α × RandomStream)
  | number _ v, s => .ok (v, s)
  | operation _ operator lhs rhs, s => do
    let (a, s) ← lhs.compute current s
    let (b, s) ← rhs.compute current s
    return (operator.apply a b, s)
  | random _ low high, s => do
    let (low, s) ← low.compute current s
    let (high, s) ← high.compute current s
    s.range low high
  | scope _ property axis, s => .ok (current.get property axis, s)
  | cover _ result, s => .ok (result.code, s)

def computeAll (current : Scope α) :
    List (Value α) → RandomStream → Except Fault (List α × RandomStream)
  | [], s => .ok ([], s)
  | v :: rest, s => do
    let (x, s) ← v.compute current s
    let (xs, s) ← computeAll current rest s
    return (x :: xs, s)

end Value

end Grammar

end Cityscape
