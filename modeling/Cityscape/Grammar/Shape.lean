import Cityscape.Rotation

/-!
# Shapes

A scope is an oriented box: one corner and the extents along the local axes, which the rotation of
the shape turns. A shape without depth is flat, such as a facade or a roof face.

## Main definitions

* `Scope`, `OrientedBox` — a box, and a box with its rotation.
* `Shape` — a part with its symbol, its place in a derivation and its saved scopes.
* `Shape.child`, `Shape.carrier` — shapes made from others.
* `Shape.isVisible` — flat, at depth zero and seen from the front.
* `Cover`, `Shape.covers` — how much of one shape's volume lies in another's.
-/

namespace Cityscape.Grammar

/-! ## Scopes -/

/-- The quantities of a scope that rules can read. -/
inductive ScopeProperty
  | position
  | size
  deriving DecidableEq, Repr

/-- A box by one corner and its extents. -/
structure Scope (α : Type) where
  /-- The corner. -/
  position : Vec3 α
  /-- The extents along the local axes. -/
  size : Vec3 α
  deriving Repr

/-- A box with its rotation, given by angles in degrees. -/
structure OrientedBox (α : Type) where
  scope : Scope α
  /-- How the box is turned around its corner. -/
  rotation : Vec3 α
  deriving Repr

namespace Scope

variable {α : Type} [Scalar α]

instance : Zero (Scope α) := ⟨⟨0, 0⟩⟩

def get {α : Type} (s : Scope α) (property : ScopeProperty) (axis : Axis) : α :=
  match property with
  | .position => s.position.get axis
  | .size => s.size.get axis

/-- The interval that a scope covers along an axis, whatever the sign of its extent. -/
def interval (s : Scope α) (axis : Axis) : α × α :=
  let a := s.position.get axis
  let b := a + s.size.get axis
  (Scalar.min a b, Scalar.max a b)

end Scope

/-! ## Shapes -/

/-- The number of a shape in the history of a derivation. -/
abbrev ShapeId := Nat

/-- What became of a shape. -/
inductive Status
  /-- It waits for its evaluation. -/
  | active
  /-- A rule was applied to it. -/
  | evaluated
  /-- No rule applies to it. -/
  | terminal
  deriving DecidableEq, Repr

/-- A shape of a derivation. -/
structure Shape (α : Type) where
  /-- Its symbol; a carrier, which only takes a scope from one operation to the next, has none. -/
  symbol : Option String
  scope : Scope α
  /-- How the box is turned, by angles in degrees. -/
  rotation : Vec3 α
  /-- The scopes that were saved, the last first. -/
  saved : List (Scope α)
  parent : Option ShapeId
  /-- Its own number, once it has entered the history. -/
  id : Option ShapeId
  status : Status
  deriving Repr

namespace Shape

variable {α : Type}

/-- A shape that belongs to no derivation yet. -/
def ofBox (symbol : Option String) (part : OrientedBox α) : Shape α :=
  ⟨symbol, part.scope, part.rotation, [], none, none, .active⟩

def box (s : Shape α) : OrientedBox α := ⟨s.scope, s.rotation⟩

/-- The shape without symbol and extent. -/
def blank [Scalar α] : Shape α := ofBox none ⟨0, 0⟩

/-- The parent of the shapes that are derived from a shape: the shape itself once it has a number,
but a carrier, which never enters the history, hands down its own parent. -/
def lineageParent (s : Shape α) : Option ShapeId :=
  match s.symbol with
  | some _ => s.id.or s.parent
  | none => s.parent

/-- A shape without symbol. -/
def carrier (part : OrientedBox α) (parent : Option ShapeId) : Shape α :=
  { ofBox none part with parent }

/-- A shape that is derived from another. -/
def child (s : Shape α) (symbol : String) (part : OrientedBox α) : Shape α :=
  { ofBox (some symbol) part with parent := s.lineageParent }

def hasSymbol (s : Shape α) (symbol : String) : Bool := s.symbol == some symbol

/-! ## Visibility and cover -/

section

variable [Scalar α] [Trigonometry α]

def orientation (s : Shape α) : Rotation α := .ofAngles s.rotation

/-- Whether a shape is flat, lies at depth zero and faces straight ahead. -/
def isVisible (s : Shape α) : Bool :=
  let facing := (s.orientation.apply (.unit .z)).normalize.dot (.unit .z)
  Scalar.approximately facing 1 && s.scope.position.z == 0 && s.scope.size.z == 0

end

end Shape

/-- How much of a shape's volume another shape covers. -/
inductive Cover
  | full
  | part
  | none
  deriving DecidableEq, Repr

namespace Cover

variable {α : Type} [Scalar α]

/-- The number that stands for a cover in conditions. -/
def code : Cover → α
  | full => 0
  | part => 1
  | none => 2.0

def name : Cover → String
  | full => "full"
  | part => "partial"
  | none => "none"

def ofName? : String → Option Cover
  | "full" => some full
  | "partial" => some part
  | "none" => some none
  | _ => .none

end Cover

namespace Shape

variable {α : Type} [Scalar α]

/-- Follows the axes that are left: the cover is nothing as soon as the intervals along one axis
have no inner point in common, and full when the target's interval lies inside along all of them. -/
def coverAlong (s target : Shape α) : List Axis → Bool → Cover
  | [], contained => if contained then .full else .part
  | axis :: rest, contained =>
    let a := s.scope.interval axis
    let b := target.scope.interval axis
    if b.2 ≤ a.1 ∨ a.2 ≤ b.1 then .none
    else coverAlong s target rest (contained && decide (a.1 ≤ b.1) && decide (b.2 ≤ a.2))

/-- How much of the target's axis-aligned volume a shape's volume covers. -/
def covers (s target : Shape α) : Cover := s.coverAlong target Axis.all true

end Shape

end Cityscape.Grammar
