import Cityscape.Grammar.Error
import Cityscape.Grammar.Shape

/-!
# Components

The faces, edges and vertices of a box. Sides are counted around the footprint from the front, going
clockwise seen from above. Faces are the four sides, the bottom and the top. Edges come in threes
for each corner of the footprint: along the bottom, upright, along the top. Vertices come in twos:
at the bottom, at the top. A face is a flat part, an edge a part with a width only, a vertex a part
without extent.

## Main definitions

* `OrientedBox.sideFaces`, `OrientedBox.faces`, `OrientedBox.edges`, `OrientedBox.vertices` —
  components of a box with depth.
* `OrientedBox.outlineEdges`, `OrientedBox.outlineVertices` — components of a flat box.
* `ComponentKind.components` — the components of a kind.
-/

namespace Cityscape.Grammar

/-! ## Corners -/

section

variable {α : Type} [Scalar α]

/-- The four corners of the footprint in order, as fractions of the extents. -/
def footprintCorners : List (Vec3 α) := [⟨0, 0, 0⟩, ⟨1, 0, 0⟩, ⟨1, 0, 1⟩, ⟨0, 0, 1⟩]

/-- The four corners of a flat box in order, as fractions of the extents. -/
def outlineCorners : List (Vec3 α) := [⟨0, 0, 0⟩, ⟨1, 0, 0⟩, ⟨1, 1, 0⟩, ⟨0, 1, 0⟩]

/-- The angle by which the side with a number is turned against the front. -/
def sideTurn (i : Nat) : α := -90.0 * Scalar.ofNat i

end

namespace OrientedBox

variable {α : Type} [Scalar α]

/-- The part with a given corner and given extents, turned by `turn` more than another one. -/
def piece (p : OrientedBox α) (position size turn : Vec3 α) : OrientedBox α :=
  ⟨⟨position, size⟩, p.rotation + turn⟩

/-- Whether a box has no depth. -/
def isFlat (p : OrientedBox α) : Bool := p.scope.size.z == 0

/-! ## Faces -/

def sideFaces (p : OrientedBox α) : List (OrientedBox α) :=
  let s := p.scope.size
  footprintCorners.zipIdx.map fun (corner, i) =>
    let size : Vec3 α := if i % 2 = 0 then ⟨s.x, s.y, 0⟩ else ⟨s.z, s.y, 0⟩
    p.piece (p.scope.position + corner.stretch s) size ⟨0, sideTurn i, 0⟩

/-- The four sides, the bottom and the top. -/
def faces (p : OrientedBox α) : List (OrientedBox α) :=
  let s := p.scope.size
  p.sideFaces ++
    [p.piece (p.scope.position + (Vec3.unit .z).stretch s) ⟨s.x, s.z, 0⟩ ⟨-90.0, 0, 0⟩,
      p.piece (p.scope.position + s) ⟨s.x, s.z, 0⟩ ⟨90.0, 180.0, 0⟩]

/-! ## Vertices of a box with depth -/

/-- The vertices at the bottom and at the top of each corner. -/
def vertices (p : OrientedBox α) : List (OrientedBox α) :=
  let s := p.scope.size
  footprintCorners.zipIdx.flatMap fun (corner, i) =>
    [p.piece (p.scope.position + corner.stretch s) 0 ⟨0, sideTurn i, 0⟩,
      p.piece (p.scope.position + (corner + Vec3.unit .y).stretch s) 0 ⟨0, sideTurn i, 0⟩]

variable [Trigonometry α]

def orientation (p : OrientedBox α) : Rotation α := .ofAngles p.rotation

/-- A point of the box given by fractions of its extents. -/
def corner (p : OrientedBox α) (fractions : Vec3 α) : Vec3 α :=
  p.scope.position + p.orientation.apply (fractions.stretch p.scope.size)

/-! ## Edges of a box with depth -/

/-- The way in which the upright edge at a corner is tilted. -/
def tilt (i : Nat) : α := if i % 4 = 0 ∨ i % 4 = 3 then 1 else -1

/-- How the upright edge at a corner is turned against the front. -/
def uprightTurn (i : Nat) : Vec3 α :=
  if i % 2 = 0 then ⟨0, sideTurn i, tilt i * -90.0⟩ else ⟨tilt i * -90.0, -sideTurn i, 0⟩

/-- The edges along the bottom, upright and along the top that start at each corner. -/
def edges (p : OrientedBox α) : List (OrientedBox α) :=
  let s := p.scope.size
  footprintCorners.zipIdx.flatMap fun (corner, i) =>
    let run : Vec3 α := if i % 2 = 0 then ⟨s.x, 0, 0⟩ else ⟨s.z, 0, 0⟩
    let bottom := p.corner corner
    let top := p.corner (corner + Vec3.unit .y)
    [p.piece bottom run ⟨0, sideTurn i, 0⟩, p.piece bottom ⟨s.y, 0, 0⟩ (uprightTurn i),
      p.piece top run ⟨0, sideTurn i, 0⟩]

/-! ## Components of a flat box -/

/-- The edges of a flat box. -/
def outlineEdges (p : OrientedBox α) : List (OrientedBox α) :=
  let s := p.scope.size
  outlineCorners.zipIdx.map fun (corner, i) =>
    let run : Vec3 α := if i % 2 = 0 then ⟨s.x, 0, 0⟩ else ⟨s.y, 0, 0⟩
    p.piece (p.corner corner) run ⟨0, sideTurn i, 0⟩

def outlineVertices (p : OrientedBox α) : List (OrientedBox α) :=
  outlineCorners.map fun corner => ⟨⟨p.corner corner, 0⟩, p.rotation⟩

end OrientedBox

/-! ## Kinds -/

/-- Every third element of a list, from the one with index `skip` on. -/
def everyThird {β : Type} : Nat → List β → List β
  | _, [] => []
  | 0, b :: rest => b :: everyThird 2 rest
  | skip + 1, _ :: rest => everyThird skip rest

namespace ComponentKind

/-- Whether a kind selects a single component by its number. -/
def isSingle : ComponentKind → Bool
  | face | sideFace | edge | vertex => true
  | _ => false

/-- Whether a kind needs a box with depth. -/
def needsDepth : ComponentKind → Bool
  | edges | edge | vertices | vertex => false
  | _ => true

variable {α : Type} [Scalar α] [Trigonometry α]

/-- The components of a kind; for a kind that selects a single one, those it selects from. -/
def components (p : OrientedBox α) : ComponentKind → List (OrientedBox α)
  | faces | face => p.faces
  | sideFaces | sideFace => p.sideFaces
  | edges | edge => if p.isFlat then p.outlineEdges else p.edges
  | vertices | vertex => if p.isFlat then p.outlineVertices else p.vertices
  | bottomEdges => everyThird 0 p.edges
  | sideEdges => everyThird 1 p.edges
  | topEdges => everyThird 2 p.edges

end ComponentKind

end Cityscape.Grammar
