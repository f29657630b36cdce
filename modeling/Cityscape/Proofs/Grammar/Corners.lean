import Mathlib
import Cityscape.Grammar.Component
import Cityscape.Proofs.Rotation

/-!
# Corners of a box

The sides, the vertices and the edges of a box with depth are all placed at the corners of its
footprint. Sides and vertices are placed as if the box were not turned, at the same places whatever
the numbers are. Edges are placed where the box has its corners after it was turned. So vertices and
edges are at the same places just when the rotation leaves the extents of the box where they are,
which a box with three extents only has at whole turns.

## Main definitions

* `ComponentKind.place?` — where a part of a split is placed.
* `OrientedBox.CornersAgree` — vertices and edges are placed alike.

## Main statements

* `OrientedBox.place?_sideFaces` — sides and vertices are placed alike.
* `OrientedBox.cornersAgree_iff` — when vertices and edges are.
-/

namespace Cityscape.Grammar

/-! ## Places of parts -/

section

variable {α : Type} [Scalar α] [Trigonometry α]

/-- Where a split places the part with a number. -/
def ComponentKind.place? (kind : ComponentKind) (p : OrientedBox α) (k : Nat) : Option (Vec3 α) :=
  ((kind.components p)[k]?).map (·.scope.position)

/-- A corner of the footprint, as fractions of the extents. -/
def footprintCorner (i : Nat) : Vec3 α := footprintCorners.getD i 0

/-- The corner above a corner of the footprint, as fractions of the extents. -/
def topCorner (i : Nat) : Vec3 α := footprintCorner i + Vec3.unit .y

namespace OrientedBox

/-- The splits into vertices and into edges place the bottom and the top of each corner alike. -/
def CornersAgree (p : OrientedBox α) : Prop :=
  ∀ i < 4, ComponentKind.vertices.place? p (2 * i) = ComponentKind.edges.place? p (3 * i) ∧
    ComponentKind.vertices.place? p (2 * i + 1) = ComponentKind.edges.place? p (3 * i + 2)

variable {p : OrientedBox α} {i : Nat}

theorem place?_sideFaces (p : OrientedBox α) (hi : i < 4) :
    ComponentKind.sideFaces.place? p i =
      some (p.scope.position + (footprintCorner i).stretch p.scope.size) := by
  interval_cases i <;> rfl

theorem place?_vertices (hdepth : p.isFlat = false) (hi : i < 4) :
    ComponentKind.vertices.place? p (2 * i) =
        some (p.scope.position + (footprintCorner i).stretch p.scope.size) ∧
      ComponentKind.vertices.place? p (2 * i + 1) =
        some (p.scope.position + (topCorner i).stretch p.scope.size) := by
  unfold ComponentKind.place? ComponentKind.components
  rw [hdepth]
  interval_cases i <;> exact ⟨rfl, rfl⟩

theorem place?_edges (hdepth : p.isFlat = false) (hi : i < 4) :
    ComponentKind.edges.place? p (3 * i) = some (p.corner (footprintCorner i)) ∧
      ComponentKind.edges.place? p (3 * i + 2) = some (p.corner (topCorner i)) := by
  unfold ComponentKind.place? ComponentKind.components
  rw [hdepth]
  interval_cases i <;> exact ⟨rfl, rfl⟩

/-- Vertices and edges are placed alike if and only if turning the box does not move its corners. -/
theorem cornersAgree_iff_corner (hdepth : p.isFlat = false) :
    p.CornersAgree ↔ ∀ i < 4,
      p.scope.position + (footprintCorner i).stretch p.scope.size = p.corner (footprintCorner i) ∧
        p.scope.position + (topCorner i).stretch p.scope.size = p.corner (topCorner i) := by
  refine forall₂_congr fun i hi => ?_
  rw [(place?_vertices hdepth hi).1, (place?_vertices hdepth hi).2, (place?_edges hdepth hi).1,
    (place?_edges hdepth hi).2, Option.some_inj, Option.some_inj]

end OrientedBox

end

/-! ## Corners of a turned box -/

namespace OrientedBox

variable {p : OrientedBox ℝ}

/-- The extent of a box along an axis, before the box is turned. -/
noncomputable def extent (p : OrientedBox ℝ) (axis : Axis) : Vec3 ℝ :=
  (Vec3.unit axis).scale (p.scope.size.get axis)

/-- The rotation leaves the extents of a box where they are. -/
def KeepsExtents (p : OrientedBox ℝ) : Prop :=
  ∀ axis, p.orientation.apply (p.extent axis) = p.extent axis

theorem stretch_size (p : OrientedBox ℝ) (fractions : Vec3 ℝ) :
    fractions.stretch p.scope.size = (p.extent .x).scale fractions.x +
      (p.extent .y).scale fractions.y + (p.extent .z).scale fractions.z := by
  simp [extent, Vec3.stretch, Vec3.scale, Vec3.unit, Vec3.set, Vec3.get, Vec3.add_real,
    Vec3.zero_real, mul_comm]

/-- The extents lead from the first corner to the corners beside it and above it. -/
theorem extent_eq_stretch (p : OrientedBox ℝ) :
    (footprintCorner 1).stretch p.scope.size = p.extent .x ∧
      (topCorner 0).stretch p.scope.size = p.extent .y ∧
      (footprintCorner 3).stretch p.scope.size = p.extent .z := by
  simp [footprintCorner, footprintCorners, topCorner, extent, Vec3.stretch, Vec3.scale, Vec3.unit,
    Vec3.set, Vec3.get, Vec3.add_real, Vec3.zero_real]

theorem KeepsExtents.apply_stretch (h : p.KeepsExtents) (fractions : Vec3 ℝ) :
    p.orientation.apply (fractions.stretch p.scope.size) = fractions.stretch p.scope.size := by
  rw [stretch_size]
  simp only [Rotation.apply_add, Rotation.apply_scale, h .x, h .y, h .z]

theorem corner_eq_iff {fractions : Vec3 ℝ} :
    p.scope.position + fractions.stretch p.scope.size = p.corner fractions ↔
      p.orientation.apply (fractions.stretch p.scope.size) = fractions.stretch p.scope.size := by
  rw [corner, Vec3.add_left_cancel_iff, eq_comm]

/-- Vertices and edges are placed alike if and only if the rotation does not move the extents. -/
theorem cornersAgree_iff_keepsExtents (hdepth : p.isFlat = false) :
    p.CornersAgree ↔ p.KeepsExtents := by
  rw [cornersAgree_iff_corner hdepth]
  simp only [corner_eq_iff]
  constructor
  · intro h axis
    obtain ⟨hx, hy, hz⟩ := p.extent_eq_stretch
    cases axis with
    | x => exact hx ▸ (h 1 (by decide)).1
    | y => exact hy ▸ (h 0 (by decide)).2
    | z => exact hz ▸ (h 3 (by decide)).1
  · intro h i _
    exact ⟨h.apply_stretch _, h.apply_stretch _⟩

/-- A box with three extents keeps them at whole turns only. -/
theorem keepsExtents_iff_wholeTurns (hsize : ∀ axis, p.scope.size.get axis ≠ 0) :
    p.KeepsExtents ↔ p.rotation.WholeTurns := by
  rw [← Rotation.ofAngles_apply_unit_iff_wholeTurns]
  refine forall_congr' fun axis => ?_
  rw [extent, Rotation.apply_scale, Vec3.scale_inj (hsize axis)]
  rfl

/-- Sides and vertices of a box with depth are placed alike, in any numbers, and so are vertices and
edges if and only if turning the box does not move its corners. In real numbers this says that the
rotation does not move the extents of the box; if there are three of them, it has to consist of
whole turns. -/
theorem cornersAgree_iff {α : Type} [Scalar α] [Trigonometry α] (p : OrientedBox α)
    (hdepth : p.isFlat = false) :
    (∀ i < 4, ∃ place, ComponentKind.sideFaces.place? p i = some place ∧
        ComponentKind.vertices.place? p (2 * i) = some place) ∧
      (p.CornersAgree ↔ ∀ i < 4,
        p.scope.position + (footprintCorner i).stretch p.scope.size =
            p.corner (footprintCorner i) ∧
          p.scope.position + (topCorner i).stretch p.scope.size = p.corner (topCorner i)) ∧
      ∀ q : OrientedBox ℝ, q.scope.size.z ≠ 0 →
        (q.CornersAgree ↔ q.KeepsExtents) ∧
          ((∀ axis, q.scope.size.get axis ≠ 0) → (q.CornersAgree ↔ q.rotation.WholeTurns)) := by
  refine ⟨fun i hi => ⟨_, place?_sideFaces p hi, (place?_vertices hdepth hi).1⟩,
    cornersAgree_iff_corner hdepth, fun q hz => ?_⟩
  have hagree := cornersAgree_iff_keepsExtents (p := q) (beq_eq_false_iff_ne.2 hz)
  exact ⟨hagree, fun hsize => hagree.trans (keepsExtents_iff_wholeTurns hsize)⟩

/-- A mass that is turned by a whole turn. -/
theorem cornersAgree_iff_mass :
    let mass : OrientedBox ℝ := ⟨⟨⟨1, 0, 2⟩, ⟨4, 3, 2⟩⟩, ⟨0, 360, 0⟩⟩
    mass.isFlat = false ∧ mass.scope.size.z ≠ 0 ∧
      (∀ i < 4, ∃ place, ComponentKind.sideFaces.place? mass i = some place ∧
        ComponentKind.vertices.place? mass (2 * i) = some place) ∧
      mass.CornersAgree := by
  intro mass
  have hdepth : mass.scope.size.z ≠ 0 := by norm_num [mass]
  have hsize (axis : Axis) : mass.scope.size.get axis ≠ 0 := by
    cases axis <;> norm_num [mass, Vec3.get]
  have hturns : mass.rotation.WholeTurns := by
    left
    rintro (_ | _ | _)
    · exact ⟨0, by norm_num [mass, Vec3.get]⟩
    · exact ⟨1, by norm_num [mass, Vec3.get]⟩
    · exact ⟨0, by norm_num [mass, Vec3.get]⟩
  have hflat : mass.isFlat = false := beq_eq_false_iff_ne.2 hdepth
  obtain ⟨hsides, -, hreal⟩ := cornersAgree_iff mass hflat
  exact ⟨hflat, hdepth, hsides, ((hreal mass hdepth).2 hsize).2 hturns⟩

/-- A mass that is turned round has its vertices and its edges at different places. -/
theorem not_cornersAgree_turnedMass :
    ¬ (⟨⟨⟨1, 0, 2⟩, ⟨4, 3, 2⟩⟩, ⟨0, 180, 0⟩⟩ : OrientedBox ℝ).CornersAgree := by
  have hsize (axis : Axis) : (⟨4, 3, 2⟩ : Vec3 ℝ).get axis ≠ 0 := by
    cases axis <;> norm_num [Vec3.get]
  rw [cornersAgree_iff_keepsExtents (beq_eq_false_iff_ne.2 (hsize .z)),
    keepsExtents_iff_wholeTurns hsize]
  rintro (h | h)
  · obtain ⟨k, hk⟩ := h .y
    have hk : (180 : ℝ) = (k * 360 : ℤ) := hk
    have hk : (180 : ℤ) = k * 360 := by exact_mod_cast hk
    omega
  · obtain ⟨k, hk⟩ := h .x
    have hk : (0 : ℝ) = (k * 360 + 180 : ℤ) := hk
    have hk : (0 : ℤ) = k * 360 + 180 := by exact_mod_cast hk
    omega

end OrientedBox

end Cityscape.Grammar
