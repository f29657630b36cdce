import Mathlib
import Cityscape.Grammar.Component
import Cityscape.Proofs.Rotation

/-!
# Edges of a box

A part of the split into edges stands for a segment: it leads from the position of the part along
the first of the axes that are turned with it. In real numbers the parts along the bottom and along
the top of a box are edges of it. Of the four parts for the upright edges only the one at the corner
opposite to the position leads upwards; the others lead out of the box. A flat box is split into the
parts that would run around its footprint if it had a depth, so two of them leave its plane.

## Main definitions

* `Scope.vertex`, `Scope.edge` — vertices and edges of a box that is not turned.
* `OrientedBox.segment` — the segment that a part stands for.
* `OrientedBox.IsEdge`, `OrientedBox.TracesEdges` — edges, and a split that gives each of them once.
* `OrientedBox.PartlyTraces` — a split that gives some of the edges, and strays.
* `Trace` — what the parts stand for, apart from position and extents of the box.

## Main statements

* `map_segment_edges`, `map_segment_outlineEdges` — what the parts stand for.
* `OrientedBox.partlyTraces_edges` — which parts are edges, and which edges have a part.
-/

namespace Cityscape

deriving instance DecidableEq, Fintype for Vec3

instance : Fintype Axis := ⟨{.x, .y, .z}, fun axis => by cases axis <;> decide⟩

namespace Grammar

/-! ## Vertices and edges -/

namespace Scope

variable {s : Scope ℝ}

/-- A vertex of a box that is not turned. It lies at the far end along some of the axes. -/
def vertex (s : Scope ℝ) (far : Vec3 Bool) : Vec3 ℝ :=
  ⟨s.position.x + if far.x then s.size.x else 0, s.position.y + if far.y then s.size.y else 0,
    s.position.z + if far.z then s.size.z else 0⟩

/-- The edge along an axis that runs where the ends along the other axes say. -/
def edge (s : Scope ℝ) (axis : Axis) (far : Vec3 Bool) : Sym2 (Vec3 ℝ) :=
  s(s.vertex (far.set axis false), s.vertex (far.set axis true))

theorem vertex_get (s : Scope ℝ) (far : Vec3 Bool) (axis : Axis) :
    (s.vertex far).get axis =
      s.position.get axis + if far.get axis then s.size.get axis else 0 := by
  cases axis <;> rfl

theorem vertex_injective (h : ∀ axis, s.size.get axis ≠ 0) : Function.Injective s.vertex := by
  intro far far' heq
  have hget (axis : Axis) : far.get axis = far'.get axis := by
    have hcomponent := congrArg (Vec3.get · axis) heq
    simp only [vertex_get, add_right_inj] at hcomponent
    have hne := h axis
    grind
  have hx := hget .x
  have hy := hget .y
  have hz := hget .z
  cases far
  cases far'
  simp_all [Vec3.get]

/-- A vertex lies between the two ends along each axis. -/
theorem vertex_mem (h : ∀ axis, 0 ≤ s.size.get axis) (far : Vec3 Bool) (axis : Axis) :
    (s.vertex far).get axis ∈
      Set.Icc (s.position.get axis) (s.position.get axis + s.size.get axis) := by
  have hsize := h axis
  rw [vertex_get]
  constructor <;> split <;> linarith

/-- Across its axis an edge stays at one place. -/
theorem map_get_edge_of_ne (s : Scope ℝ) {axis other : Axis} (h : other ≠ axis) (far : Vec3 Bool) :
    (s.edge axis far).map (·.get other) =
      s((s.vertex far).get other, (s.vertex far).get other) := by
  simp only [edge, Sym2.map_mk, vertex_get, Vec3.get_set_of_ne _ _ h]

/-- Along its axis an edge leads from one end of the box to the other. -/
theorem map_get_edge (s : Scope ℝ) (axis : Axis) (far : Vec3 Bool) :
    (s.edge axis far).map (·.get axis) =
      s(s.position.get axis, s.position.get axis + s.size.get axis) := by
  simp [edge, vertex_get]

/-- In a flat box it does not matter at which end along the depth an edge runs. -/
theorem edge_x_of_flat (hz : s.size.z = 0) (far : Vec3 Bool) :
    s.edge .x far = s.edge .x ⟨false, far.y, false⟩ := by
  have hvertex (x : Bool) : s.vertex ⟨x, far.y, far.z⟩ = s.vertex ⟨x, far.y, false⟩ := by
    simp [vertex, hz]
  simp only [edge, Vec3.set, hvertex]

/-- The lower edges differ from the upper ones. -/
theorem edge_x_ne_of_height (hy : s.size.y ≠ 0) {far far' : Vec3 Bool} (h : far.y ≠ far'.y) :
    s.edge .x far ≠ s.edge .x far' := by
  intro heq
  have hheight := congrArg (Sym2.map (·.get .y)) heq
  rw [map_get_edge_of_ne s (by decide), map_get_edge_of_ne s (by decide), Sym2.eq_iff] at hheight
  simp only [vertex, Vec3.get] at hheight
  grind

/-- An upright edge has two heights. -/
theorem edge_y_ne_edge_x (hy : s.size.y ≠ 0) (far far' : Vec3 Bool) :
    s.edge .y far ≠ s.edge .x far' := by
  intro heq
  have hheight := congrArg (Sym2.map (·.get .y)) heq
  rw [map_get_edge, map_get_edge_of_ne s (by decide), Sym2.eq_iff] at hheight
  simp only [Vec3.get] at hheight
  grind

end Scope

namespace OrientedBox

/-- A segment is an edge of a box that is not turned. A flat box has only the edges around it. -/
def IsEdge (p : OrientedBox ℝ) (e : Sym2 (Vec3 ℝ)) : Prop :=
  ∃ axis far, p.scope.size.get axis ≠ 0 ∧ e = p.scope.edge axis far

/-- The segment that a part with a width only stands for: it leads from the position along the first
of the axes that are turned with the part. -/
noncomputable def segment (p : OrientedBox ℝ) : Sym2 (Vec3 ℝ) :=
  s(p.scope.position,
    p.scope.position + (p.orientation.apply (.unit .x)).scale p.scope.size.x)

/-- The segments that the parts of the split into edges stand for. -/
noncomputable def edgeSegments (p : OrientedBox ℝ) : List (Sym2 (Vec3 ℝ)) :=
  (ComponentKind.edges.components p).map segment

/-- The split into edges gives edges of the box only, and each of them once. -/
structure TracesEdges (p : OrientedBox ℝ) : Prop where
  isEdge : ∀ e ∈ p.edgeSegments, p.IsEdge e
  once : ∀ e, p.IsEdge e → ∃! k : Nat, p.edgeSegments[k]? = some e

/-- The split into edges gives different segments. Those with the numbers of strays are no edges,
and only some of the edges are given. -/
structure PartlyTraces (p : OrientedBox ℝ) (count : Nat) (strays : List Nat)
    (traced : Axis → Vec3 Bool → Prop) : Prop where
  length : p.edgeSegments.length = count
  nodup : p.edgeSegments.Nodup
  isEdge_iff {k : Nat} {e : Sym2 (Vec3 ℝ)} :
    p.edgeSegments[k]? = some e → (p.IsEdge e ↔ k ∉ strays)
  edge_mem_iff {axis : Axis} {far : Vec3 Bool} : p.scope.size.get axis ≠ 0 →
    (p.scope.edge axis far ∈ p.edgeSegments ↔ traced axis far)

end OrientedBox

/-! ## Traces -/

/-- What a part of the split into edges stands for, apart from the position and the extents of the
box. -/
inductive Trace
  /-- A segment between two vertices. -/
  | between (ends : Sym2 (Vec3 Bool))
  /-- A segment that leads out of the box, from a vertex along an axis. -/
  | stray (start : Vec3 Bool) (axis : Axis)
  deriving DecidableEq

namespace Trace

variable {s : Scope ℝ}

/-- The edge along an axis that runs where the ends along the other axes say. -/
def edge (axis : Axis) (far : Vec3 Bool) : Trace :=
  between s(far.set axis false, far.set axis true)

/-- Where a segment ends that leads out of the box: it is as long as the box is high. -/
noncomputable def tip (s : Scope ℝ) (start : Vec3 Bool) (axis : Axis) : Vec3 ℝ :=
  s.vertex start + (Vec3.unit axis).scale (if start.get axis then s.size.y else -s.size.y)

/-- The segment that a trace stands for. -/
noncomputable def segment (s : Scope ℝ) : Trace → Sym2 (Vec3 ℝ)
  | between ends => ends.map s.vertex
  | stray start axis => s(s.vertex start, tip s start axis)

theorem segment_edge (s : Scope ℝ) (axis : Axis) (far : Vec3 Bool) :
    (edge axis far).segment s = s.edge axis far := rfl

theorem tip_get (s : Scope ℝ) (start : Vec3 Bool) (axis : Axis) :
    (tip s start axis).get axis =
      (s.vertex start).get axis + if start.get axis then s.size.y else -s.size.y := by
  have hone : ((Vec3.unit axis).scale (if start.get axis then s.size.y else -s.size.y)).get axis =
      1 * if start.get axis then s.size.y else -s.size.y := by
    cases axis <;> rfl
  rw [one_mul] at hone
  rw [← hone]
  cases axis <;> rfl

theorem tip_get_of_ne (s : Scope ℝ) (start : Vec3 Bool) {axis other : Axis} (h : other ≠ axis) :
    (tip s start axis).get other = (s.vertex start).get other := by
  have hzero : ((Vec3.unit axis).scale (if start.get axis then s.size.y else -s.size.y)).get other =
      0 * if start.get axis then s.size.y else -s.size.y := by
    cases axis <;> cases other <;> first | rfl | exact absurd rfl h
  rw [zero_mul] at hzero
  have hadd : (tip s start axis).get other = (s.vertex start).get other +
      ((Vec3.unit axis).scale (if start.get axis then s.size.y else -s.size.y)).get other := by
    cases other <;> rfl
  rw [hadd, hzero, add_zero]

/-- What leads out of the box does not end at a vertex. -/
theorem tip_ne_vertex (h : ∀ axis, 0 ≤ s.size.get axis) (hy : 0 < s.size.y) (start far : Vec3 Bool)
    (axis : Axis) : tip s start axis ≠ s.vertex far := by
  intro heq
  -- Along its axis the tip lies outside of the box, but every vertex between the ends.
  have hcomponent := congrArg (Vec3.get · axis) heq
  obtain ⟨hlow, hhigh⟩ := s.vertex_mem h far axis
  simp only [tip_get, s.vertex_get start] at hcomponent
  have hsize := h axis
  grind

theorem segment_stray_ne_between (h : ∀ axis, 0 ≤ s.size.get axis) (hy : 0 < s.size.y)
    (start : Vec3 Bool) (axis : Axis) (ends : Sym2 (Vec3 Bool)) :
    (stray start axis).segment s ≠ (between ends).segment s := by
  intro heq
  change s(s.vertex start, tip s start axis) = ends.map s.vertex at heq
  have htip : tip s start axis ∈ ends.map s.vertex := heq ▸ Sym2.mem_mk_right _ _
  obtain ⟨far, -, hfar⟩ := Sym2.mem_map.1 htip
  exact tip_ne_vertex h hy start far axis hfar.symm

theorem segment_stray_ne_edge (h : ∀ axis, 0 ≤ s.size.get axis) (hy : 0 < s.size.y)
    (start : Vec3 Bool) (axis along : Axis) (far : Vec3 Bool) :
    (stray start axis).segment s ≠ s.edge along far := by
  rw [← segment_edge]
  exact segment_stray_ne_between h hy start axis _

/-- Across its axis also what leads out of the box stays at one place. -/
theorem map_get_stray_of_ne (s : Scope ℝ) {axis other : Axis} (h : other ≠ axis)
    (start : Vec3 Bool) :
    ((stray start axis).segment s).map (·.get other) =
      s((s.vertex start).get other, (s.vertex start).get other) := by
  simp only [segment, Sym2.map_mk, tip_get_of_ne s start h]

/-- What leads out of the box at different widths differs. -/
theorem segment_stray_ne_of_width (hx : s.size.x ≠ 0) {start start' : Vec3 Bool} {axis : Axis}
    (haxis : axis ≠ .x) (h : start.x ≠ start'.x) :
    (stray start axis).segment s ≠ (stray start' axis).segment s := by
  intro heq
  have hwidth := congrArg (Sym2.map (·.get .x)) heq
  rw [map_get_stray_of_ne s haxis.symm, map_get_stray_of_ne s haxis.symm, Sym2.eq_iff] at hwidth
  simp only [Scope.vertex, Vec3.get] at hwidth
  grind

/-- Different traces stand for different segments of a box with depth. -/
theorem segment_injective (h : ∀ axis, 0 < s.size.get axis) : Function.Injective (segment s) := by
  have hle (axis : Axis) : 0 ≤ s.size.get axis := (h axis).le
  have hvertex := s.vertex_injective fun axis => (h axis).ne'
  intro t u heq
  cases t with
  | between ends =>
    cases u with
    | between ends' => exact congrArg between (Sym2.map.injective hvertex heq)
    | stray start axis =>
      exact absurd heq.symm (segment_stray_ne_between hle (h .y) start axis ends)
  | stray start axis =>
    cases u with
    | between ends => exact absurd heq (segment_stray_ne_between hle (h .y) start axis ends)
    | stray start' axis' =>
      obtain ⟨hstart, htip⟩ | ⟨hstart, -⟩ := Sym2.eq_iff.1 heq
      · obtain rfl := hvertex hstart
        congr 1
        by_contra hne
        have hcomponent := congrArg (Vec3.get · axis) htip
        simp only [tip_get, tip_get_of_ne s start hne] at hcomponent
        have hy : 0 < s.size.y := h .y
        grind
      · exact absurd hstart.symm (tip_ne_vertex hle (h .y) start' start axis')

end Trace

/-! ## What the parts stand for -/

/-- Where the parts along the bottom and along the top lead. -/
def sideDirection : Nat → Vec3 ℝ
  | 0 => ⟨1, 0, 0⟩
  | 1 => ⟨0, 0, 1⟩
  | 2 => ⟨-1, 0, 0⟩
  | _ => ⟨0, 0, -1⟩

/-- Where the parts for the upright edges lead. -/
def uprightDirection : Nat → Vec3 ℝ
  | 0 => ⟨0, -1, 0⟩
  | 1 => ⟨0, 0, -1⟩
  | 2 => ⟨0, 1, 0⟩
  | _ => ⟨0, 0, 1⟩

theorem sideTurn_real (i : Nat) : (sideTurn i : ℝ) = -(90 * i) := by
  have hninety : (90.0 : ℝ) = 90 := by norm_num
  change -90.0 * (i : ℝ) = _
  rw [hninety, neg_mul]

theorem ofAngles_sideTurn {i : Nat} (hi : i < 4) :
    (Rotation.ofAngles ⟨0, sideTurn i, 0⟩).apply (.unit .x) = sideDirection i := by
  rw [Rotation.ofAngles_apply_unit_x, sideTurn_real]
  interval_cases i <;> norm_num [sideDirection]

theorem ofAngles_uprightTurn {i : Nat} (hi : i < 4) :
    (Rotation.ofAngles (OrientedBox.uprightTurn i)).apply (.unit .x) = uprightDirection i := by
  rw [Rotation.ofAngles_apply_unit_x]
  interval_cases i <;>
    norm_num [uprightDirection, OrientedBox.uprightTurn, OrientedBox.tilt, sideTurn_real]

/-- What the parts of a box with depth stand for, three for each corner. -/
def traces : List Trace :=
  [.edge .x ⟨false, false, false⟩, .stray ⟨false, false, false⟩ .y, .edge .x ⟨false, true, false⟩,
    .edge .z ⟨true, false, false⟩, .stray ⟨true, false, false⟩ .z, .edge .z ⟨true, true, false⟩,
    .edge .x ⟨false, false, true⟩, .edge .y ⟨true, false, true⟩, .edge .x ⟨false, true, true⟩,
    .edge .z ⟨false, false, false⟩, .stray ⟨false, false, true⟩ .z, .edge .z ⟨false, true, false⟩]

/-- What the parts of a flat box stand for. Without a depth the near and the far end along the depth
are the same. -/
def outlineTraces : List Trace :=
  [.edge .x ⟨false, false, false⟩, .stray ⟨true, false, true⟩ .z, .edge .x ⟨false, true, false⟩,
    .stray ⟨false, true, false⟩ .z]

section

variable {p : OrientedBox ℝ}

theorem orientation_of_rotation_zero (h : p.rotation = 0) (v : Vec3 ℝ) :
    p.orientation.apply v = v := by
  rw [OrientedBox.orientation, h, Vec3.zero_real, Rotation.ofAngles_apply]
  simp [Vec3.turnX, Vec3.turnY, Vec3.turnZ]

theorem segment_piece (h : p.rotation = 0) (start size turn : Vec3 ℝ) :
    (p.piece start size turn).segment =
      s(start, start + ((Rotation.ofAngles turn).apply (.unit .x)).scale size.x) := by
  have hturn : p.rotation + turn = turn := by
    rw [h, Vec3.zero_real, Vec3.add_real]
    simp only [zero_add]
  rw [OrientedBox.segment, OrientedBox.piece, OrientedBox.orientation, hturn]

theorem map_segment_edges (h : p.rotation = 0) :
    p.edges.map (·.segment) = traces.map (Trace.segment p.scope) := by
  simp only [OrientedBox.edges, footprintCorners, List.zipIdx_cons, List.zipIdx_nil,
    List.flatMap_cons, List.flatMap_nil, List.map_append, List.map_cons, List.map_nil,
    segment_piece h, OrientedBox.corner, orientation_of_rotation_zero h, Nat.reduceAdd,
    Nat.reduceLT, ofAngles_sideTurn, ofAngles_uprightTurn]
  simp [traces, Trace.edge, Trace.segment, Trace.tip, Scope.vertex, sideDirection,
    uprightDirection, Vec3.set, Vec3.get, Vec3.stretch, Vec3.scale, Vec3.unit, Vec3.add_real,
    Vec3.zero_real]

theorem map_segment_outlineEdges (h : p.rotation = 0) (hz : p.scope.size.z = 0) :
    p.outlineEdges.map (·.segment) = outlineTraces.map (Trace.segment p.scope) := by
  simp only [OrientedBox.outlineEdges, outlineCorners, List.zipIdx_cons, List.zipIdx_nil,
    List.map_cons, List.map_nil, segment_piece h, OrientedBox.corner,
    orientation_of_rotation_zero h, Nat.reduceAdd, Nat.reduceLT, ofAngles_sideTurn]
  simp [outlineTraces, Trace.edge, Trace.segment, Trace.tip, Scope.vertex, sideDirection, hz,
    Vec3.set, Vec3.get, Vec3.stretch, Vec3.scale, Vec3.unit, Vec3.add_real, Vec3.zero_real]

theorem edgeSegments_of_depth (h : p.rotation = 0) (hz : p.scope.size.z ≠ 0) :
    p.edgeSegments = traces.map (Trace.segment p.scope) := by
  have hdepth : p.isFlat = false := beq_eq_false_iff_ne.2 hz
  rw [OrientedBox.edgeSegments, ComponentKind.components, hdepth]
  exact map_segment_edges h

theorem edgeSegments_of_flat (h : p.rotation = 0) (hz : p.scope.size.z = 0) :
    p.edgeSegments = outlineTraces.map (Trace.segment p.scope) := by
  have hflat : p.isFlat = true := beq_iff_eq.2 hz
  rw [OrientedBox.edgeSegments, ComponentKind.components, hflat]
  exact map_segment_outlineEdges h hz

/-! ## Which edges are given -/

theorem partlyTraces_of_depth (hturn : p.rotation = 0) (hsize : ∀ axis, 0 < p.scope.size.get axis) :
    p.PartlyTraces 12 [1, 4, 10] fun axis far => axis = .y → far.x ∧ far.z := by
  have hinjective := Trace.segment_injective hsize
  have hsegments := edgeSegments_of_depth hturn (hsize .z).ne'
  refine ⟨?_, ?_, ?_, ?_⟩
  · rw [hsegments]
    rfl
  · rw [hsegments]
    exact List.Nodup.map hinjective (by decide)
  · intro k e hk
    rw [hsegments, List.getElem?_map] at hk
    obtain ⟨t, ht, rfl⟩ := Option.map_eq_some_iff.1 hk
    have hkind : ∀ k < 12, (∃ axis far, traces[k]? = some (.edge axis far)) ↔ k ∉ [1, 4, 10] := by
      decide
    rw [← hkind k (List.getElem?_eq_some_iff.1 ht).1]
    constructor
    · rintro ⟨axis, far, -, hedge⟩
      exact ⟨axis, far, ht.trans (congrArg some (hinjective hedge))⟩
    · rintro ⟨axis, far, htrace⟩
      cases htrace.symm.trans ht
      exact ⟨axis, far, (hsize axis).ne', rfl⟩
  · intro axis far _
    have hmem : ∀ axis far, .edge axis far ∈ traces ↔ (axis = .y → far.x ∧ far.z) := by decide
    rw [hsegments, ← hmem, ← Trace.segment_edge]
    exact List.mem_map_of_injective hinjective

theorem partlyTraces_of_flat (hturn : p.rotation = 0) (hx : 0 < p.scope.size.x)
    (hy : 0 < p.scope.size.y) (hz : p.scope.size.z = 0) :
    p.PartlyTraces 4 [1, 3] fun axis _ => axis = .x := by
  have hsize (axis : Axis) : 0 ≤ p.scope.size.get axis := by
    cases axis
    · exact hx.le
    · exact hy.le
    · exact hz.ge
  have hstray := Trace.segment_stray_ne_edge hsize hy
  have hsegments : p.edgeSegments = [p.scope.edge .x ⟨false, false, false⟩,
      (Trace.stray ⟨true, false, true⟩ .z).segment p.scope, p.scope.edge .x ⟨false, true, false⟩,
      (Trace.stray ⟨false, true, false⟩ .z).segment p.scope] := edgeSegments_of_flat hturn hz
  refine ⟨?_, ?_, ?_, ?_⟩
  · rw [hsegments]
    rfl
  · -- The edges lie at different heights, and what leads out of the plane at different widths.
    have hedges : p.scope.edge .x ⟨false, false, false⟩ ≠ p.scope.edge .x ⟨false, true, false⟩ :=
      Scope.edge_x_ne_of_height hy.ne' Bool.false_ne_true
    have hstrays : (Trace.stray ⟨true, false, true⟩ .z).segment p.scope ≠
        (Trace.stray ⟨false, true, false⟩ .z).segment p.scope :=
      Trace.segment_stray_ne_of_width hx.ne' (by decide) Bool.false_ne_true.symm
    rw [hsegments]
    simp [hedges, hstrays, hstray, (hstray _ _ _ _).symm]
  · intro k e hk
    rw [hsegments] at hk
    match k with
    | 0 | 2 =>
      cases hk
      exact iff_of_true ⟨.x, _, hx.ne', rfl⟩ (by decide)
    | 1 | 3 =>
      cases hk
      refine iff_of_false ?_ (by decide)
      rintro ⟨along, far, -, hedge⟩
      exact hstray _ _ _ _ hedge
    | k + 4 => cases hk
  · intro axis far haxis
    rw [hsegments]
    cases axis with
    | x =>
      rw [Scope.edge_x_of_flat hz far]
      cases far.y <;> simp
    | y =>
      refine iff_of_false (fun hmem => ?_) nofun
      simp [Scope.edge_y_ne_edge_x hy.ne', (hstray _ _ _ _).symm] at hmem
    | z => exact absurd hz haxis

end

namespace OrientedBox

/-- A split with a stray part does not give the edges. -/
theorem PartlyTraces.not_tracesEdges {p : OrientedBox ℝ} {count k : Nat} {strays : List Nat}
    {traced : Axis → Vec3 Bool → Prop} (h : p.PartlyTraces count strays traced) (hk : k < count)
    (hstray : k ∈ strays) : ¬ p.TracesEdges := by
  intro htraces
  obtain ⟨e, he⟩ : ∃ e, p.edgeSegments[k]? = some e :=
    ⟨_, List.getElem?_eq_getElem (h.length.symm ▸ hk)⟩
  exact (h.isEdge_iff he).1 (htraces.isEdge e (List.mem_of_getElem? he)) hstray

/-- The split of a box that is not turned gives all edges along its bottom and its top, and of the
upright edges the one that is farthest from its position; three parts lead out of the box. The split
of a flat box gives its lower and its upper edge; the other two parts lead out of its plane. -/
theorem partlyTraces_edges (p : OrientedBox ℝ) (hturn : p.rotation = 0)
    (hx : 0 < p.scope.size.x) (hy : 0 < p.scope.size.y) :
    (0 < p.scope.size.z →
        p.PartlyTraces 12 [1, 4, 10] fun axis far => axis = .y → far.x ∧ far.z) ∧
      (p.scope.size.z = 0 → p.PartlyTraces 4 [1, 3] fun axis _ => axis = .x) := by
  refine ⟨fun hz => partlyTraces_of_depth hturn ?_, partlyTraces_of_flat hturn hx hy⟩
  rintro (_ | _ | _) <;> assumption

/-- A mass and a facade. -/
theorem partlyTraces_edges_mass :
    let mass : OrientedBox ℝ := ⟨⟨⟨1, 0, 2⟩, ⟨4, 3, 2⟩⟩, 0⟩
    let facade : OrientedBox ℝ := ⟨⟨⟨1, 0, 2⟩, ⟨4, 3, 0⟩⟩, 0⟩
    ((0 : ℝ) < 4 ∧ (0 : ℝ) < 3 ∧ (0 : ℝ) < 2) ∧
      (mass.PartlyTraces 12 [1, 4, 10] fun axis far => axis = .y → far.x ∧ far.z) ∧
      facade.PartlyTraces 4 [1, 3] fun axis _ => axis = .x := by
  intro mass facade
  have hfour : (0 : ℝ) < 4 := by norm_num
  have hthree : (0 : ℝ) < 3 := by norm_num
  have htwo : (0 : ℝ) < 2 := by norm_num
  exact ⟨⟨hfour, hthree, htwo⟩, (partlyTraces_edges mass rfl hfour hthree).1 htwo,
    (partlyTraces_edges facade rfl hfour hthree).2 rfl⟩

/-- The split of a mass does not give its edges, and neither does that of a facade. -/
theorem not_tracesEdges_mass :
    ¬ (⟨⟨⟨1, 0, 2⟩, ⟨4, 3, 2⟩⟩, 0⟩ : OrientedBox ℝ).TracesEdges ∧
      ¬ (⟨⟨⟨1, 0, 2⟩, ⟨4, 3, 0⟩⟩, 0⟩ : OrientedBox ℝ).TracesEdges := by
  constructor
  · refine (partlyTraces_of_depth rfl ?_).not_tracesEdges (k := 1) (by decide) (by decide)
    rintro (_ | _ | _) <;> norm_num [Vec3.get]
  · exact (partlyTraces_of_flat rfl (by norm_num) (by norm_num) rfl).not_tracesEdges (k := 1)
      (by decide) (by decide)

end OrientedBox

end Grammar

end Cityscape
