import Cityscape.Proofs.Growth.Dryness
import Cityscape.Proofs.Growth.Overlap
import Cityscape.Proofs.Scalar.Countdown

/-!
# Roads whose ends coincide

A road that joins the network never leads back to where it starts: it is split off a road away from
its start, or it has passed the test for overlaps. A road to a crossroad of its own is tested when
it is fitted into the terrain, and that test compares its start with the rounded end. So a plan that
leads nowhere is refused if it starts at whole coordinates, and can be built if it does not.

## Main definitions

* `Segment.isPoint` — both ends are at the same position.

## Main statements

* `RoadMap.isPoint_of_join` — a road that joins the network does not end where it starts.
* `Growth.build_isPoint_iff` — which of the roads that are built end where they start.
-/

namespace Cityscape

/-! ## Equal places -/

namespace Single

open Float.Model.UnpackedFloat

variable {a b : Float32}

theorem round_zero {s : Sign} (h : parts a = .zero s) : round a = a := by
  cases s with
  | negative =>
    obtain rfl : a = -0 := parts_injective h
    decide +kernel
  | positive =>
    obtain rfl : a = 0 := parts_injective h
    decide +kernel

/-- Equal numbers are rounded to equal ones. -/
theorem round_beq (h : (a == b) = true) : (round a == round b) = true := by
  obtain rfl | ⟨s, t, ha, hb⟩ := eq_of_beq h
  · exact isNumber_of_isDefined (isDefined_roundWhole (isDefined_of_isNumber h))
  · rwa [round_zero ha, round_zero hb]

/-- Equal numbers differ by a zero or by no number. -/
theorem null_sub_of_beq (h : (a == b) = true) : Null (a - b) := by
  obtain rfl | ⟨s, t, ha, hb⟩ := eq_of_beq h
  · exact null_sub_self a
  · unfold Null
    rw [parts_sub, ha, hb]
    cases s <;> cases t <;> exact IsNull.repack trivial

end Single

namespace Vec2

variable {v w u : Vec2 Float32}

theorem beq_iff : (v == w) = true ↔ (v.x == w.x) = true ∧ (v.y == w.y) = true :=
  Bool.and_eq_true_iff

theorem beq_trans (hvw : (v == w) = true) (hwu : (w == u) = true) : (v == u) = true := by
  rw [beq_iff] at hvw hwu ⊢
  exact ⟨Single.beq_trans hvw.1 hwu.1, Single.beq_trans hvw.2 hwu.2⟩

theorem round_beq (h : (v == w) = true) : (v.round == w.round) = true := by
  rw [beq_iff] at h ⊢
  exact ⟨Single.round_beq h.1, Single.round_beq h.2⟩

/-- Nothing lies ahead of a place in the place itself. -/
theorem not_ahead_of_beq (h : (v == w) = true) (span : Vec2 Float32) :
    ¬ 0 < (v - w).dot span := by
  rw [beq_iff] at h
  have hx := Single.null_sub_of_beq h.1
  have hy := Single.null_sub_of_beq h.2
  exact ((hx.mul_right span.x).add (hy.mul_right span.y)).not_pos

end Vec2

/-! ## Roads that join the network -/

/-- Both ends are at the same position. -/
def Segment.isPoint {α : Type} [Scalar α] (s : Segment α) : Bool := s.start == s.finish

/-- A road does not split another one where it starts itself. -/
theorem Ending.Meets.isPoint_eq_false {network : RoadNetwork Float32} {proposed : Segment Float32}
    {p : Vec2 Float32} {id : RoadId} (h : (Ending.split p id).Meets network proposed) :
    (Segment.mk proposed.start p).isPoint = false := by
  unfold Segment.isPoint
  rw [Vec2.beq_comm]
  by_contra hback
  have hback : (p == proposed.start) = true := by simpa using hback
  obtain ⟨other, -, ⟨-, hinside⟩ | ⟨-, hahead⟩⟩ := h
  · simp [bne, hback] at hinside
  · exact Vec2.not_ahead_of_beq hback _ hahead

/-- A road to an old crossroad that overlaps nothing has a length. -/
theorem RoadNetwork.isPoint_of_overlapsRoad {α : Type} [Scalar α] {n : RoadNetwork α}
    {start finish : CrossroadId} {p q : Vec2 α} (h : n.overlapsRoad start finish = false)
    (hp : n.position? start = some p) (hq : n.position? finish = some q) :
    (Segment.mk p q).isPoint = false := by
  simp only [overlapsRoad, hp, hq, Bool.or_eq_false_iff] at h
  exact h.1.1

namespace RoadMap

variable {m m' : RoadMap Float32} {settings : GrowthSettings Float32} {plan : RoadPlan Float32}
  {start : CrossroadId} {outcome : Outcome Float32}

/-- A road that joins the network does not end where it starts. -/
theorem isPoint_of_join {proposed : Segment Float32}
    (horigin : m.network.position? start = some proposed.start)
    (h : m.join settings plan start proposed = .ok (outcome, m'))
    (hverdict : outcome.verdict ≠ .succeeded) {id : RoadId} (hid : outcome.road = some id)
    {way : Segment Float32} (hway : m'.network.segment? id = some way) : way.isPoint = false := by
  obtain ⟨near, hnear, ⟨rfl, -⟩ | ⟨finish, merged, m₁, id', hend, hroad, rfl⟩⟩ := join_cases h
  · cases hid
  cases hid
  rcases makeEnd_cases hend with ⟨p, -, rfl, -⟩ | ⟨p, r, he, -, hmade⟩ | ⟨he, -, rfl, hover⟩
  · exact absurd rfl hverdict
  · obtain ⟨q, hsegment, hq⟩ := (splitRoad_extends hmade hroad).segment?_self horigin
    cases hq
    cases hway.symm.trans hsegment
    have hmeets := (surroundings_sound hnear).ending_split he
    exact hmeets.isPoint_eq_false
  · have hne := (surroundings_sound hnear).ending_existing he
    obtain ⟨q, hsegment, hq⟩ := (addRoad_extends hne hover hroad).segment?_self horigin
    cases hway.symm.trans hsegment
    exact RoadNetwork.isPoint_of_overlapsRoad hover horigin hq

end RoadMap

/-! ## Roads that are built -/

/-- A plan that leads nowhere and fits the terrain does not start at whole coordinates. -/
theorem Land.round_of_isBuildable {land : Land Float32} {settings : GrowthSettings Float32}
    {start finish : Vec2 Float32} {highway : Bool}
    (h : land.isBuildable settings start finish highway = .ok true)
    (hnowhere : (start == finish) = true) : (start == start.round) = false := by
  by_contra hwhole
  have hwhole : (start == start.round) = true := by simpa using hwhole
  have hend := (isBuildable_spec h).2.1
  rw [Vec2.beq_trans hwhole (Vec2.round_beq hnowhere)] at hend
  cases hend

namespace Growth

variable {g g' : Growth Float32}

/-- A road that is built ends where it starts exactly when it succeeded with a plan that leads
nowhere: its length is zero, or too small to change the coordinates of its start. Such a road never
starts at whole coordinates. -/
theorem build_isPoint_iff {plan : RoadPlan Float32} {start : CrossroadId}
    {outcome : Outcome Float32} (h : g.build plan start = .ok (outcome, g')) {id : RoadId}
    (hid : outcome.road = some id) :
    ∃ way, g'.map.network.segment? id = some way ∧
      g.map.network.position? start = some way.start ∧
      (way.isPoint = true ↔ outcome.verdict = .succeeded ∧
        (way.start == Land.planEnd outcome.plan way.start) = true) ∧
      (way.isPoint = true → (way.start == way.start.round) = false) := by
  obtain ⟨map, hbuild, rfl⟩ := build_eq_ok h
  obtain ⟨rfl, -⟩ | ⟨origin, fitted, horigin, hsettled, hjoin⟩ := RoadMap.build_cases hbuild
  · cases hid
  obtain ⟨c, p, -, -, hsegment, rfl, hsucceeded⟩ := RoadMap.join_segment horigin hjoin hid
  have hpoint : (Segment.mk origin p).isPoint = true ↔ outcome.verdict = .succeeded ∧
      (origin == Land.planEnd outcome.plan origin) = true := by
    by_cases hverdict : outcome.verdict = .succeeded
    · rw [hsucceeded hverdict]
      simp [Segment.isPoint, hverdict]
    · simp [RoadMap.isPoint_of_join horigin hjoin hverdict hid hsegment, hverdict]
  refine ⟨⟨origin, p⟩, hsegment, horigin, hpoint, fun hback => ?_⟩
  exact Land.round_of_isBuildable (Land.settle_spec hsettled).2 (hpoint.1 hback).2

/-- What is computed of a highway to the east that is built on a plain: its verdict, and whether it
ends where it starts. -/
theorem build_onPlain {centre : Vec2 Float32} {length : Float32} {verdict : Verdict} {point : Bool}
    (h : (do
      let built ← ((onPlain .standard).addCrossroad centre).2.build ⟨length, ⟨1, 0⟩, true⟩ 0
      return (built.1.verdict, built.1.road,
        (built.2.map.network.segment? 0).map Segment.isPoint)) =
        .ok (verdict, some 0, some point)) :
    ∃ outcome g' way, ((onPlain .standard).addCrossroad centre).2.build
        ⟨length, ⟨1, 0⟩, true⟩ 0 = .ok (outcome, g') ∧ outcome.verdict = verdict ∧
      outcome.road = some 0 ∧ g'.map.network.segment? 0 = some way ∧ way.isPoint = point := by
  obtain ⟨⟨outcome, g'⟩, hbuild, h⟩ := bind_eq_ok.1 h
  simp only [pure, Except.pure, Except.ok.injEq, Prod.mk.injEq, Option.map_eq_some_iff] at h
  obtain ⟨hverdict, hroad, way, hway, hpoint⟩ := h
  exact ⟨outcome, g', way, hbuild, hverdict, hroad, hway, hpoint⟩

/-- A highway of two cells does not end where it starts, though it does not start at whole
coordinates. -/
theorem build_isPoint_iff_onPlain :
    ∃ outcome g' way, ((onPlain .standard).addCrossroad ⟨2.5, 2.5⟩).2.build
        ⟨2, ⟨1, 0⟩, true⟩ 0 = .ok (outcome, g') ∧ outcome.verdict = .succeeded ∧
      outcome.road = some 0 ∧ g'.map.network.segment? 0 = some way ∧ way.isPoint = false ∧
      (way.start == Land.planEnd outcome.plan way.start) = false := by
  obtain ⟨outcome, g', way, hbuild, hverdict, hroad, hway, hpoint⟩ :=
    @build_onPlain ⟨2.5, 2.5⟩ 2 .succeeded false (by decide +kernel)
  obtain ⟨way', hway', -, hiff, -⟩ := build_isPoint_iff hbuild hroad
  cases hway.symm.trans hway'
  refine ⟨outcome, g', way, hbuild, hverdict, hroad, hway, hpoint, ?_⟩
  simpa [hpoint, hverdict] using hiff

/-- A highway whose length is zero, and one whose length is too small to change where it ends,
succeed between two cells: both their ends are at the same position. -/
theorem build_point_onPlain :
    (∃ outcome g' way, ((onPlain .standard).addCrossroad ⟨2.5, 2.5⟩).2.build
        ⟨0, ⟨1, 0⟩, true⟩ 0 = .ok (outcome, g') ∧ outcome.verdict = .succeeded ∧
      outcome.road = some 0 ∧ g'.map.network.segment? 0 = some way ∧ way.isPoint = true) ∧
    ∃ outcome g' way, ((onPlain .standard).addCrossroad ⟨2.5, 2.5⟩).2.build
        ⟨1e-8, ⟨1, 0⟩, true⟩ 0 = .ok (outcome, g') ∧ outcome.verdict = .succeeded ∧
      outcome.road = some 0 ∧ g'.map.network.segment? 0 = some way ∧ way.isPoint = true :=
  ⟨build_onPlain (by decide +kernel), build_onPlain (by decide +kernel)⟩

end Growth

end Cityscape
