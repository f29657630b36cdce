import Cityscape.Proofs.Growth.Building
import Cityscape.Proofs.RoadNetwork.Pairs
import Cityscape.Proofs.Scalar.Order

/-!
# Roads on top of each other

Two roads overlap when they leave a common end in the same direction. A road that is drawn to an old
crossroad is tested against the roads there; no other road that is built is tested against any. So a
network stays free of overlaps exactly when the roads that are new overlap none, apart from those
that the test has seen.

## Main definitions

* `RoadNetwork.OverlapFree` — no two roads overlap.
* `RoadNetwork.AddsNoOverlap` — no new road overlaps another, apart from those that the test has
  seen.

## Main statements

* `Segment.overlap_comm` — overlapping is symmetric.
* `RoadMap.build_overlapsRoad` — the test that a road to an old crossroad has passed.
* `Growth.build_overlapFree_iff` — when building a road leads to no overlap.
-/

namespace Cityscape

/-! ## Overlapping segments -/

namespace Vec2

theorem dot_comm (v w : Vec2 Float32) : v.dot w = w.dot v := by
  rw [dot, dot, Single.mul_comm v.x, Single.mul_comm v.y]

theorem beq_comm (v w : Vec2 Float32) : (v == w) = (w == v) := by
  have hx := Single.beq_comm v.x w.x
  have hy := Single.beq_comm v.y w.y
  exact congrArg₂ and hx hy

end Vec2

deriving instance DecidableEq for Vec2, Segment

/-- Two segments overlap whichever of them is looked at first. -/
theorem Segment.overlap_comm (a b : Segment Float32) : a.overlap b = b.overlap a := by
  unfold Segment.overlap
  simp only [Vec2.dot_comm a.span.normalizeOrZero, Vec2.beq_comm a.start, Vec2.beq_comm a.finish]
  grind

namespace RoadNetwork

variable {α : Type} [Scalar α]

/-- No two roads lie on top of each other at a common end. -/
def OverlapFree (n : RoadNetwork α) : Prop := n.Pairwise fun a b => a.overlap b = false

instance (n : RoadNetwork α) : Decidable n.OverlapFree :=
  inferInstanceAs (Decidable (n.Pairwise _))

/-- No road that is new in a network overlaps another, leaving aside those that were found at a
given crossroad. -/
def AddsNoOverlap (n n' : RoadNetwork α) (finish : Option CrossroadId) : Prop :=
  ∀ (i j : RoadId) (a b : Segment α), i ≠ j → n.segment? i ≠ some a → n'.segment? i = some a →
    n'.segment? j = some b → (∀ c, finish = some c → j ∉ n.roadsAt c) → a.overlap b = false

theorem addsNoOverlap_iff {n n' : RoadNetwork α} {finish : Option CrossroadId} :
    n.AddsNoOverlap n' finish ↔ ∀ x ∈ n'.roads, ∀ y ∈ n'.roads, x.1 ≠ y.1 →
      ∀ a ∈ n'.segment? x.1, ∀ b ∈ n'.segment? y.1, n.segment? x.1 ≠ some a →
        (∀ c ∈ finish, y.1 ∉ n.roadsAt c) → a.overlap b = false := by
  refine Iff.trans ?_ (forall_segment?_iff (p := fun i j a b =>
    n.segment? i ≠ some a → (∀ c ∈ finish, j ∉ n.roadsAt c) → a.overlap b = false))
  exact ⟨fun h i j a b hne ha hb hnew => h i j a b hne hnew ha hb,
    fun h i j a b hne hnew ha hb => h i j a b hne ha hb hnew⟩

instance [DecidableEq α] (n n' : RoadNetwork α) (finish : Option CrossroadId) :
    Decidable (n.AddsNoOverlap n' finish) :=
  decidable_of_iff _ addsNoOverlap_iff.symm

/-- What the test of a road to an old crossroad has seen: it overlaps no road there. -/
theorem overlap_of_overlapsRoad {n : RoadNetwork α} {start finish : CrossroadId} {p q : Vec2 α}
    (h : n.overlapsRoad start finish = false) (hp : n.position? start = some p)
    (hq : n.position? finish = some q) {j : RoadId} {b : Segment α} (hj : j ∈ n.roadsAt finish)
    (hb : n.segment? j = some b) : Segment.overlap ⟨p, q⟩ b = false := by
  simp only [overlapsRoad, hp, hq, Bool.or_eq_false_iff, List.any_eq_false] at h
  have hnone := h.2 j hj
  simpa [hb] using hnone

end RoadNetwork

/-! ## Roads that are built -/

open RoadNetwork

/-- A road that is built to a crossroad that was there before has passed the test, and no other road
changes. -/
theorem RoadMap.build_overlapsRoad {α : Type} [Scalar α] [Trigonometry α] {m m' : RoadMap α}
    {land : Land α} {settings : GrowthSettings α} {plan : RoadPlan α} {start c : CrossroadId}
    {outcome : Outcome α} (h : m.build land settings plan start = .ok (outcome, m'))
    (hfinish : outcome.finish = some c) (hold : (m.network.position? c).isSome) :
    m.network.overlapsRoad start c = false ∧ m'.network.position? = m.network.position? ∧
      ∃ id road, road.start = start ∧ road.finish = c ∧
        m'.network.road? = Function.update m.network.road? id (some road) := by
  obtain ⟨rfl, -⟩ | ⟨origin, fitted, -, -, hjoin⟩ := build_cases h
  · cases hfinish
  obtain ⟨near, -, ⟨rfl, -⟩ | ⟨finish, merged, m₁, id, hend, hroad, rfl⟩⟩ := join_cases hjoin
  · cases hfinish
  cases hfinish
  rcases makeEnd_cases hend with ⟨p, -, -, hmade⟩ | ⟨p, r, -, -, hmade⟩ | ⟨-, -, rfl, hover⟩
  · -- a crossroad of the road's own was not there before
    rw [addCrossroad_eq] at hmade
    cases hmade
    simp [RoadNetwork.position?_crossroadCount] at hold
  · obtain ⟨old, second, mid₁, mid₂, -, hnew, -⟩ := splitRoad_spec hmade
    simp [hnew] at hold
  · obtain ⟨a, b, -, -, -, hposition, hroads, -⟩ := addRoad_cases hroad
    exact ⟨hover, hposition, id, _, rfl, rfl, hroads⟩

namespace Growth

variable {g g' : Growth Float32} {plan : RoadPlan Float32} {start : CrossroadId}
  {outcome : Outcome Float32}

/-- A road that is new overlaps no road that was found where it ends. -/
theorem build_overlap_eq_false (h : g.build plan start = .ok (outcome, g')) {i j : RoadId}
    {a b : Segment Float32} {c : CrossroadId} (hne : i ≠ j)
    (hnew : g.map.network.segment? i ≠ some a) (ha : g'.map.network.segment? i = some a)
    (hb : g'.map.network.segment? j = some b) (hc : outcome.finish = some c)
    (hj : j ∈ g.map.network.roadsAt c) : a.overlap b = false := by
  obtain ⟨map, hbuild, rfl⟩ := build_eq_ok h
  have hcrossroad : (g.map.network.position? c).isSome := by
    obtain ⟨road, hroad, rfl | rfl⟩ := mem_roadsAt.1 hj
    · exact (isSome_ends hroad).1
    · exact (isSome_ends hroad).2
  obtain ⟨hover, hposition, id, road, rfl, rfl, hroads⟩ :=
    RoadMap.build_overlapsRoad hbuild hc hcrossroad
  have hkept {k : RoadId} (hk : k ≠ id) :
      map.network.segment? k = g.map.network.segment? k :=
    segment?_congr hposition (by rw [hroads, Function.update_of_ne hk])
  have hi : i = id := by
    by_contra hi
    exact hnew ((hkept hi).symm.trans ha)
  rw [hi] at ha hne
  obtain ⟨hp, hq⟩ := position?_of_segment? (by rw [hroads, Function.update_self]) ha
  rw [hposition] at hp hq
  exact overlap_of_overlapsRoad hover hp hq hj ((hkept hne.symm).symm.trans hb)

/-- Building a road keeps a network free of overlaps exactly when the roads that are new overlap no
other road; where the road leads to an old crossroad, the roads that were there need not be looked
at. -/
theorem build_overlapFree_iff (hg : g.map.network.OverlapFree)
    (h : g.build plan start = .ok (outcome, g')) :
    g'.map.network.OverlapFree ↔ ∀ (i j : RoadId) (a b : Segment Float32), i ≠ j →
      g.map.network.segment? i ≠ some a → g'.map.network.segment? i = some a →
      g'.map.network.segment? j = some b →
      (∀ c, outcome.finish = some c → j ∉ g.map.network.roadsAt c) → a.overlap b = false := by
  constructor
  · intro hfree i j a b hne _ ha hb _
    exact hfree i j a b hne ha hb
  · intro hnew
    have hsymm (a b : Segment Float32) (h : a.overlap b = false) : b.overlap a = false := by
      rw [Segment.overlap_comm]
      exact h
    refine Pairwise.of_new hg hsymm fun i j a b hne hi ha hb => ?_
    by_cases hseen : ∃ c, outcome.finish = some c ∧ j ∈ g.map.network.roadsAt c
    · obtain ⟨c, hc, hj⟩ := hseen
      exact build_overlap_eq_false h hne hi ha hb hc hj
    · exact hnew i j a b hne hi ha hb fun c hc hj => hseen ⟨c, hc, hj⟩

/-- What can be decided of the outcome is computed of a byway beside the road across the plain,
where no roads overlap. -/
theorem build_besideRoad (plan : RoadPlan Float32) (start : CrossroadId)
    (p : Growth Float32 → Outcome Float32 → Growth Float32 → Prop)
    [∀ g outcome g', Decidable (p g outcome g')] (h : (do
      let g ← besideRoad
      let built ← g.build plan start
      return decide (g.map.network.OverlapFree ∧ p g built.1 built.2)) = .ok true) :
    ∃ g outcome g', besideRoad = .ok g ∧ g.map.network.OverlapFree ∧
      g.build plan start = .ok (outcome, g') ∧ p g outcome g' := by
  obtain ⟨g, hg, h⟩ := bind_eq_ok.1 h
  obtain ⟨⟨outcome, g'⟩, hbuild, h⟩ := bind_eq_ok.1 h
  obtain ⟨hfree, hp⟩ := of_decide_eq_true (Except.ok.inj h)
  exact ⟨g, outcome, g', hg, hfree, hbuild, hp⟩

/-- The byway that splits the road across the plain lies on top of neither section, so that no roads
overlap once it is built. -/
theorem build_overlapFree_iff_besideRoad :
    ∃ g outcome g', besideRoad = .ok g ∧ g.map.network.OverlapFree ∧
      g.build ⟨4, ⟨0, 1⟩, false⟩ 2 = .ok (outcome, g') ∧ outcome.verdict = .merged ∧
      (∀ (i j : RoadId) (a b : Segment Float32), i ≠ j → g.map.network.segment? i ≠ some a →
        g'.map.network.segment? i = some a → g'.map.network.segment? j = some b →
        (∀ c, outcome.finish = some c → j ∉ g.map.network.roadsAt c) → a.overlap b = false) ∧
      g'.map.network.OverlapFree := by
  obtain ⟨g, outcome, g', hg, hfree, hbuild, hverdict, hnew⟩ :=
    build_besideRoad ⟨4, ⟨0, 1⟩, false⟩ 2 (fun g outcome g' => outcome.verdict = .merged ∧
      g.map.network.AddsNoOverlap g'.map.network outcome.finish) (by decide +kernel)
  exact ⟨g, outcome, g', hg, hfree, hbuild, hverdict, hnew,
    (build_overlapFree_iff hfree hbuild).2 hnew⟩

/-- A shorter byway along the road across the plain ends at a crossroad of its own and lies on top
of the road, which leaves the same crossroad in the same direction. -/
theorem not_overlapFree_besideRoad :
    ∃ g outcome g', besideRoad = .ok g ∧ g.map.network.OverlapFree ∧
      g.build ⟨2, ⟨1, 0⟩, false⟩ 0 = .ok (outcome, g') ∧ outcome.verdict = .succeeded ∧
      ¬ g'.map.network.OverlapFree := by
  obtain ⟨g, outcome, g', hg, hfree, hbuild, hoverlap⟩ :=
    build_besideRoad ⟨2, ⟨1, 0⟩, false⟩ 0 (fun _ outcome g' => outcome.verdict = .succeeded ∧
      ¬ g'.map.network.OverlapFree) (by decide +kernel)
  exact ⟨g, outcome, g', hg, hfree, hbuild, hoverlap⟩

end Growth

end Cityscape
