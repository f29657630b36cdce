import Cityscape.Proofs.Growth.Building
import Cityscape.Proofs.Growth.Nearest
import Cityscape.Proofs.RoadNetwork.Pairs

/-!
# Roads that cross

A proposed road looks for the roads it crosses among those whose midpoints lie in sight, that is in
a square around its end. It is cut off at the nearest crossing, and otherwise it may be drawn to a
crossroad or to a road near its end, after which it is not looked at again. So a road that is built
as it was proposed crosses no road in sight, while it may cross a road whose midpoint lies farther
away, as any other one may; and it may end on a road, since crossings at its own ends do not count.

## Main definitions

* `Segment.crosses`, `Segment.holds` — segments that cross inside both, points inside a segment.
* `RoadNetwork.Planar` — roads meet only at their ends.

## Main statements

* `RoadMap.join_crossing` — what a road that is built leaves of the crossings in sight.
* `Growth.build_crossing` — the same for a proposed road, once it was fitted into the terrain.
-/

namespace Cityscape

open RoadNetwork

variable {α : Type} [Scalar α]

namespace Segment

/-- Two segments cross at a point that is an end of neither. -/
def crosses (a b : Segment α) : Bool :=
  (a.crossing? b).any fun p => p != b.start && p != b.finish

/-- A point lies on a segment, strictly between its ends. -/
def holds (s : Segment α) (p : Vec2 α) : Bool :=
  s.span.cross (p - s.start) == 0 && decide (0 < (p - s.start).dot s.span) &&
    decide (0 < (s.finish - p).dot s.span)

/-- Two segments do not cross inside both, and neither end of the first one lies inside the
other. -/
def Apart (a b : Segment α) : Prop :=
  a.crosses b = false ∧ b.holds a.start = false ∧ b.holds a.finish = false

instance (a b : Segment α) : Decidable (a.Apart b) := inferInstanceAs (Decidable (_ ∧ _))

end Segment

/-- Distinct roads meet nowhere but at their ends. -/
def RoadNetwork.Planar (n : RoadNetwork α) : Prop := n.Pairwise Segment.Apart

instance (n : RoadNetwork α) : Decidable n.Planar := inferInstanceAs (Decidable (n.Pairwise _))

/-! ## Where a road ends -/

/-- Where an ending lies in a network. -/
def Ending.position? {α : Type} (n : RoadNetwork α) : Ending α → Option (Vec2 α)
  | .fresh p => some p
  | .split p _ => some p
  | .existing c => n.position? c

/-- The road that was built leads from its start to where its ending lies. -/
theorem RoadNetwork.Extends.segment?_self {α : Type} {n n' : RoadNetwork α}
    {start finish : CrossroadId} {highway : Bool} {id : RoadId} {e : Ending α}
    (h : n.Extends start highway finish id n' e) {origin : Vec2 α}
    (horigin : n.position? start = some origin) :
    ∃ p, n'.segment? id = some ⟨origin, p⟩ ∧ e.position? n = some p := by
  obtain ⟨mid, hroad⟩ := h.road?_self
  have hstart := h.position?_eq horigin
  cases h with
  | @fresh p _ _ _ hposition _ =>
    exact ⟨p, segment?_eq_some hroad hstart (by rw [hposition, Function.update_self]), rfl⟩
  | @existing _ _ hfinish _ _ hposition _ =>
    obtain ⟨p, hp⟩ := Option.isSome_iff_exists.1 hfinish
    exact ⟨p, segment?_eq_some hroad hstart (by rw [hposition, hp]), hp⟩
  | @split p _ _ _ _ _ _ _ _ _ _ _ hposition _ =>
    exact ⟨p, segment?_eq_some hroad hstart (by rw [hposition, Function.update_self]), rfl⟩

namespace Surroundings

variable {near : Surroundings α} {network : RoadNetwork α} {proposed : Segment α} {radius : α}

/-- A crossing comes first. -/
theorem ending_of_crossing {p : Vec2 α} {id : RoadId} {d : α}
    (h : near.crossing = some (p, id, d)) :
    near.ending network proposed radius = .split p id := by
  simp only [ending, h]

/-- A crossroad of its own is where the road was proposed to end. -/
theorem ending_fresh {p : Vec2 α} (h : near.ending network proposed radius = .fresh p) :
    p = proposed.finish := by
  unfold ending at h
  grind

end Surroundings

/-- A proposed road crosses another one at a point, away from its own ends, and the midpoint of the
other road is in sight. -/
def Segment.CrossesInSight (proposed : Segment α) (network : RoadNetwork α) (reach : α)
    (q : Vec2 α) : Prop :=
  ∃ j road s, network.road? j = some road ∧ network.segment? j = some s ∧
    proposed.Sees reach road.midpoint ∧ proposed.crossing? s = some q

variable [Scalar.Total α]

/-- When a road is crossed in sight, the nearest crossing was found, and it is not farther away. -/
theorem RoadMap.surroundings_crossing {m : RoadMap α} {start : CrossroadId}
    {proposed : Segment α} {radius reach : α} {near : Surroundings α} (hm : m.Mirrors)
    (h : m.surroundings start proposed radius reach = .ok near) {q : Vec2 α}
    (hq : proposed.CrossesInSight m.network reach q) :
    ∃ p r d, near.crossing = some (p, r, d) ∧
      ¬ proposed.start.distance q < proposed.start.distance p := by
  obtain ⟨found, rfl, -, hfound⟩ := surroundings_cases hm h
  obtain ⟨j, road, s, hroad, hs, hsees, hcrossing⟩ := hq
  have hmem : .road j road.midpoint ∈ found :=
    hfound _ (road_mem_entries.2 ⟨road, hroad, rfl⟩) hsees
  have hcandidate : Surroundings.crossingOf m.network proposed (.road j road.midpoint) =
      some (q, j, proposed.start.distance q) := by
    simp [Surroundings.crossingOf, hs, hcrossing]
  obtain ⟨⟨p, r, d⟩, hclosest, hnot⟩ := Surroundings.closest_spec (·.2.2) hmem hcandidate
  refine ⟨p, r, d, hclosest, ?_⟩
  -- the distance that is kept with a crossing is its own
  obtain ⟨x, -, hx⟩ := Surroundings.mem_of_closest hclosest
  have hd : d = proposed.start.distance p := by
    cases x with
    | crossroad => cases hx
    | road i mid =>
      obtain ⟨other, -, hx⟩ := Option.bind_eq_some_iff.1 hx
      obtain ⟨point, -, hx⟩ := Option.bind_eq_some_iff.1 hx
      cases hx
      rfl
  rw [← hd]
  exact hnot

/-- A road that fits the terrain and is built leads to where it was proposed to end if it has a
crossroad of its own there. If it crosses a road in sight, it is cut off where it splits a road, and
the crossing does not lie nearer to its start. -/
theorem RoadMap.join_crossing {m m' : RoadMap α} {start : CrossroadId} {proposed : Segment α}
    {settings : GrowthSettings α} {plan : RoadPlan α} {outcome : Outcome α} (hm : m.Mirrors)
    (horigin : m.network.position? start = some proposed.start)
    (h : m.join settings plan start proposed = .ok (outcome, m')) {id : RoadId}
    (hid : outcome.road = some id) :
    ∃ c p, outcome.finish = some c ∧ m'.network.segment? id = some ⟨proposed.start, p⟩ ∧
      outcome.plan = plan ∧ (outcome.verdict = .succeeded → p = proposed.finish) ∧
      ∀ q, proposed.CrossesInSight m.network plan.length q → outcome.verdict = .merged ∧
        (∃ r, m.network.Extends start plan.highway c id m'.network (.split p r)) ∧
        ¬ proposed.start.distance q < proposed.start.distance p := by
  obtain ⟨near, hnear, ⟨rfl, -⟩ | ⟨e, finish, id', he, rfl, hextends⟩⟩ := join_ending h
  · cases hid
  cases hid
  obtain ⟨p, hsegment, hend⟩ := hextends.segment?_self horigin
  refine ⟨finish, p, rfl, hsegment, rfl, fun hverdict => ?_, fun q hq => ?_⟩
  · cases e with
    | fresh => exact (Option.some.inj hend).symm.trans (Surroundings.ending_fresh he)
    | split => cases hverdict
    | existing => cases hverdict
  · obtain ⟨p', r, d, hcrossing, hnot⟩ := surroundings_crossing hm hnear hq
    rw [Surroundings.ending_of_crossing hcrossing] at he
    subst he
    cases hend
    exact ⟨rfl, ⟨r, hextends⟩, hnot⟩

namespace Growth

variable [Trigonometry α] {g g' : Growth α}

/-- A proposed road that is built ends no farther than the nearest crossing in sight, where it then
splits a road. If it succeeded, it was built as it was fitted into the terrain, and it crosses no
road in sight inside both. -/
theorem build_crossing (hm : g.map.Mirrors) {plan : RoadPlan α} {start : CrossroadId}
    {outcome : Outcome α} (h : g.build plan start = .ok (outcome, g')) {id : RoadId}
    (hid : outcome.road = some id) :
    ∃ c origin p, outcome.finish = some c ∧ g.map.network.position? start = some origin ∧
      g'.map.network.segment? id = some ⟨origin, p⟩ ∧
      (outcome.verdict = .succeeded → p = Land.planEnd outcome.plan origin ∧
        ∀ j road s, g.map.network.road? j = some road → g.map.network.segment? j = some s →
          Segment.Sees ⟨origin, p⟩ outcome.plan.length road.midpoint →
          Segment.crosses ⟨origin, p⟩ s = false) ∧
      ∀ q, Segment.CrossesInSight ⟨origin, Land.planEnd outcome.plan origin⟩ g.map.network
          outcome.plan.length q →
        outcome.verdict = .merged ∧
        (∃ r, g.map.network.Extends start outcome.plan.highway c id g'.map.network (.split p r)) ∧
        ¬ origin.distance q < origin.distance p := by
  obtain ⟨map, hbuild, rfl⟩ := build_eq_ok h
  obtain ⟨rfl, -⟩ | ⟨origin, fitted, horigin, -, hjoin⟩ := RoadMap.build_cases hbuild
  · cases hid
  obtain ⟨c, p, hfinish, hsegment, rfl, hsucceeded, hcrossings⟩ :=
    RoadMap.join_crossing hm horigin hjoin hid
  refine ⟨c, origin, p, hfinish, horigin, hsegment, fun hverdict => ?_, hcrossings⟩
  have hp := hsucceeded hverdict
  refine ⟨hp, fun j road s hroad hs hsees => ?_⟩
  cases hcrossing : Segment.crossing? ⟨origin, p⟩ s with
  | none => simp [Segment.crosses, hcrossing]
  | some q =>
    rw [hp] at hcrossing hsees
    have hmerged := (hcrossings q ⟨j, road, s, hroad, hs, hsees, hcrossing⟩).1
    cases hverdict.symm.trans hmerged

/-! ## Roads on the plain -/

/-- Growth over the plain with a byway and crossroads beside it. -/
def roadOnPlain (capacity : Nat) (ends : Segment Float32) (beside : List (Vec2 Float32)) :
    Growth Float32 :=
  { onPlain { GrowthSettings.standard with capacity } with
    map := .ofNetwork (.ofRoad ends beside) capacity ⟨⟨0, 0⟩, ⟨5, 5⟩⟩ }

/-- A byway across the other one, whose midpoint is in sight, splits it. -/
theorem build_crossing_roadOnPlain :
    let g := roadOnPlain 1 ⟨⟨1, 0⟩, ⟨1, 5⟩⟩ [⟨0.5, 1⟩]
    ∃ outcome g' id c origin p, g.build ⟨2, ⟨1, 0⟩, false⟩ 2 = .ok (outcome, g') ∧
      outcome.verdict = .merged ∧ outcome.road = some id ∧
      g'.map.network.segment? id = some ⟨origin, p⟩ ∧
      ∀ q, Segment.CrossesInSight ⟨origin, Land.planEnd outcome.plan origin⟩ g.map.network
          outcome.plan.length q →
        (∃ r, g.map.network.Extends 2 outcome.plan.highway c id g'.map.network (.split p r)) ∧
        ¬ origin.distance q < origin.distance p := by
  intro g
  have hok : (do
      let built ← g.build ⟨2, ⟨1, 0⟩, false⟩ 2
      return (built.1.verdict, built.1.road)) = .ok (.merged, some 2) := by
    decide +kernel
  obtain ⟨⟨outcome, g'⟩, hbuild, h⟩ := bind_eq_ok.1 hok
  obtain ⟨hverdict, hid⟩ := Prod.mk.inj (Except.ok.inj h)
  obtain ⟨c, origin, p, -, -, hsegment, -, hcrossings⟩ :=
    build_crossing (RoadMap.mirrors_ofNetwork _ _ _) hbuild hid
  exact ⟨outcome, g', 2, c, origin, p, hbuild, hverdict, hid, hsegment,
    fun q hq => (hcrossings q hq).2⟩

/-- From a network whose roads meet nowhere but at their ends, a road is built that meets the byway
elsewhere. -/
def LosesPlanarity (g : Growth Float32) (plan : RoadPlan Float32) (verdict : Verdict)
    (meets : Segment Float32 → Segment Float32 → Bool) : Prop :=
  g.map.network.Planar ∧ ∃ outcome g', g.build plan 2 = .ok (outcome, g') ∧
    outcome.verdict = verdict ∧ outcome.road = some 1 ∧
    ∃ a ∈ g'.map.network.segment? 1, ∃ b ∈ g'.map.network.segment? 0, meets a b = true

theorem losesPlanarity_of_eq_ok {g : Growth Float32} {plan : RoadPlan Float32} {verdict : Verdict}
    {meets : Segment Float32 → Segment Float32 → Bool}
    (h : (do
      let built ← g.build plan 2
      return (decide g.map.network.Planar, built.1.verdict, built.1.road,
        decide (∃ a ∈ built.2.map.network.segment? 1, ∃ b ∈ built.2.map.network.segment? 0,
          meets a b = true))) = .ok (true, verdict, some 1, true)) :
    LosesPlanarity g plan verdict meets := by
  obtain ⟨⟨outcome, g'⟩, hbuild, h⟩ := bind_eq_ok.1 h
  simp only [pure, Except.pure, Except.ok.injEq, Prod.mk.injEq, decide_eq_true_eq] at h
  obtain ⟨hplanar, hverdict, hroad, hmeets⟩ := h
  exact ⟨hplanar, outcome, g', hbuild, hverdict, hroad, hmeets⟩

/-- A road that is built can cross a road whose midpoint is not in sight; drawn to a crossroad, it
can cross a road that it was not proposed to cross; and it can end inside a road. -/
theorem losesPlanarity_roadOnPlain :
    LosesPlanarity (roadOnPlain 1 ⟨⟨1, 0⟩, ⟨1, 5⟩⟩ [⟨0.5, 1⟩]) ⟨1, ⟨1, 0⟩, false⟩ .succeeded
        Segment.crosses ∧
      LosesPlanarity (roadOnPlain 4 ⟨⟨2, 1.5⟩, ⟨2, 4⟩⟩ [⟨0, 1⟩, ⟨4, 3⟩]) ⟨4, ⟨1, 0⟩, false⟩ .merged
        Segment.crosses ∧
      LosesPlanarity (roadOnPlain 4 ⟨⟨2, 0⟩, ⟨2, 5⟩⟩ [⟨0, 1.25⟩]) ⟨2, ⟨1, 0⟩, false⟩ .succeeded
        (fun a b => b.holds a.finish) := by
  refine ⟨losesPlanarity_of_eq_ok ?_, losesPlanarity_of_eq_ok ?_, losesPlanarity_of_eq_ok ?_⟩
  · decide +kernel
  · decide +kernel
  · decide +kernel

end Growth

end Cityscape
