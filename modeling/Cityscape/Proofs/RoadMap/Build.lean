import Cityscape.Proofs.Growth.Siting
import Cityscape.Proofs.Growth.Surroundings
import Cityscape.Proofs.RoadMap.Changes
import Cityscape.Proofs.RoadNetwork.Extension

/-!
# What building a road does

## Main statements

* `RoadMap.splitRoad_spec` — a road is replaced by its two sections.
* `RoadMap.join_ending`, `RoadMap.build_extends` — a proposed road is not built and nothing changes,
  or the network has one more road.
-/

namespace Cityscape

variable {α : Type} [Scalar α]

namespace RoadMap

variable {m m₁ m' : RoadMap α} {start finish : CrossroadId} {highway : Bool} {id : RoadId}

/-- A road that overlaps nothing leads to a crossroad that is not joined to its start. -/
theorem not_joins_of_overlapsRoad (h : m.network.overlapsRoad start finish = false) {j : RoadId}
    {road : Road α} (hj : m.network.road? j = some road) : ¬ road.Joins start finish := by
  refine RoadNetwork.not_joins_of_findRoad ?_ hj
  unfold RoadNetwork.overlapsRoad at h
  split at h
  · simp only [Bool.or_eq_false_iff] at h
    simpa using h.1.2
  · cases h

/-- The road to a crossroad of its own. -/
theorem addCrossroad_extends {p : Vec2 α} (hend : m.addCrossroad p = (finish, m₁))
    (hroad : m₁.addRoad start finish highway = .ok (id, m')) :
    m.network.Extends start highway finish id m'.network (.fresh p) := by
  rw [addCrossroad_eq] at hend
  cases hend
  obtain ⟨a, b, -, -, rfl, hpos, hroads, -⟩ := addRoad_cases hroad
  exact .fresh m.network.position?_crossroadCount m.network.road?_nextId
    (hpos.trans (m.network.position?_addCrossroad p)) hroads

/-- A road that is split is replaced by its two sections: the first one takes its number, and the
second one a number that was not in use. -/
theorem splitRoad_spec {p : Vec2 α} {r : RoadId} {minimum : α}
    (h : m.splitRoad p r minimum = .ok (some (finish, m'))) :
    ∃ old second mid₁ mid₂, m.network.road? r = some old ∧ m.network.position? finish = none ∧
      m.network.road? second = none ∧
      m'.network.position? = Function.update m.network.position? finish (some p) ∧
      m'.network.road? = Function.update (Function.update m.network.road?
        r (some ⟨old.start, finish, old.highway, mid₁⟩))
        second (some ⟨finish, old.finish, old.highway, mid₂⟩) := by
  obtain ⟨ends, old, m₁, first, second, -, hold, -, -, hc, hfirst, hsecond⟩ := splitRoad_cases h
  obtain ⟨hnext, hpos₀, hroads₀, -⟩ := removeRoad_of_road? hold
  obtain ⟨a₁, b₁, -, -, hid₁, hpos₁, hroads₁, -⟩ := addRoad_cases hfirst
  obtain ⟨a₂, b₂, -, -, hid₂, hpos₂, hroads₂, -⟩ := addRoad_cases hsecond
  have hreused : first = r := hid₁.trans hnext
  have hroads : m₁.network.road? = Function.update m.network.road? r
      (some ⟨old.start, finish, old.highway, (a₁ + b₁).scale 0.5⟩) := by
    rw [hroads₁, hreused, addCrossroad_eq, RoadNetwork.road?_addCrossroad, hroads₀,
      Function.update_idem]
  have hfree := m₁.network.road?_nextId
  rw [← hid₂, hroads] at hfree
  have hne : second ≠ r := by
    rintro rfl
    simp at hfree
  refine ⟨old, second, _, _, hold, ?_, by simpa [hne] using hfree, ?_, by rw [hroads₂, hroads]⟩
  · rw [hc, ← hpos₀]
    exact (m.removeRoad r).network.position?_crossroadCount
  · rw [hpos₂, hpos₁, addCrossroad_eq, RoadNetwork.position?_addCrossroad, hpos₀, hc]

/-- The road to a new crossroad on another road. -/
theorem splitRoad_extends {p : Vec2 α} {r : RoadId} {minimum : α}
    (hsplit : m.splitRoad p r minimum = .ok (some (finish, m₁)))
    (hroad : m₁.addRoad start finish highway = .ok (id, m')) :
    m.network.Extends start highway finish id m'.network (.split p r) := by
  obtain ⟨old, second, mid₁, mid₂, hold, hfinish, hsecond, hpos₁, hroads₁⟩ := splitRoad_spec hsplit
  obtain ⟨a, b, -, -, hid, hpos, hroads, -⟩ := addRoad_cases hroad
  have hfree := m₁.network.road?_nextId
  rw [← hid, hroads₁] at hfree
  have hne : id ≠ second := by
    rintro rfl
    simp at hfree
  have hne' : id ≠ r := by
    rintro rfl
    simp [hne] at hfree
  rw [hroads₁] at hroads
  exact .split hfinish hold hsecond (by simpa [hne, hne'] using hfree) hne (hpos.trans hpos₁) hroads

/-- The road to an old crossroad. -/
theorem addRoad_extends (hne : finish ≠ start)
    (hover : m.network.overlapsRoad start finish = false)
    (hroad : m.addRoad start finish highway = .ok (id, m')) :
    m.network.Extends start highway finish id m'.network (.existing finish) := by
  obtain ⟨a, b, -, hb, rfl, hpos, hroads, -⟩ := addRoad_cases hroad
  exact .existing hne (by simp [hb]) (fun _ _ => not_joins_of_overlapsRoad hover)
    m.network.road?_nextId hpos hroads

/-- A road that fits the terrain is refused and nothing changes, or it is built to the ending that
its surroundings lead to. -/
theorem join_ending {settings : GrowthSettings α} {plan : RoadPlan α} {proposed : Segment α}
    {outcome : Outcome α} (h : m.join settings plan start proposed = .ok (outcome, m')) :
    ∃ near, m.surroundings start proposed (Scalar.round (plan.length * settings.reach))
        plan.length = .ok near ∧
      ((outcome = .failed plan ∧ m' = m) ∨
        ∃ (e : Ending α) (finish : CrossroadId) (id : RoadId),
          near.ending m.network proposed (Scalar.round (plan.length * settings.reach)) = e ∧
          outcome = ⟨e.verdict, some finish, some id, plan⟩ ∧
          m.network.Extends start plan.highway finish id m'.network e) := by
  obtain ⟨near, hnear, hfail | ⟨finish, merged, m₁, id, hend, hroad, houtcome⟩⟩ := join_cases h
  · exact ⟨near, hnear, .inl hfail⟩
  refine ⟨near, hnear, .inr ⟨_, finish, id, rfl, ?_⟩⟩
  rcases makeEnd_cases hend with ⟨p, he, rfl, hmade⟩ | ⟨p, r, he, rfl, hmade⟩ |
    ⟨he, rfl, rfl, hover⟩
  · rw [he]
    exact ⟨houtcome, addCrossroad_extends hmade hroad⟩
  · rw [he]
    exact ⟨houtcome, splitRoad_extends hmade hroad⟩
  · have hne := (surroundings_sound hnear).ending_existing he
    rw [he]
    exact ⟨houtcome, addRoad_extends hne hover hroad⟩

/-- A road that fits the terrain is refused and nothing changes, or it is built to an ending where
it meets the road that it splits. -/
theorem join_extends {settings : GrowthSettings α} {plan : RoadPlan α} {proposed : Segment α}
    {outcome : Outcome α} (h : m.join settings plan start proposed = .ok (outcome, m')) :
    (outcome = .failed plan ∧ m' = m) ∨
      ∃ (e : Ending α) (finish : CrossroadId) (id : RoadId), e.Meets m.network proposed ∧
        outcome = ⟨e.verdict, some finish, some id, plan⟩ ∧
        m.network.Extends start plan.highway finish id m'.network e := by
  obtain ⟨near, hnear, hfail | ⟨e, finish, id, rfl, houtcome, hextends⟩⟩ := join_ending h
  · exact .inl hfail
  · exact .inr ⟨_, finish, id, (surroundings_sound hnear).meets_ending _, houtcome, hextends⟩

variable [Trigonometry α]

/-- A proposed road is not built and nothing changes, or it is built in its class to an ending that
its surroundings led to, once it was fitted into the terrain. -/
theorem build_extends {land : Land α} {settings : GrowthSettings α} {plan : RoadPlan α}
    {outcome : Outcome α} (h : m.build land settings plan start = .ok (outcome, m')) :
    (outcome.verdict = .failed ∧ m' = m) ∨
      ∃ (origin : Vec2 α) (fitted : RoadPlan α) (e : Ending α) (finish : CrossroadId)
        (id : RoadId), m.network.position? start = some origin ∧
        e.Meets m.network ⟨origin, Land.planEnd fitted origin⟩ ∧
        outcome = ⟨e.verdict, some finish, some id, fitted⟩ ∧
        m.network.Extends start plan.highway finish id m'.network e := by
  obtain ⟨rfl, hm⟩ | ⟨origin, fitted, horigin, hsettled, hjoin⟩ := build_cases h
  · exact .inl ⟨rfl, hm⟩
  have hclass := (Land.settle_spec hsettled).1
  obtain ⟨rfl, hm⟩ | ⟨e, finish, id, hmeets, houtcome, hextends⟩ := join_extends hjoin
  · exact .inl ⟨rfl, hm⟩
  · rw [hclass] at hextends
    exact .inr ⟨origin, fitted, e, finish, id, horigin, hmeets, houtcome, hextends⟩

end RoadMap

end Cityscape
