import Cityscape.Growth.Joining
import Cityscape.Proofs.RoadNetwork.Changes

/-!
# What changes of a road map do

Each change of a road map is taken apart into the changes of its network and of its index.

## Main statements

* `RoadMap.addRoad_cases`, `RoadMap.removeRoad_of_road?`, `RoadMap.splitRoad_cases` — the changes.
* `RoadMap.makeEnd_cases`, `RoadMap.join_cases`, `RoadMap.build_cases` — how a road is built.
-/

namespace Cityscape.RoadMap

variable {α : Type} [Scalar α] {m m' : RoadMap α}

/-! ## Single changes -/

theorem addCrossroad_eq (m : RoadMap α) (p : Vec2 α) :
    m.addCrossroad p = (m.network.crossroadCount,
      ⟨(m.network.addCrossroad p).2,
        m.index.insert (.crossroad m.network.crossroadCount p)⟩) := rfl

/-- A new road is added to the network and indexed at its midpoint. -/
theorem addRoad_cases {start finish : CrossroadId} {highway : Bool} {id : RoadId}
    (h : m.addRoad start finish highway = .ok (id, m')) :
    ∃ a b, m.network.position? start = some a ∧ m.network.position? finish = some b ∧
      id = m.network.nextId ∧ m'.network.position? = m.network.position? ∧
      m'.network.road? = Function.update m.network.road? id
        (some ⟨start, finish, highway, (a + b).scale 0.5⟩) ∧
      m'.index = m.index.insert (.road id ((a + b).scale 0.5)) := by
  obtain ⟨⟨id', n'⟩, hadd, h⟩ := bind_eq_ok.1 h
  obtain ⟨a, b, ha, hb, hid, hpos, hroad⟩ := RoadNetwork.addRoad_spec hadd
  have hnew : n'.road? id' = some ⟨start, finish, highway, (a + b).scale 0.5⟩ := by
    rw [hroad, Function.update_self]
  simp only [hnew, pure, Except.pure, Except.ok.injEq, Prod.mk.injEq] at h
  obtain ⟨rfl, rfl⟩ := h
  exact ⟨a, b, ha, hb, hid, hpos, hroad, rfl⟩

/-- A road of the network is taken out of the network and of the index. -/
theorem removeRoad_of_road? {id : RoadId} {road : Road α} (h : m.network.road? id = some road) :
    (m.removeRoad id).network.nextId = id ∧
      (m.removeRoad id).network.position? = m.network.position? ∧
      (m.removeRoad id).network.road? = Function.update m.network.road? id none ∧
      (m.removeRoad id).index = m.index.erase (.road id road.midpoint) := by
  obtain ⟨n', hn'⟩ := RoadNetwork.removeRoad?_of_road? h
  obtain ⟨-, hnext, hpos, hroad⟩ := RoadNetwork.removeRoad?_spec hn'
  have hm : m.removeRoad id = ⟨n', m.index.erase (.road id road.midpoint)⟩ := by
    simp only [removeRoad, hn']
  rw [hm]
  exact ⟨hnext, hpos, hroad, rfl⟩

/-- A road that is split is taken out, and its two sections are added behind a new crossroad. -/
theorem splitRoad_cases {place : Vec2 α} {id : RoadId} {minimum : α} {c : CrossroadId}
    (h : m.splitRoad place id minimum = .ok (some (c, m'))) :
    ∃ ends road m₁ first second, m.network.segment? id = some ends ∧
      m.network.road? id = some road ∧
      (place == ends.start || place == ends.finish) = false ∧
      ¬ (ends.start.distance place ≤ minimum ∨ place.distance ends.finish ≤ minimum) ∧
      c = (m.removeRoad id).network.crossroadCount ∧
      ((m.removeRoad id).addCrossroad place).2.addRoad road.start c road.highway =
        .ok (first, m₁) ∧
      m₁.addRoad c road.finish road.highway = .ok (second, m') := by
  unfold splitRoad at h
  split at h
  next ends road hends hroad =>
    split at h
    · cases h
    next hplace =>
      split at h
      · cases h
      next hlong =>
        obtain ⟨⟨first, m₁⟩, hfirst, h⟩ := bind_eq_ok.1 h
        obtain ⟨⟨second, m₂⟩, hsecond, h⟩ := bind_eq_ok.1 h
        cases h
        exact ⟨ends, road, m₁, first, second, hends, hroad, by simpa using hplace, hlong, rfl,
          hfirst, hsecond⟩
  next => cases h

/-! ## Building a road -/

/-- The end of a road is a crossroad of its own, a crossroad that splits a road, or one that the
road may be joined to. -/
theorem makeEnd_cases {start : CrossroadId} {minimum : α} {ending : Ending α}
    {finish : CrossroadId} {merged : Bool}
    (h : m.makeEnd start minimum ending = .ok (some (finish, merged, m'))) :
    (∃ p, ending = .fresh p ∧ merged = false ∧ m.addCrossroad p = (finish, m')) ∨
    (∃ p id, ending = .split p id ∧ merged = true ∧
      m.splitRoad p id minimum = .ok (some (finish, m'))) ∨
    (ending = .existing finish ∧ merged = true ∧ m' = m ∧
      m.network.overlapsRoad start finish = false) := by
  cases ending with
  | fresh p =>
    cases h
    exact .inl ⟨p, rfl, rfl, rfl⟩
  | split p id =>
    obtain ⟨made, hmade, h⟩ := bind_eq_ok.1 h
    cases made with
    | none => cases h
    | some made =>
      cases h
      exact .inr (.inl ⟨p, id, rfl, rfl, hmade⟩)
  | existing c =>
    simp only [makeEnd] at h
    split at h
    · cases h
    next hover =>
      cases h
      exact .inr (.inr ⟨rfl, rfl, rfl, by simpa using hover⟩)

/-- A road that fits the terrain is refused, or its end is made and the road to it is added. -/
theorem join_cases {settings : GrowthSettings α} {plan : RoadPlan α} {start : CrossroadId}
    {proposed : Segment α} {outcome : Outcome α}
    (h : m.join settings plan start proposed = .ok (outcome, m')) :
    ∃ near, m.surroundings start proposed (Scalar.round (plan.length * settings.reach))
        plan.length = .ok near ∧
      ((outcome = .failed plan ∧ m' = m) ∨
        ∃ finish merged m₁ road,
          m.makeEnd start (Scalar.round (plan.length * settings.reach) / 2.0)
            (near.ending m.network proposed (Scalar.round (plan.length * settings.reach))) =
              .ok (some (finish, merged, m₁)) ∧
          m₁.addRoad start finish plan.highway = .ok (road, m') ∧
          outcome = ⟨if merged then .merged else .succeeded, some finish, some road, plan⟩) := by
  obtain ⟨near, hnear, h⟩ := bind_eq_ok.1 h
  obtain ⟨made, hmade, h⟩ := bind_eq_ok.1 h
  refine ⟨near, hnear, ?_⟩
  match made with
  | none =>
    cases h
    exact .inl ⟨rfl, rfl⟩
  | some (finish, merged, m₁) =>
    obtain ⟨⟨road, m₂⟩, hroad, h⟩ := bind_eq_ok.1 h
    cases h
    exact .inr ⟨finish, merged, m₁, road, hmade, hroad, rfl⟩

variable [Trigonometry α]

/-- A proposed road fits nowhere, or it is fitted into the terrain and then joined to the
network. -/
theorem build_cases {land : Land α} {settings : GrowthSettings α} {plan : RoadPlan α}
    {start : CrossroadId} {outcome : Outcome α}
    (h : m.build land settings plan start = .ok (outcome, m')) :
    (outcome = .failed plan ∧ m' = m) ∨
      ∃ origin fitted, m.network.position? start = some origin ∧
        land.settle settings plan origin = .ok (some fitted) ∧
        m.join settings fitted start ⟨origin, Land.planEnd fitted origin⟩ =
          .ok (outcome, m') := by
  unfold build at h
  split at h
  · cases h
    exact .inl ⟨rfl, rfl⟩
  next origin horigin =>
    obtain ⟨settled, hsettled, h⟩ := bind_eq_ok.1 h
    cases settled with
    | none =>
      cases h
      exact .inl ⟨rfl, rfl⟩
    | some fitted => exact .inr ⟨origin, fitted, horigin, hsettled, h⟩

end Cityscape.RoadMap
