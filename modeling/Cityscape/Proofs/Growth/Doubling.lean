import Cityscape.Proofs.Crossing
import Cityscape.Proofs.Growth.Building

/-!
# Growth without loops and doubled roads

A road is only drawn to an old crossroad that it is not joined to. A road that ends on another road
cannot double one of its sections either, since a road at the start is never split: it is met at the
start, and a crossing there does not count.

## Main statements

* `Ending.Meets.not_incident` — a road at the start is not split.
* `Growth.simple_of_build_of_generate` — roads that are built in single precision keep a network
  without loops and doubled roads, and growth leads to one.
-/

namespace Cityscape

open RoadNetwork

/-- A road that starts or ends at the start of a proposed road is not the one to be split. -/
theorem Ending.Meets.not_incident {n : RoadNetwork Float32} {proposed : Segment Float32}
    {p : Vec2 Float32} {id : RoadId} (h : (Ending.split p id).Meets n proposed)
    {start : CrossroadId} (hstart : n.position? start = some proposed.start) {road : Road Float32}
    (hroad : n.road? id = some road) : road.start ≠ start ∧ road.finish ≠ start := by
  obtain ⟨other, hother, hmet⟩ := h
  have hends := position?_of_segment? hroad hother
  rw [← not_or]
  intro hincident
  have hshare : other.start = proposed.start ∨ other.finish = proposed.start := by
    rcases hincident with rfl | rfl
    · exact .inl (Option.some.inj (hends.1.symm.trans hstart))
    · exact .inr (Option.some.inj (hends.2.symm.trans hstart))
  rcases hmet with ⟨hcross, haway⟩ | ⟨hline, hahead⟩
  · have hbeq := Segment.segments_beq_start hshare hcross
    simp [bne, hbeq] at haway
  · exact Segment.lines_not_ahead hshare hline hahead

namespace Growth

variable {g g' : Growth Float32}

/-- Building a road keeps a network without loops and doubled roads, and it keeps the roads at the
start. -/
theorem build_isSimple {plan : RoadPlan Float32} {start : CrossroadId} {outcome : Outcome Float32}
    {m m' : RoadMap Float32} {land : Land Float32} {settings : GrowthSettings Float32}
    (hm : m.network.IsSimple) (h : m.build land settings plan start = .ok (outcome, m')) :
    m'.network.IsSimple ∧ ∀ id road, m.network.road? id = some road →
      road.start = start ∨ road.finish = start → m'.network.road? id = some road := by
  obtain ⟨-, rfl⟩ | ⟨origin, fitted, e, finish, id, horigin, hmeets, -, hextends⟩ :=
    RoadMap.build_extends h
  · exact ⟨hm, fun id road hr _ => hr⟩
  have haway (p : Vec2 Float32) (r : RoadId) (old : Road Float32) (he : e = .split p r)
      (hold : m.network.road? r = some old) : old.start ≠ start ∧ old.finish ≠ start := by
    rw [he] at hmeets
    exact hmeets.not_incident horigin hold
  refine ⟨hextends.isSimple (by simp [horigin]) hm haway, fun r road hr hincident => ?_⟩
  refine hextends.road?_of_ne hr fun p he => ?_
  obtain ⟨hs, hf⟩ := haway p r road he hr
  rcases hincident with hincident | hincident
  · exact hs hincident
  · exact hf hincident

theorem isSimple_of_step {v v' : Growth Float32} (hv : v.map.network.IsSimple)
    (h : v.step = .ok v') : v'.map.network.IsSimple := by
  obtain ⟨hmap, -⟩ | ⟨plan, start, outcome, hbuild, -⟩ := step_cases h
  · rw [hmap]
    exact hv
  · exact (build_isSimple hv hbuild).1

theorem isSimple_of_plant {v : Growth Float32} {centre : Vec2 Float32}
    {direction : Option (Vec2 Float32)} (h : g.plant centre direction = .ok v) :
    v.map.network.IsSimple := by
  rw [(plant_cases h).1]
  exact isSimple_empty

/-- A road that is built in a network without loops and doubled roads brings none, whatever the land
and the settings are, and splits no road at its start. So growth leads to a network without loops
and doubled roads. -/
theorem simple_of_build_of_generate :
    (∀ (g g' : Growth Float32) (plan : RoadPlan Float32) (start : CrossroadId)
        (outcome : Outcome Float32), g.map.network.IsSimple →
      g.build plan start = .ok (outcome, g') → g'.map.network.IsSimple ∧
        ∀ id road, g.map.network.road? id = some road →
          road.start = start ∨ road.finish = start → g'.map.network.road? id = some road) ∧
    ∀ (g g' : Growth Float32) (centre : Vec2 Float32) (direction : Option (Vec2 Float32)),
      g.generate centre direction = .ok g' → g'.map.network.IsSimple := by
  constructor
  · intro g g' plan start outcome hg h
    obtain ⟨map, hbuild, rfl⟩ := build_eq_ok h
    exact build_isSimple hg hbuild
  · intro g g' centre direction h
    exact holds_of_generate (P := fun v => v.map.network.IsSimple)
      (fun v hv => isSimple_of_plant hv) (fun v v' _ hv hstep => isSimple_of_step hv hstep)
      (fun v hv => hv) (fun v hv => hv) h

/-- A byway from the crossroad beside the road on the plain, and growth over the plain. -/
theorem simple_of_build_of_generate_onPlain :
    let settings : GrowthSettings Float32 :=
      { GrowthSettings.standard with rounds := 3, roadLength := 2, rule := .grid }
    (∃ g outcome g', besideRoad = .ok g ∧ g.map.network.IsSimple ∧
      g.build ⟨4, ⟨0, 1⟩, false⟩ 2 = .ok (outcome, g') ∧ outcome.verdict = .merged ∧
      g'.map.network.IsSimple) ∧
    ∃ g', (onPlain settings).generate ⟨0, 2⟩ (some ⟨1, 0⟩) = .ok g' ∧ g'.map.network.IsSimple := by
  intro settings
  constructor
  · have hok : (do
        let g ← besideRoad
        let (outcome, _) ← g.build ⟨4, ⟨0, 1⟩, false⟩ 2
        return (outcome.verdict, decide g.map.network.IsSimple)) = .ok (.merged, true) := by
      decide +kernel
    obtain ⟨g, hg, h⟩ := bind_eq_ok.1 hok
    obtain ⟨⟨outcome, g'⟩, hbuild, h⟩ := bind_eq_ok.1 h
    obtain ⟨hverdict, hsimple⟩ := Prod.mk.inj (Except.ok.inj h)
    have hg' := simple_of_build_of_generate.1 g g' _ 2 outcome (of_decide_eq_true hsimple) hbuild
    exact ⟨g, outcome, g', hg, of_decide_eq_true hsimple, hbuild, hverdict, hg'.1⟩
  · have hok : ((onPlain settings).generate ⟨0, 2⟩ (some ⟨1, 0⟩)).isOk := by decide +kernel
    obtain ⟨g', h⟩ := exists_eq_ok hok
    exact ⟨g', h, simple_of_build_of_generate.2 _ g' _ _ h⟩

end Growth

end Cityscape
