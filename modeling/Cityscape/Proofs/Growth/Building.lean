import Cityscape.Proofs.Growth.Runs

/-!
# What a proposed road changes

## Main statements

* `Growth.build_effect` — a road that is not built changes nothing, and one that is built changes
  the network in one of three ways and nothing else.
-/

namespace Cityscape.Growth

variable {α : Type} [Scalar α] [Trigonometry α] {g g' : Growth α}

/-- A proposed road leaves the maps, the settings, the queue, the stream and the counts alone. When
it is not built, nothing changes at all; when it succeeded, it leads to one new crossroad; when it
was merged, it leads to an old crossroad, or to a new one that splits one road into two. -/
theorem build_effect {plan : RoadPlan α} {start : CrossroadId} {outcome : Outcome α}
    (h : g.build plan start = .ok (outcome, g')) :
    (g'.land = g.land ∧ g'.settings = g.settings ∧ g'.queue = g.queue ∧ g'.stream = g.stream ∧
      g'.stats = g.stats) ∧
    match outcome.verdict with
    | .failed => g' = g
    | .succeeded => ∃ finish id p, outcome.finish = some finish ∧ outcome.road = some id ∧
        g.map.network.Extends start plan.highway finish id g'.map.network (.fresh p)
    | .merged => ∃ finish id, outcome.finish = some finish ∧ outcome.road = some id ∧
        (g.map.network.Extends start plan.highway finish id g'.map.network (.existing finish) ∨
          ∃ p r, g.map.network.Extends start plan.highway finish id g'.map.network
            (.split p r)) := by
  obtain ⟨map, hbuild, rfl⟩ := build_eq_ok h
  refine ⟨⟨rfl, rfl, rfl, rfl, rfl⟩, ?_⟩
  obtain ⟨hfailed, rfl⟩ | ⟨-, fitted, e, finish, id, -, -, rfl, hextends⟩ :=
    RoadMap.build_extends hbuild
  · rw [hfailed]
  · cases e with
    | fresh p => exact ⟨finish, id, p, rfl, rfl, hextends⟩
    | split p r => exact ⟨finish, id, rfl, rfl, .inr ⟨p, r, hextends⟩⟩
    | existing c =>
      have hc : c = finish := by
        cases hextends
        rfl
      rw [hc] at hextends
      exact ⟨finish, id, rfl, rfl, .inl hextends⟩

/-- A road across a plain, and a crossroad beside it. -/
def besideRoad : Except Fault (Growth Float32) := do
  let (west, g) := (onPlain .standard).addCrossroad ⟨0, 3⟩
  let (east, g) := g.addCrossroad ⟨4, 3⟩
  let (_, g) := g.addCrossroad ⟨2, 1⟩
  let (_, g) ← g.addRoad west east true
  return g

/-- A byway from the crossroad beside the road splits it. -/
theorem build_effect_besideRoad :
    ∃ g outcome g', besideRoad = .ok g ∧ g.build ⟨4, ⟨0, 1⟩, false⟩ 2 = .ok (outcome, g') ∧
      g'.stats = g.stats ∧ ∃ finish id, outcome.finish = some finish ∧ outcome.road = some id ∧
        (g.map.network.Extends 2 false finish id g'.map.network (.existing finish) ∨
          ∃ p r, g.map.network.Extends 2 false finish id g'.map.network (.split p r)) := by
  have hok : (do
      let g ← besideRoad
      let (outcome, _) ← g.build ⟨4, ⟨0, 1⟩, false⟩ 2
      return outcome.verdict) = .ok .merged := by decide +kernel
  obtain ⟨g, hg, h⟩ := bind_eq_ok.1 hok
  obtain ⟨⟨outcome, g'⟩, hbuild, h⟩ := bind_eq_ok.1 h
  have hverdict : outcome.verdict = .merged := Except.ok.inj h
  obtain ⟨⟨-, -, -, -, hstats⟩, heffect⟩ := build_effect hbuild
  rw [hverdict] at heffect
  exact ⟨g, outcome, g', hg, hbuild, hstats, heffect⟩

end Cityscape.Growth
