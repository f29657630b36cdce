import Cityscape.Proofs.Growth.Runs

/-!
# Connectedness and counts of growth

Every road that is built starts at a crossroad of the network, so that everything hangs together
with the centre. A road to a crossroad of its own adds one crossroad and one road; any other road
adds one road more than crossroads, and is counted as merged.

## Main definitions

* `Growth.Accounted` — the network is connected, and its numbers agree with the counts.

## Main statements

* `Growth.generate_accounted` — growth is accounted for after every task and at its end.
-/

namespace Cityscape

variable {α : Type}

/-- All crossroads are reached from the centre, and the counts of growth tell how many crossroads
and roads there are. -/
structure Growth.Accounted (centre : Vec2 α) (g : Growth α) : Prop where
  /-- The crossroad that was added first lies at the centre. -/
  centre : g.map.network.position? 0 = some centre
  /-- Every crossroad is joined to it by a path of roads. -/
  connected : g.map.network.Connected
  /-- A road that merged is one that did not bring a crossroad of its own. -/
  crossroads : g.map.network.crossroadCount + g.stats.merged = g.map.network.roadCount + 1
  /-- Every road that was built is there. -/
  built_le : g.stats.built ≤ g.map.network.roadCount
  /-- The other roads are sections that merged roads cut off. -/
  le_built : g.map.network.roadCount ≤ g.stats.built + g.stats.merged

namespace Growth

variable {centre : Vec2 α} {g v v' : Growth α}

theorem Accounted.congr (h : v.Accounted centre) (hmap : v'.map = v.map)
    (hbuilt : v'.stats.built = v.stats.built) (hmerged : v'.stats.merged = v.stats.merged) :
    v'.Accounted centre := by
  constructor
  · rw [hmap]; exact h.centre
  · rw [hmap]; exact h.connected
  · rw [hmap, hmerged]; exact h.crossroads
  · rw [hmap, hbuilt]; exact h.built_le
  · rw [hmap, hbuilt, hmerged]; exact h.le_built

/-- A road that is built stays accounted for, wherever it ends. -/
theorem Accounted.of_extends {start finish : CrossroadId} {highway : Bool} {id : RoadId}
    {e : Ending α} (h : v.Accounted centre) (hstart : (v.map.network.position? start).isSome)
    (hextends : v.map.network.Extends start highway finish id v'.map.network e)
    (hstats : v'.stats = v.stats.count e.verdict) : v'.Accounted centre := by
  have hcrossroads := h.crossroads
  have hbuilt := h.built_le
  have hroads := h.le_built
  have hcounts := hextends.counts
  refine ⟨hextends.position?_eq h.centre, hextends.connected hstart h.connected, ?_, ?_, ?_⟩ <;>
    rw [hstats] <;> cases e <;> simp only [Ending.verdict, GrowthStats.count] <;> omega

variable [Scalar α] [Trigonometry α]

theorem accounted_of_plant {direction : Option (Vec2 α)}
    (h : g.plant centre direction = .ok v) : v.Accounted centre := by
  obtain ⟨hmap, hstats⟩ := plant_cases h
  have hnetwork : v.map.network = (RoadNetwork.empty.addCrossroad centre).2 := by
    rw [hmap]
    rfl
  have hroads : (RoadNetwork.empty.addCrossroad centre).2.roadCount = 0 := rfl
  constructor
  · rw [hnetwork]
    rfl
  · rw [hnetwork]
    exact RoadNetwork.connected_addCrossroad_empty centre
  · rw [hnetwork, hstats]
    rfl
  · rw [hstats]
    exact Nat.zero_le _
  · rw [hnetwork, hroads]
    exact Nat.zero_le _

theorem Accounted.step (h : v.Accounted centre) (hstep : v.step = .ok v') :
    v'.Accounted centre := by
  obtain ⟨hmap, hstats⟩ | ⟨plan, start, outcome, hbuild, hstats⟩ := step_cases hstep
  · exact h.congr hmap (by rw [hstats]) (by rw [hstats])
  obtain ⟨hfailed, hmap⟩ | ⟨origin, fitted, e, finish, id, horigin, -, rfl, hextends⟩ :=
    RoadMap.build_extends hbuild
  · rw [hfailed] at hstats
    exact h.congr hmap (by rw [hstats]; rfl) (by rw [hstats]; rfl)
  · exact h.of_extends (by simp [horigin]) hextends hstats

/-- After every task of growth, and when growth is done, the network is connected and its numbers of
crossroads and roads are those that were counted. -/
theorem generate_accounted (g : Growth α) (centre : Vec2 α) (direction : Option (Vec2 α)) :
    (∀ v, g.Passes centre direction v → v.Accounted centre) ∧
      ∀ g', g.generate centre direction = .ok g' → g'.Accounted centre := by
  have hplant := fun v (h : g.plant centre direction = .ok v) => accounted_of_plant h
  have hstep := fun v v' (_ : g.Passes centre direction v) (h : v.Accounted centre)
    (hstep : v.step = .ok v') => h.step hstep
  have hcount (v : Growth α) (h : v.Accounted centre) :
      Accounted centre { v with stats.iterations := v.stats.iterations + 1 } :=
    h.congr rfl rfl rfl
  refine ⟨fun v h => holds_of_passes hplant hstep hcount h,
    fun g' h => holds_of_generate hplant hstep hcount (fun v hv => ?_) h⟩
  exact hv.congr rfl rfl rfl

/-- Two highways are built one behind the other in three rounds over a plain. -/
theorem generate_accounted_onPlain :
    let settings : GrowthSettings Float32 :=
      { GrowthSettings.standard with rounds := 3, roadLength := 2, rule := .grid }
    ∃ g', (onPlain settings).generate ⟨0, 2⟩ (some ⟨1, 0⟩) = .ok g' ∧ g'.Accounted ⟨0, 2⟩ := by
  intro settings
  have hok : ((onPlain settings).generate ⟨0, 2⟩ (some ⟨1, 0⟩)).isOk := by decide +kernel
  obtain ⟨g', h⟩ := exists_eq_ok hok
  exact ⟨g', h, (generate_accounted (onPlain settings) ⟨0, 2⟩ (some ⟨1, 0⟩)).2 g' h⟩

end Growth

end Cityscape
