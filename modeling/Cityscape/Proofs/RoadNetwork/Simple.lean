import Cityscape.Proofs.RoadNetwork.Paths

/-!
# Networks without doubled roads

A network is simple when no road leads back to where it starts and no two roads join the same two
crossroads.

## Main definitions

* `RoadNetwork.IsSimple` — no loops and no doubled roads.

## Main statements

* `RoadNetwork.Simple.update` — storing one more road keeps roads simple when it is no loop and the
  other roads do not join its ends.
* `RoadNetwork.isSimple_iff` — a network is simple when any two entries of its list of roads agree.
-/

namespace Cityscape.RoadNetwork

variable {α : Type}

/-- Roads by number of which none is a loop and no two join the same crossroads. -/
structure Simple (roads : RoadId → Option (Road α)) : Prop where
  start_ne_finish {id : RoadId} {road : Road α} : roads id = some road → road.start ≠ road.finish
  unique {i j : RoadId} {r s : Road α} {a b : CrossroadId} : roads i = some r → roads j = some s →
    r.Joins a b → s.Joins a b → i = j

/-- A network without loops and doubled roads. -/
def IsSimple (n : RoadNetwork α) : Prop := Simple n.road?

theorem isSimple_empty : (empty : RoadNetwork α).IsSimple := by
  constructor <;> intros <;> simp_all [road?, empty]

/-- Roads with the same ends join the same crossroads. -/
theorem joins_trans {r s : Road α} {a b : CrossroadId} (hr : r.Joins a b) (hs : s.Joins a b) :
    r.Joins s.start s.finish := by
  obtain ⟨rfl, rfl⟩ | ⟨rfl, rfl⟩ := hs
  · exact hr
  · exact hr.symm

theorem Simple.update {roads : RoadId → Option (Road α)} (h : Simple roads) {id : RoadId}
    {road : Road α} (hloop : road.start ≠ road.finish)
    (hother : ∀ j s, j ≠ id → roads j = some s → ¬ s.Joins road.start road.finish) :
    Simple (Function.update roads id (some road)) where
  start_ne_finish {j s} hj := by
    rw [Function.update_apply] at hj
    split at hj
    · cases hj; exact hloop
    · exact h.start_ne_finish hj
  unique {i j r s a b} hi hj hr hs := by
    rw [Function.update_apply] at hi hj
    split at hi
    · cases hi
      split at hj
      · simp_all
      next hne => exact absurd (joins_trans hs hr) (hother j s hne hj)
    next hne =>
      split at hj
      · cases hj
        exact absurd (joins_trans hr hs) (hother i r hne hi)
      · exact h.unique hi hj hr hs

/-! ## Testing -/

theorem isSimple_iff (n : RoadNetwork α) :
    n.IsSimple ↔ ∀ x ∈ n.roads, x.2.start ≠ x.2.finish ∧
      ∀ y ∈ n.roads, x.2.Joins y.2.start y.2.finish → x.1 = y.1 := by
  constructor
  · rintro h ⟨i, r⟩ hx
    have hi := mem_roads.1 hx
    refine ⟨h.start_ne_finish hi, ?_⟩
    rintro ⟨j, s⟩ hy hjoins
    exact h.unique hi (mem_roads.1 hy) hjoins s.joins_ends
  · intro h
    constructor
    · intro i r hi
      exact (h (i, r) (mem_roads.2 hi)).1
    · intro i j r s a b hi hj hr hs
      exact (h (i, r) (mem_roads.2 hi)).2 (j, s) (mem_roads.2 hj) (joins_trans hr hs)

instance (road : Road α) (a b : CrossroadId) : Decidable (road.Joins a b) :=
  inferInstanceAs (Decidable (_ ∨ _))

instance (n : RoadNetwork α) : Decidable n.IsSimple := decidable_of_iff _ n.isSimple_iff.symm

end Cityscape.RoadNetwork
