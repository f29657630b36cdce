import Cityscape.RoadNetwork
import Mathlib.Data.Set.Card
import Mathlib.Logic.Function.Basic

/-!
# What changes of a road network do

A network is seen through the positions of its crossroads and through its roads, both by number.
Every change of a network is an update of these two functions at one number.

## Main statements

* `RoadNetwork.position?_addCrossroad`, `RoadNetwork.road?_addCrossroad` — a new crossroad.
* `RoadNetwork.addRoad_spec`, `RoadNetwork.removeRoad?_spec` — a new road, a road taken out.
* `RoadNetwork.mem_roads`, `RoadNetwork.roadCount_eq_ncard` — all roads and their number.
-/

namespace Cityscape.RoadNetwork

variable {α : Type}

/-! ## Crossroads -/

theorem isSome_position? (n : RoadNetwork α) (c : CrossroadId) :
    (n.position? c).isSome ↔ c < n.crossroadCount := by
  simp [position?, crossroad?, crossroadCount]

theorem position?_crossroadCount (n : RoadNetwork α) : n.position? n.crossroadCount = none := by
  simp [position?, crossroad?, crossroadCount]

theorem position?_addCrossroad (n : RoadNetwork α) (p : Vec2 α) :
    (n.addCrossroad p).2.position? = Function.update n.position? n.crossroadCount (some p) := by
  funext c
  simp only [position?, crossroad?, addCrossroad, crossroadCount, Array.getElem?_push,
    Function.update_apply]
  by_cases hc : c = n.crossroads.size <;> simp [hc]

@[simp] theorem road?_addCrossroad (n : RoadNetwork α) (p : Vec2 α) :
    (n.addCrossroad p).2.road? = n.road? := rfl

/-! ## Roads -/

/-- Roads join crossroads of the network. -/
theorem isSome_ends {n : RoadNetwork α} {id : RoadId} {road : Road α}
    (h : n.road? id = some road) :
    (n.position? road.start).isSome ∧ (n.position? road.finish).isSome := by
  rw [isSome_position?, isSome_position?]
  exact n.consistent.ends_lt id road (slot_of_road? h)

theorem road?_eq_some_iff {n : RoadNetwork α} {id : RoadId} {road : Road α} :
    n.road? id = some road ↔ n.slots[id]? = some (some road) :=
  Option.join_eq_some_iff

/-- The ends of a road lie where its crossroads do. -/
theorem position?_of_segment? {n : RoadNetwork α} {id : RoadId} {road : Road α}
    {ends : Segment α} (hroad : n.road? id = some road) (h : n.segment? id = some ends) :
    n.position? road.start = some ends.start ∧ n.position? road.finish = some ends.finish := by
  obtain ⟨found, hfound, hends⟩ := Option.bind_eq_some_iff.1 h
  obtain ⟨a, ha, hends⟩ := Option.bind_eq_some_iff.1 hends
  obtain ⟨b, hb, hends⟩ := Option.bind_eq_some_iff.1 hends
  rw [← Option.some.inj hends, Option.some.inj (hroad.symm.trans hfound)]
  exact ⟨ha, hb⟩

theorem road?_nextId (n : RoadNetwork α) : n.road? n.nextId = none := by
  rw [Option.eq_none_iff_forall_ne_some]
  exact fun road h => n.slot_nextId road (slot_of_road? h)

theorem position?_insertRoad (n : RoadNetwork α) (road : Road α)
    (h : road.start < n.crossroads.size ∧ road.finish < n.crossroads.size) :
    (n.insertRoad road h).2.position? = n.position? := by
  funext c
  simp only [position?, crossroad?, insertRoad, getElem?_attach, Option.map_map]
  rfl

theorem road?_insertRoad (n : RoadNetwork α) (road : Road α)
    (h : road.start < n.crossroads.size ∧ road.finish < n.crossroads.size) :
    (n.insertRoad road h).2.road? = Function.update n.road? n.nextId (some road) := by
  funext id
  simp only [road?, insertRoad, getElem?_put n.nextId_le, Function.update_apply]
  split <;> rfl

/-- A new road is stored under a number that was not in use, and nothing else changes. -/
theorem addRoad_spec [Scalar α] {n n' : RoadNetwork α} {start finish : CrossroadId}
    {highway : Bool} {id : RoadId} (h : n.addRoad start finish highway = .ok (id, n')) :
    ∃ a b, n.position? start = some a ∧ n.position? finish = some b ∧
      id = n.nextId ∧ n'.position? = n.position? ∧
      n'.road? = Function.update n.road? id
        (some ⟨start, finish, highway, (a + b).scale 0.5⟩) := by
  unfold addRoad at h
  split at h
  next a b ha hb =>
    have hends := And.intro (lt_size_of_position? ha) (lt_size_of_position? hb)
    cases h
    exact ⟨a, b, ha, hb, rfl, position?_insertRoad n _ hends, road?_insertRoad n _ hends⟩
  next => cases h

/-- A road that is taken out leaves its number free, and nothing else changes. -/
theorem removeRoad?_spec {n n' : RoadNetwork α} {id : RoadId} {road : Road α}
    (h : n.removeRoad? id = some (road, n')) :
    n.road? id = some road ∧ n'.nextId = id ∧ n'.position? = n.position? ∧
      n'.road? = Function.update n.road? id none := by
  unfold removeRoad? at h
  split at h
  next old hold =>
    cases h
    refine ⟨hold, rfl, ?_, ?_⟩
    · funext c
      simp only [position?, crossroad?, getElem?_detach, Option.map_map]
      rfl
    · funext j
      simp only [road?, getElem?_remove (slot_of_road? hold), Function.update_apply]
      split <;> rfl
  next => cases h

theorem removeRoad?_of_road? {n : RoadNetwork α} {id : RoadId} {road : Road α}
    (h : n.road? id = some road) : ∃ n', n.removeRoad? id = some (road, n') := by
  unfold removeRoad?
  split
  next old hold =>
    rw [h] at hold
    cases hold
    exact ⟨_, rfl⟩
  next hnone => rw [h] at hnone; cases hnone

/-! ## All roads -/

theorem mem_roads {n : RoadNetwork α} {id : RoadId} {road : Road α} :
    (id, road) ∈ n.roads ↔ n.road? id = some road := by
  simp [roads, road?_eq_some_iff, List.mem_zipIdx_iff_getElem?]

theorem sublist_numbers {β : Type} (l : List (Option β)) (k : Nat) :
    (((l.zipIdx k).filterMap fun (slot, id) => slot.map (id, ·)).map (·.1)).Sublist
      (List.range' k l.length) := by
  induction l generalizing k with
  | nil => simp
  | cons slot l ih =>
    cases slot with
    | none => simpa [List.range'_succ] using (ih (k + 1)).cons k
    | some b => simpa [List.range'_succ] using (ih (k + 1)).cons_cons k

theorem length_numbered {β : Type} (l : List (Option β)) (k : Nat) :
    ((l.zipIdx k).filterMap fun (slot, id) => slot.map (id, ·)).length =
      l.countP Option.isSome := by
  induction l generalizing k with
  | nil => rfl
  | cons slot l ih => cases slot <;> simp [ih (k + 1)]

/-- No two roads have the same number. -/
theorem nodup_ids (n : RoadNetwork α) : (n.roads.map (·.1)).Nodup :=
  (sublist_numbers n.slots.toList 0).nodup List.nodup_range'

theorem nodup_roads (n : RoadNetwork α) : n.roads.Nodup := n.nodup_ids.of_map _

theorem length_roads (n : RoadNetwork α) : n.roads.length = n.roadCount := by
  rw [roadCount, ← Array.countP_toList]
  exact length_numbered n.slots.toList 0

theorem setOf_isSome_road? (n : RoadNetwork α) :
    {id | (n.road? id).isSome} = ((n.roads.map (·.1)).toFinset : Set RoadId) := by
  ext id
  simp [mem_roads, Option.isSome_iff_exists]

theorem setOf_isSome_position? (n : RoadNetwork α) :
    {c | (n.position? c).isSome} = (Finset.range n.crossroadCount : Set CrossroadId) := by
  ext c
  simp [isSome_position?]

theorem finite_road? (n : RoadNetwork α) : {id | (n.road? id).isSome}.Finite := by
  rw [setOf_isSome_road?]
  exact Finset.finite_toSet _

theorem finite_position? (n : RoadNetwork α) : {c | (n.position? c).isSome}.Finite := by
  rw [setOf_isSome_position?]
  exact Finset.finite_toSet _

/-- The number of roads is the number of numbers in use. -/
theorem roadCount_eq_ncard (n : RoadNetwork α) :
    n.roadCount = {id | (n.road? id).isSome}.ncard := by
  rw [setOf_isSome_road?, Set.ncard_coe_finset, List.toFinset_card_of_nodup n.nodup_ids,
    List.length_map, length_roads]

/-- The number of crossroads is the number of numbers in use. -/
theorem crossroadCount_eq_ncard (n : RoadNetwork α) :
    n.crossroadCount = {c | (n.position? c).isSome}.ncard := by
  rw [setOf_isSome_position?, Set.ncard_coe_finset, Finset.card_range]

/-! ## Numbers in use after an update -/

theorem ncard_update_of_eq_none {β : Type} {f : Nat → Option β} {i : Nat} (b : β)
    (hfin : {j | (f j).isSome}.Finite) (h : f i = none) :
    {j | (Function.update f i (some b) j).isSome}.ncard = {j | (f j).isSome}.ncard + 1 := by
  have hset : {j | (Function.update f i (some b) j).isSome} = insert i {j | (f j).isSome} := by
    ext j
    by_cases hj : j = i <;> simp [Function.update_apply, hj]
  rw [hset, Set.ncard_insert_of_notMem (by simp [h]) hfin]

theorem setOf_isSome_update {β : Type} {f : Nat → Option β} {i : Nat} (b : β)
    (h : (f i).isSome) :
    {j | (Function.update f i (some b) j).isSome} = {j | (f j).isSome} := by
  ext j
  by_cases hj : j = i <;> simp [Function.update_apply, hj, h]

/-- A crossroad under a number that was not in use is one crossroad more. -/
theorem crossroadCount_of_update {n n' : RoadNetwork α} {c : CrossroadId} {p : Vec2 α}
    (h : n'.position? = Function.update n.position? c (some p)) (hc : n.position? c = none) :
    n'.crossroadCount = n.crossroadCount + 1 := by
  rw [crossroadCount_eq_ncard, crossroadCount_eq_ncard, h,
    ncard_update_of_eq_none p n.finite_position? hc]

theorem crossroadCount_congr {n n' : RoadNetwork α} (h : n'.position? = n.position?) :
    n'.crossroadCount = n.crossroadCount := by
  rw [crossroadCount_eq_ncard, crossroadCount_eq_ncard, h]

/-- A road under a number that was not in use is one road more. -/
theorem roadCount_of_update {n n' : RoadNetwork α} {id : RoadId} {road : Road α}
    (h : n'.road? = Function.update n.road? id (some road)) (hid : n.road? id = none) :
    n'.roadCount = n.roadCount + 1 := by
  rw [roadCount_eq_ncard, roadCount_eq_ncard, h,
    ncard_update_of_eq_none road n.finite_road? hid]

end Cityscape.RoadNetwork
