import Cityscape.Lots.Obstacles
import Cityscape.Proofs.Quadtree.Refinement
import Cityscape.Proofs.RoadNetwork.Changes
import Cityscape.Proofs.Scalar.Extremes

/-!
# What obstacles know

A lot is tested against the obstacles that the index returns for its surroundings, which are as wide
as the greatest road and the greatest lot. `Obstacles.Knows` says that the index holds every road of
a network and every reserved lot where they are looked for, and that the reach is wide enough; it
holds from the beginning and is kept when lots are reserved.

## Main definitions

* `Segment.middle` — the point by which a road is indexed as an obstacle.
* `Obstacles.reserveAll` — lots that are reserved one after the other.
* `Obstacles.Knows` — roads and lots are indexed and within reach.

## Main statements

* `Obstacles.knows_ofNetwork`, `Obstacles.Knows.reserveAll` — how obstacles come to know.
* `Obstacles.Knows.not_meets`, `Obstacles.Knows.not_overlaps` — what a lot that is not blocked is
  free of.
-/

namespace Cityscape

variable {α : Type} [Scalar α]

/-- The point by which a road is indexed as an obstacle. -/
def Segment.middle (s : Segment α) : Vec2 α := (s.start + s.finish).divide 2.0

theorem Quadtree.mem_items_insert {β : Type} [Positioned α β] (t : Quadtree α β) (item x : β) :
    x ∈ (t.insert item).items ↔ x = item ∨ x ∈ t.items :=
  (t.items_insert item).mem_iff.trans List.mem_cons

namespace Obstacles

open Scalar

/-- Lots that are reserved one after the other. -/
def reserveAll (o : Obstacles α) (lots : List (Footprint α)) : Obstacles α := lots.foldl reserve o

@[simp] theorem reserveAll_append (o : Obstacles α) (first rest : List (Footprint α)) :
    o.reserveAll (first ++ rest) = (o.reserveAll first).reserveAll rest := by
  rw [reserveAll, List.foldl_append]
  rfl

/-- Reserved lots are kept in order. -/
theorem lots_reserveAll (o : Obstacles α) (lots : List (Footprint α)) :
    (o.reserveAll lots).lots.toList = o.lots.toList ++ lots := by
  induction lots generalizing o with
  | nil => simp [reserveAll]
  | cons f lots ih =>
    have hrest := ih (o.reserve f)
    simpa [reserveAll, reserve] using hrest

/-- Some roads and all reserved lots are indexed where they are looked for, and reach no farther
from the points by which they are indexed than the reach says, as far as the distances are
numbers. -/
structure Knows (roads : RoadId → Segment α → Prop) (o : Obstacles α) : Prop where
  routed : o.index.Routed
  road {id : RoadId} {s : Segment α} : roads id s → .road id s ∈ o.index.items
  lot {i : Nat} {f : Footprint α} : o.lots[i]? = some f → .lot i f.centre ∈ o.index.items
  road_reach {id : RoadId} {s : Segment α} : roads id s →
    IsNumber (s.start.distance s.finish / 2.0) → s.start.distance s.finish / 2.0 ≤ o.reach
  lot_reach {i : Nat} {f : Footprint α} {c : Vec2 α} : o.lots[i]? = some f → c ∈ f.corners →
    IsNumber (c.distance f.centre) → c.distance f.centre ≤ o.reach

/-- A network reserves no lots. -/
theorem lots_ofNetwork (network : RoadNetwork α) (bounds : Rect α) (capacity : Nat) :
    (ofNetwork network bounds capacity).lots = #[] := by
  have hadd (o : Obstacles α) (id : RoadId) : (o.addRoad network id).lots = o.lots := by
    unfold Obstacles.addRoad
    split <;> rfl
  have hall (roads : List (RoadId × Road α)) (o : Obstacles α) :
      (roads.foldl (fun o x => o.addRoad network x.1) o).lots = o.lots := by
    induction roads generalizing o with
    | nil => rfl
    | cons x roads ih => exact (ih (o.addRoad network x.1)).trans (hadd o x.1)
  exact hall network.roads _

variable {o : Obstacles α} {roads : RoadId → Segment α → Prop}

/-! ## How obstacles come to know -/

theorem knows_empty (capacity : Nat) (bounds : Rect α) :
    Knows (fun _ _ => False) ⟨.empty capacity bounds, #[], 0⟩ where
  routed := Quadtree.routed_empty capacity bounds
  road h := h.elim
  lot h := by simp at h
  road_reach h := h.elim
  lot_reach h := by simp at h

theorem Knows.mono (h : o.Knows roads) {fewer : RoadId → Segment α → Prop}
    (hle : ∀ id s, fewer id s → roads id s) : o.Knows fewer :=
  ⟨h.routed, fun hs => h.road (hle _ _ hs), h.lot, fun hs => h.road_reach (hle _ _ hs),
    h.lot_reach⟩

variable [Total α]

theorem Knows.addRoad (h : o.Knows roads) (network : RoadNetwork α) (id : RoadId) :
    (o.addRoad network id).Knows fun j s => roads j s ∨ j = id ∧ network.segment? j = some s := by
  unfold Obstacles.addRoad
  split
  next s hs =>
    constructor
    · exact h.routed.insert _
    · rintro j t (hold | ⟨rfl, ht⟩)
      · exact (o.index.mem_items_insert _ _).2 (.inr (h.road hold))
      · cases hs.symm.trans ht
        exact (o.index.mem_items_insert _ _).2 (.inl rfl)
    · intro i f hf
      exact (o.index.mem_items_insert _ _).2 (.inr (h.lot hf))
    · rintro j t (hold | ⟨rfl, ht⟩) hnumber
      · exact le_max_of_le (h.road_reach hold hnumber) _
      · cases hs.symm.trans ht
        exact le_max_right hnumber _
    · intro i f c hf hc hnumber
      exact le_max_of_le (h.lot_reach hf hc hnumber) _
  next hnone =>
    have hroads {j : RoadId} {t : Segment α}
        (ht : roads j t ∨ j = id ∧ network.segment? j = some t) : roads j t := by
      rcases ht with hold | ⟨rfl, ht⟩
      · exact hold
      · cases hnone.symm.trans ht
    exact ⟨h.routed, fun ht => h.road (hroads ht), h.lot, fun ht => h.road_reach (hroads ht),
      h.lot_reach⟩

theorem Knows.addRoads (h : o.Knows roads) (network : RoadNetwork α)
    (ids : List (RoadId × Road α)) :
    (ids.foldl (fun o (id, _) => o.addRoad network id) o).Knows fun j s =>
      roads j s ∨ j ∈ ids.map (·.1) ∧ network.segment? j = some s := by
  induction ids generalizing o roads with
  | nil => exact h.mono fun j s hs => by simpa using hs
  | cons x ids ih =>
    refine (ih (h.addRoad network x.1)).mono fun j s hs => ?_
    rcases hs with hold | ⟨hmem, hs⟩
    · exact .inl (.inl hold)
    · rcases List.mem_cons.1 hmem with rfl | hmem
      · exact .inl (.inr ⟨rfl, hs⟩)
      · exact .inr ⟨hmem, hs⟩

/-- The obstacles of a network know all its roads. -/
theorem knows_ofNetwork (network : RoadNetwork α) (bounds : Rect α) (capacity : Nat) :
    (ofNetwork network bounds capacity).Knows fun id s => network.segment? id = some s := by
  refine ((knows_empty capacity bounds).addRoads network network.roads).mono fun id s hs => ?_
  obtain ⟨road, hroad, -⟩ := Option.bind_eq_some_iff.1 hs
  exact .inr ⟨List.mem_map.2 ⟨(id, road), RoadNetwork.mem_roads.2 hroad, rfl⟩, hs⟩

theorem Knows.reserve (h : o.Knows roads) (f : Footprint α) : (o.reserve f).Knows roads := by
  have hlots {i : Nat} {g : Footprint α} (hg : (o.reserve f).lots[i]? = some g) :
      i = o.lots.size ∧ g = f ∨ o.lots[i]? = some g := by
    rw [Obstacles.reserve, Array.getElem?_push] at hg
    split at hg
    next hi => exact .inl ⟨hi, (Option.some.inj hg).symm⟩
    next => exact .inr hg
  constructor
  · exact h.routed.insert _
  · exact fun hs => (o.index.mem_items_insert _ _).2 (.inr (h.road hs))
  · intro i g hg
    rcases hlots hg with ⟨rfl, rfl⟩ | hold
    · exact (o.index.mem_items_insert _ _).2 (.inl rfl)
    · exact (o.index.mem_items_insert _ _).2 (.inr (h.lot hold))
  · exact fun hs hnumber => le_max_of_le (h.road_reach hs hnumber) _
  · intro i g c hg hc hnumber
    rcases hlots hg with ⟨rfl, rfl⟩ | hold
    · have hradius := le_foldl_max (f := fun c => c.distance g.centre) hc hnumber 0
      have hself := (Total.isNumber_of_le hradius).2
      exact Ordered.le_trans hradius (le_max_right hself _)
    · exact le_max_of_le (h.lot_reach hold hc hnumber) _

theorem Knows.reserveAll (h : o.Knows roads) (lots : List (Footprint α)) :
    (o.reserveAll lots).Knows roads := by
  induction lots generalizing o with
  | nil => exact h
  | cons f lots ih => exact ih (h.reserve f)

/-! ## What a lot that is not blocked is free of -/

/-- A lot that is not blocked collides with nothing whose point lies in the surroundings. -/
theorem Knows.not_collides (h : o.Knows roads) {f : Footprint α} {host : RoadId}
    (hfree : o.isBlocked f host = false) {x : Obstacle α} (hx : x ∈ o.index.items)
    (hnear : (f.bounds.inflate o.reach).Encloses (Positioned.position x)) :
    o.collides f host x = false := by
  have hfound : x ∈ o.index.query (f.bounds.inflate o.reach) :=
    (h.routed.filter_sublist_query _).mem (List.mem_filter.2 ⟨hx, decide_eq_true hnear⟩)
  have hnone := List.any_eq_false.1 hfree x hfound
  simpa using hnone

/-- A lot that is not blocked meets no road but its own in the surroundings. -/
theorem Knows.not_meets (h : o.Knows roads) {f : Footprint α} {host id : RoadId} {s : Segment α}
    (hfree : o.isBlocked f host = false) (hs : roads id s) (hne : id ≠ host)
    (hnear : (f.bounds.inflate o.reach).Encloses s.middle) : f.meets s = false := by
  have hnone := h.not_collides hfree (h.road hs) hnear
  simpa [collides, hne] using hnone

/-- A lot that is not blocked overlaps no reserved lot in the surroundings. -/
theorem Knows.not_overlaps (h : o.Knows roads) {f g : Footprint α} {host : RoadId} {i : Nat}
    (hfree : o.isBlocked f host = false) (hg : o.lots[i]? = some g)
    (hnear : (f.bounds.inflate o.reach).Encloses g.centre) : f.overlaps g = false := by
  have hnone := h.not_collides hfree (h.lot hg) hnear
  simpa [collides, hg] using hnone

end Obstacles

end Cityscape
