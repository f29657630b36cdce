import Cityscape.Proofs.RoadNetwork.Changes
import Mathlib.Logic.Relation

/-!
# Paths of a road network

Roads can be gone along both ways. A network is connected when every crossroad can be reached from
its centre, which is the crossroad that was added first.

## Main definitions

* `Road.Joins` — the crossroads at the ends of a road, in either order.
* `RoadNetwork.Reaches` — a path of roads between two crossroads.
* `RoadNetwork.Connected` — every crossroad is reached from the centre.

## Main statements

* `RoadNetwork.mem_roadsAt` — the roads at a crossroad.
* `RoadNetwork.Connected.of_reaches` — a network stays connected when every road that is given up is
  replaced by a path and every new crossroad is joined to an old one.
-/

namespace Cityscape

variable {α : Type}

/-- A road joins two crossroads, whichever of them it starts at. -/
def Road.Joins (road : Road α) (a b : CrossroadId) : Prop :=
  road.start = a ∧ road.finish = b ∨ road.start = b ∧ road.finish = a

theorem Road.Joins.symm {road : Road α} {a b : CrossroadId} (h : road.Joins a b) :
    road.Joins b a :=
  Or.symm h

theorem Road.joins_ends (road : Road α) : road.Joins road.start road.finish := .inl ⟨rfl, rfl⟩

namespace RoadNetwork

/-- The roads that are found at a crossroad are those that start or end there. -/
theorem mem_roadsAt {n : RoadNetwork α} {c : CrossroadId} {id : RoadId} :
    id ∈ n.roadsAt c ↔ ∃ road, n.road? id = some road ∧ (road.start = c ∨ road.finish = c) := by
  unfold roadsAt
  cases hc : n.crossroad? c with
  | none =>
    refine ⟨fun h => (List.not_mem_nil h).elim, ?_⟩
    rintro ⟨road, hr, hend⟩
    have ⟨hs, hf⟩ := isSome_ends hr
    rcases hend with rfl | rfl
    · simp [position?, hc] at hs
    · simp [position?, hc] at hf
  | some k =>
    simp only [List.mem_append, (n.consistent.starting c k hc).2 id,
      (n.consistent.ending c k hc).2 id, ← road?_eq_some_iff, ← exists_or]
    refine exists_congr fun road => ?_
    grind

/-- When no road from `a` to `b` is found, no road joins the two. -/
theorem not_joins_of_findRoad {n : RoadNetwork α} {a b : CrossroadId}
    (h : n.findRoad a b = none) {id : RoadId} {road : Road α} (hr : n.road? id = some road) :
    ¬ road.Joins a b := by
  intro hjoins
  have hmem : id ∈ n.roadsAt a := by
    refine mem_roadsAt.2 ⟨road, hr, ?_⟩
    rcases hjoins with ⟨hs, -⟩ | ⟨-, hf⟩
    · exact .inl hs
    · exact .inr hf
  have hfound := List.find?_eq_none.1 h id hmem
  simp only [hr] at hfound
  unfold Road.Joins at hjoins
  grind

/-- There is a road between two crossroads. -/
def Linked (n : RoadNetwork α) (a b : CrossroadId) : Prop :=
  ∃ id road, n.road? id = some road ∧ road.Joins a b

/-- There is a path of roads between two crossroads. -/
def Reaches (n : RoadNetwork α) : CrossroadId → CrossroadId → Prop :=
  Relation.ReflTransGen n.Linked

/-- Every crossroad is reached from the centre, the crossroad that was added first. -/
def Connected (n : RoadNetwork α) : Prop :=
  ∀ c, (n.position? c).isSome → n.Reaches 0 c

theorem Linked.symm {n : RoadNetwork α} {a b : CrossroadId} (h : n.Linked a b) : n.Linked b a := by
  obtain ⟨id, road, hr, hj⟩ := h
  exact ⟨id, road, hr, hj.symm⟩

theorem Reaches.symm {n : RoadNetwork α} {a b : CrossroadId} (h : n.Reaches a b) :
    n.Reaches b a := by
  induction h with
  | refl => exact .refl
  | tail _ hlink ih => exact .head hlink.symm ih

theorem reaches_of_road? {n : RoadNetwork α} {id : RoadId} {road : Road α}
    (h : n.road? id = some road) : n.Reaches road.start road.finish :=
  .single ⟨id, road, h, road.joins_ends⟩

/-- Paths survive when the ends of every road stay joined by a path. -/
theorem Reaches.of_roads {n n' : RoadNetwork α}
    (hroads : ∀ id road, n.road? id = some road → n'.Reaches road.start road.finish)
    {a b : CrossroadId} (h : n.Reaches a b) : n'.Reaches a b := by
  induction h with
  | refl => exact .refl
  | tail _ hlink ih =>
    obtain ⟨id, road, hr, ⟨rfl, rfl⟩ | ⟨rfl, rfl⟩⟩ := hlink
    · exact ih.trans (hroads id road hr)
    · exact ih.trans (hroads id road hr).symm

theorem Connected.of_reaches {n n' : RoadNetwork α} (hn : n.Connected)
    (hroads : ∀ id road, n.road? id = some road → n'.Reaches road.start road.finish)
    (hnew : ∀ c, (n'.position? c).isSome → n.position? c = none →
      ∃ d, (n.position? d).isSome ∧ n'.Reaches d c) : n'.Connected := by
  intro c hc
  cases hold : n.position? c with
  | some p => exact (hn c (by simp [hold])).of_roads hroads
  | none =>
    obtain ⟨d, hd, hdc⟩ := hnew c hc hold
    exact ((hn d hd).of_roads hroads).trans hdc

/-- A network of one crossroad is connected. -/
theorem connected_addCrossroad_empty (p : Vec2 α) : (empty.addCrossroad p).2.Connected := by
  intro c hc
  rw [isSome_position?] at hc
  have hzero : c = 0 := by
    simp [crossroadCount, addCrossroad, empty] at hc
    exact hc
  rw [hzero]
  exact .refl

end RoadNetwork

end Cityscape
