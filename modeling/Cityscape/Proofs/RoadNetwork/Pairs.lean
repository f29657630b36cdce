import Cityscape.Proofs.RoadNetwork.Changes

/-!
# Pairs of roads

What holds of the segments of any two roads of a network.

## Main definitions

* `RoadNetwork.Pairwise` — a relation holds between any two roads, both ways.
* `RoadNetwork.ofRoad` — a network of one road.

## Main statements

* `RoadNetwork.Pairwise.of_new` — a symmetric relation has only to be looked at for new roads.
-/

namespace Cityscape.RoadNetwork

variable {α : Type} {n n' : RoadNetwork α} {id : RoadId}

theorem mem_roads_of_segment? {s : Segment α} (h : n.segment? id = some s) :
    ∃ x ∈ n.roads, x.1 = id := by
  obtain ⟨road, hroad, -⟩ := Option.bind_eq_some_iff.1 h
  exact ⟨(id, road), mem_roads.2 hroad, rfl⟩

/-- A road whose ends stay where they are keeps its segment. -/
theorem segment?_congr (hposition : n'.position? = n.position?) (hroad : n'.road? id = n.road? id) :
    n'.segment? id = n.segment? id := by
  simp only [segment?, hposition, hroad]

theorem segment?_eq_some {road : Road α} {p q : Vec2 α} (hroad : n.road? id = some road)
    (hp : n.position? road.start = some p) (hq : n.position? road.finish = some q) :
    n.segment? id = some ⟨p, q⟩ := by
  simp [segment?, hroad, hp, hq]

/-- What is asked of all pairs of roads with segments has only to be looked at for the roads that
are listed. -/
theorem forall_segment?_iff {p : RoadId → RoadId → Segment α → Segment α → Prop} :
    (∀ (i j : RoadId) (a b : Segment α), i ≠ j → n.segment? i = some a → n.segment? j = some b →
      p i j a b) ↔ ∀ x ∈ n.roads, ∀ y ∈ n.roads, x.1 ≠ y.1 →
      ∀ a ∈ n.segment? x.1, ∀ b ∈ n.segment? y.1, p x.1 y.1 a b := by
  constructor
  · intro h x _ y _ hne a ha b hb
    exact h x.1 y.1 a b hne ha hb
  · intro h i j a b hne ha hb
    obtain ⟨x, hx, rfl⟩ := mem_roads_of_segment? ha
    obtain ⟨y, hy, rfl⟩ := mem_roads_of_segment? hb
    exact h x hx y hy hne a ha b hb

/-- A relation holds between the segments of any two roads, whichever of them comes first. -/
def Pairwise (n : RoadNetwork α) (r : Segment α → Segment α → Prop) : Prop :=
  ∀ (i j : RoadId) (a b : Segment α), i ≠ j → n.segment? i = some a → n.segment? j = some b → r a b

variable {r : Segment α → Segment α → Prop}

theorem pairwise_iff :
    n.Pairwise r ↔ ∀ x ∈ n.roads, ∀ y ∈ n.roads, x.1 ≠ y.1 →
      ∀ a ∈ n.segment? x.1, ∀ b ∈ n.segment? y.1, r a b :=
  forall_segment?_iff

instance [DecidableRel r] : Decidable (n.Pairwise r) := decidable_of_iff _ pairwise_iff.symm

/-- When a network is changed, a symmetric relation goes on to hold if it holds for the roads that
are new. -/
theorem Pairwise.of_new (h : n.Pairwise r) (hsymm : ∀ a b, r a b → r b a)
    (hnew : ∀ (i j : RoadId) (a b : Segment α), i ≠ j → n.segment? i ≠ some a →
      n'.segment? i = some a → n'.segment? j = some b → r a b) : n'.Pairwise r := by
  intro i j a b hne ha hb
  by_cases hi : n.segment? i = some a
  · by_cases hj : n.segment? j = some b
    · exact h i j a b hne hi hj
    · exact hsymm b a (hnew j i b a hne.symm hj hb ha)
  · exact hnew i j a b hne hi ha hb

/-- The network of one byway, with crossroads beside it. -/
def ofRoad [Scalar α] (ends : Segment α) (beside : List (Vec2 α)) : RoadNetwork α :=
  let (start, n) := empty.addCrossroad ends.start
  let (finish, n) := n.addCrossroad ends.finish
  match (beside.foldl (fun n p => (n.addCrossroad p).2) n).addRoad start finish false with
  | .ok (_, n) => n
  | .error _ => .empty

end Cityscape.RoadNetwork
