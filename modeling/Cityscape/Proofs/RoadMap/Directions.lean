import Cityscape.Proofs.Growth.Overlap
import Cityscape.Proofs.RoadNetwork.Histories
import Cityscape.Proofs.Scalar.Opposites

/-!
# Roads that are stored either way round

A road leads from its start to its finish, but it can be gone along both ways, and which end is
called the start says nothing about the map. The test whether a road would lie on top of another one
keeps to that: it treats the ends of segments alike, and asks for roads at a crossroad and between
two of them whichever way they lead.

## Main definitions

* `Segment.reverse`, `Road.reverse` — the other way round.
* `RoadNetwork.Turns` — two networks differ in the direction of some roads only.

## Main statements

* `Segment.overlap_reverse_left`, `Segment.overlap_reverse_right` — overlapping does not depend on
  the directions of the segments.
* `RoadNetwork.overlapsRoad_of_turns` — nor does the test of a road depend on those of the roads.
-/

namespace Cityscape

variable {α : Type}

/-! ## Segments -/

/-- The segment from the end to the start. -/
def Segment.reverse (a : Segment α) : Segment α := ⟨a.finish, a.start⟩

namespace Segment

theorem overlap_reverse_right (a b : Segment Float32) : a.overlap b.reverse = a.overlap b := by
  have hdirection : b.span.normalizeOrZero.Opposite b.reverse.span.normalizeOrZero :=
    (Vec2.opposite_sub b.finish b.start).normalizeOrZero
  have hdot := hdirection.dot_left a.span.normalizeOrZero
  have hsame :
      Scalar.approximately (a.span.normalizeOrZero.dot b.reverse.span.normalizeOrZero) (-1) =
        Scalar.approximately (a.span.normalizeOrZero.dot b.span.normalizeOrZero) 1 :=
    hdot.approximately (.inl rfl)
  have hback : Scalar.approximately (a.span.normalizeOrZero.dot b.reverse.span.normalizeOrZero) 1 =
      Scalar.approximately (a.span.normalizeOrZero.dot b.span.normalizeOrZero) (-1) :=
    hdot.approximately (.inl rfl)
  unfold overlap
  dsimp only
  rw [hsame, hback]
  unfold reverse
  grind

theorem overlap_reverse_left (a b : Segment Float32) : a.reverse.overlap b = a.overlap b := by
  rw [overlap_comm, overlap_reverse_right, overlap_comm]

end Segment

/-! ## Networks -/

/-- The road from the finish to the start. -/
def Road.reverse (road : Road α) : Road α :=
  { road with start := road.finish, finish := road.start }

namespace RoadNetwork

/-- Two networks have the same crossroads and the same roads, but the roads of a set lead the other
way. -/
structure Turns (turned : Set RoadId) (n n' : RoadNetwork α) : Prop where
  position : n'.position? = n.position?
  kept : ∀ id ∉ turned, n'.road? id = n.road? id
  reversed : ∀ id ∈ turned, n'.road? id = (n.road? id).map Road.reverse

variable {turned : Set RoadId} {n n' : RoadNetwork α} {id : RoadId} {road : Road α}
  {start finish c : CrossroadId}

namespace Turns

theorem symm (h : Turns turned n n') : Turns turned n' n where
  position := h.position.symm
  kept id hid := (h.kept id hid).symm
  reversed id hid := by
    rw [h.reversed id hid, Option.map_map]
    exact Option.map_id_apply.symm

theorem exists_road (h : Turns turned n n') (hr : n.road? id = some road) :
    n'.road? id = some road ∨ n'.road? id = some road.reverse := by
  by_cases hid : id ∈ turned
  · exact .inr ((h.reversed id hid).trans (by rw [hr, Option.map_some]))
  · exact .inl ((h.kept id hid).trans hr)

theorem linked (h : Turns turned n n') (hlinked : n.Linked start finish) :
    n'.Linked start finish := by
  obtain ⟨id, road, hr, hjoins⟩ := hlinked
  obtain hsame | hreversed := h.exists_road hr
  · exact ⟨id, road, hsame, hjoins⟩
  · exact ⟨id, road.reverse, hreversed, hjoins.elim (fun h => .inr h.symm) (fun h => .inl h.symm)⟩

theorem mem_roadsAt (h : Turns turned n n') (hid : id ∈ n.roadsAt c) : id ∈ n'.roadsAt c := by
  obtain ⟨road, hr, hend⟩ := RoadNetwork.mem_roadsAt.1 hid
  refine RoadNetwork.mem_roadsAt.2 ?_
  obtain hsame | hreversed := h.exists_road hr
  · exact ⟨road, hsame, hend⟩
  · exact ⟨road.reverse, hreversed, hend.symm⟩

theorem segment {s : Segment α} (h : Turns turned n n') (hs : n.segment? id = some s) :
    n'.segment? id = some s ∨ n'.segment? id = some s.reverse := by
  obtain ⟨road, hr, -⟩ := Option.bind_eq_some_iff.1 hs
  obtain ⟨hstart, hfinish⟩ := position?_of_segment? hr hs
  rw [← h.position] at hstart hfinish
  obtain hsame | hreversed := h.exists_road hr
  · exact .inl (segment?_eq_some hsame hstart hfinish)
  · exact .inr (segment?_eq_some hreversed hfinish hstart)

end Turns

/-- A road to be has no length, or joins crossroads that are joined already, or lies on top of a
road where it ends. -/
theorem overlapsRoad_iff [Scalar α] {p q : Vec2 α} (hp : n.position? start = some p)
    (hq : n.position? finish = some q) :
    n.overlapsRoad start finish = true ↔ (p == q) = true ∨ n.Linked start finish ∨
      ∃ id ∈ n.roadsAt finish, ∃ other, n.segment? id = some other ∧
        Segment.overlap ⟨p, q⟩ other = true := by
  simp only [overlapsRoad, hp, hq, Bool.or_eq_true, or_assoc, List.any_eq_true,
    linked_of_isSome_findRoad]
  refine or_congr_right (or_congr_right (exists_congr fun id => and_congr_right fun _ => ?_))
  cases n.segment? id <;> simp

theorem Turns.overlapsRoad {n n' : RoadNetwork Float32} (h : Turns turned n n')
    (hoverlap : n.overlapsRoad start finish = true) : n'.overlapsRoad start finish = true := by
  cases hp : n.position? start with
  | none => simp [RoadNetwork.overlapsRoad, h.position, hp]
  | some p =>
    cases hq : n.position? finish with
    | none => simp [RoadNetwork.overlapsRoad, h.position, hp, hq]
    | some q =>
      rw [overlapsRoad_iff (h.position ▸ hp) (h.position ▸ hq)]
      obtain hpoint | hlinked | ⟨id, hid, other, hother, htop⟩ :=
        (overlapsRoad_iff hp hq).1 hoverlap
      · exact .inl hpoint
      · exact .inr (.inl (h.linked hlinked))
      · refine .inr (.inr ⟨id, h.mem_roadsAt hid, ?_⟩)
        obtain hsame | hreversed := h.segment hother
        · exact ⟨other, hsame, htop⟩
        · exact ⟨other.reverse, hreversed, (Segment.overlap_reverse_right _ other).trans htop⟩

/-- Whether a road would lie on top of another one does not depend on which way the roads of the
network are stored, since overlapping does not depend on the order of two segments or on their
directions. -/
theorem overlapsRoad_of_turns {n n' : RoadNetwork Float32} (h : Turns turned n n')
    (start finish : CrossroadId) :
    n'.overlapsRoad start finish = n.overlapsRoad start finish ∧
      ∀ a b : Segment Float32, b.overlap a = a.overlap b ∧ a.reverse.overlap b = a.overlap b ∧
        a.overlap b.reverse = a.overlap b := by
  constructor
  · rw [Bool.eq_iff_iff]
    exact ⟨h.symm.overlapsRoad, h.overlapsRoad⟩
  · exact fun a b => ⟨Segment.overlap_comm b a, Segment.overlap_reverse_left a b,
      Segment.overlap_reverse_right a b⟩

/-- A road that is stored one way round or the other. -/
theorem turns_insertRoad (n : RoadNetwork α) (road : Road α)
    (h : road.start < n.crossroads.size ∧ road.finish < n.crossroads.size)
    (h' : road.reverse.start < n.crossroads.size ∧ road.reverse.finish < n.crossroads.size) :
    Turns {n.nextId} (n.insertRoad road h).2 (n.insertRoad road.reverse h').2 where
  position := by rw [position?_insertRoad, position?_insertRoad]
  kept id hid := by
    rw [road?_insertRoad, road?_insertRoad, Function.update_of_ne hid, Function.update_of_ne hid]
  reversed id hid := by
    obtain rfl : id = n.nextId := hid
    rw [road?_insertRoad, road?_insertRoad, Function.update_self, Function.update_self]
    rfl

/-- From a crossroad in the middle of a road a road to one of its ends would lie on top of it,
whichever of the two ends the road starts at. -/
theorem overlapsRoad_of_turns_middle :
    let place (n : RoadNetwork Float32) (p : Vec2 Float32) := (n.addCrossroad p).2
    let n := place (place (place empty ⟨0, 0⟩) ⟨4, 1⟩) ⟨2, 0.5⟩
    let road : Road Float32 := ⟨0, 1, false, ⟨2, 0.5⟩⟩
    let forth := (n.insertRoad road (by decide)).2
    let back := (n.insertRoad road.reverse (by decide)).2
    Turns {0} forth back ∧ back.overlapsRoad 2 0 = forth.overlapsRoad 2 0 ∧
      forth.overlapsRoad 2 0 = true ∧ forth.roadsAt 0 = [0] ∧ back.roadsAt 0 = [0] ∧
      (forth.road? 0).map (·.start) = some 0 ∧ (back.road? 0).map (·.start) = some 1 := by
  intro place n road forth back
  have hturns : Turns {0} forth back := turns_insertRoad n road _ _
  exact ⟨hturns, (overlapsRoad_of_turns hturns 2 0).1, by decide +kernel, by decide +kernel,
    by decide +kernel, by decide +kernel, by decide +kernel⟩

end RoadNetwork

end Cityscape
