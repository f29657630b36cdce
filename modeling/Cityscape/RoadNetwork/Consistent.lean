import Cityscape.Segment

/-!
# Crossroads, roads and how they fit together

The parts a road network is made of. A crossroad knows the roads that start or end there, and a
road knows the crossroads at its ends; `Consistent` says that the two agree.

## Main definitions

* `Crossroad`, `Road` — the parts.
* `RoadNetwork.attach`, `RoadNetwork.detach` — entering a road at its crossroads and taking it out.
* `RoadNetwork.put` — storing a road under its number.
* `RoadNetwork.Consistent` — crossroads, roads and unused numbers fit together.
-/

namespace Cityscape

abbrev CrossroadId := Nat

abbrev RoadId := Nat

/-- A place where roads meet. -/
structure Crossroad (α : Type) where
  position : Vec2 α
  /-- The roads that start here, newest first. -/
  starting : List RoadId
  /-- The roads that end here but start elsewhere, newest first. -/
  ending : List RoadId

/-- A straight road. -/
structure Road (α : Type) where
  start : CrossroadId
  finish : CrossroadId
  highway : Bool
  /-- The middle between its ends. -/
  midpoint : Vec2 α

namespace RoadNetwork

/-! ## Lists of numbers -/

/-- A list names exactly the numbers with a property, each of them once. -/
def Names (ids : List RoadId) (p : RoadId → Prop) : Prop := ids.Nodup ∧ ∀ id, id ∈ ids ↔ p id

theorem Names.congr {ids : List RoadId} {p q : RoadId → Prop} (h : Names ids p)
    (hpq : ∀ id, p id ↔ q id) : Names ids q :=
  ⟨h.1, fun id => (h.2 id).trans (hpq id)⟩

theorem Names.nil {p : RoadId → Prop} (h : ∀ id, ¬ p id) : Names [] p :=
  ⟨List.nodup_nil, fun id => ⟨fun hmem => (List.not_mem_nil hmem).elim, fun hid => (h id hid).elim⟩⟩

theorem Names.cons {ids : List RoadId} {p : RoadId → Prop} (id : RoadId) (h : Names ids p)
    (hid : ¬ p id) : Names (id :: ids) fun j => j = id ∨ p j := by
  refine ⟨List.nodup_cons.2 ⟨fun hmem => hid ((h.2 id).1 hmem), h.1⟩, fun j => ?_⟩
  rw [List.mem_cons, h.2 j]

theorem Names.erase {ids : List RoadId} {p : RoadId → Prop} (id : RoadId) (h : Names ids p) :
    Names (ids.erase id) fun j => j ≠ id ∧ p j := by
  refine ⟨h.1.erase id, fun j => ?_⟩
  rw [h.1.mem_erase_iff, h.2 j]

variable {α : Type}

/-! ## Changes -/

/-- Enters a road at the crossroad it starts at and at the crossroad it ends at. -/
def attach (crossroads : Array (Crossroad α)) (id : RoadId) (road : Road α) :
    Array (Crossroad α) :=
  let crossroads := crossroads.modify road.start fun c => { c with starting := id :: c.starting }
  if road.start = road.finish then crossroads
  else crossroads.modify road.finish fun c => { c with ending := id :: c.ending }

/-- Removes a road from the crossroads at its ends. -/
def detach (crossroads : Array (Crossroad α)) (id : RoadId) (road : Road α) :
    Array (Crossroad α) :=
  let crossroads :=
    crossroads.modify road.start fun c => { c with starting := c.starting.erase id }
  if road.start = road.finish then crossroads
  else crossroads.modify road.finish fun c => { c with ending := c.ending.erase id }

/-- Stores a road under a number that is in use or the next new one. -/
def put (slots : Array (Option (Road α))) (id : RoadId) (road : Road α) :
    Array (Option (Road α)) :=
  if id < slots.size then slots.setIfInBounds id (some road) else slots.push (some road)

theorem getElem?_attach (crossroads : Array (Crossroad α)) (id : RoadId) (road : Road α)
    (c : CrossroadId) :
    (attach crossroads id road)[c]? = crossroads[c]?.map fun k =>
      { position := k.position
        starting := if road.start = c then id :: k.starting else k.starting
        ending := if road.finish = c ∧ road.start ≠ c then id :: k.ending else k.ending } := by
  unfold attach
  by_cases hloop : road.start = road.finish
  · cases hk : crossroads[c]? <;> by_cases hs : road.start = c <;>
      simp_all [Array.getElem?_modify]
  · cases hk : crossroads[c]? <;> by_cases hs : road.start = c <;>
      by_cases hf : road.finish = c <;> simp_all [Array.getElem?_modify]

theorem getElem?_detach (crossroads : Array (Crossroad α)) (id : RoadId) (road : Road α)
    (c : CrossroadId) :
    (detach crossroads id road)[c]? = crossroads[c]?.map fun k =>
      { position := k.position
        starting := if road.start = c then k.starting.erase id else k.starting
        ending := if road.finish = c ∧ road.start ≠ c then k.ending.erase id else k.ending } := by
  unfold detach
  by_cases hloop : road.start = road.finish
  · cases hk : crossroads[c]? <;> by_cases hs : road.start = c <;>
      simp_all [Array.getElem?_modify]
  · cases hk : crossroads[c]? <;> by_cases hs : road.start = c <;>
      by_cases hf : road.finish = c <;> simp_all [Array.getElem?_modify]

@[simp] theorem size_attach (crossroads : Array (Crossroad α)) (id : RoadId) (road : Road α) :
    (attach crossroads id road).size = crossroads.size := by
  unfold attach; split <;> simp

@[simp] theorem size_detach (crossroads : Array (Crossroad α)) (id : RoadId) (road : Road α) :
    (detach crossroads id road).size = crossroads.size := by
  unfold detach; split <;> simp

theorem getElem?_put {slots : Array (Option (Road α))} {id : RoadId} (h : id ≤ slots.size)
    (road : Road α) (j : RoadId) :
    (put slots id road)[j]? = if j = id then some (some road) else slots[j]? := by
  unfold put
  by_cases hlt : id < slots.size
  · rw [if_pos hlt, Array.getElem?_setIfInBounds]
    by_cases hj : j = id
    · simp [hj, hlt]
    · simp [hj, Ne.symm hj]
  · have hid : id = slots.size := Nat.le_antisymm h (Nat.le_of_not_lt hlt)
    rw [if_neg hlt, Array.getElem?_push, hid]

/-- Emptying a slot that is in use. -/
theorem getElem?_remove {slots : Array (Option (Road α))} {id : RoadId} {road : Road α}
    (h : slots[id]? = some (some road)) (j : RoadId) :
    (slots.setIfInBounds id none)[j]? = if j = id then some none else slots[j]? := by
  have hlt : id < slots.size := (Array.getElem?_eq_some_iff.1 h).1
  rw [Array.getElem?_setIfInBounds]
  by_cases hj : j = id
  · simp [hj, hlt]
  · simp [hj, Ne.symm hj]

/-! ## The roads with a property -/

/-- A list names exactly the stored roads with a property, each of them once. -/
def NamesRoads (slots : Array (Option (Road α))) (ids : List RoadId) (p : Road α → Prop) : Prop :=
  Names ids fun id => ∃ road, slots[id]? = some (some road) ∧ p road

theorem NamesRoads.put {slots : Array (Option (Road α))} {ids : List RoadId}
    {p : Road α → Prop} {id : RoadId} {road : Road α} [Decidable (p road)]
    (h : NamesRoads slots ids p) (hid : id ≤ slots.size)
    (hfree : ∀ old, slots[id]? ≠ some (some old)) :
    NamesRoads (put slots id road) (if p road then id :: ids else ids) p := by
  by_cases hp : p road
  · rw [if_pos hp]
    have hnew : ¬ ∃ old, slots[id]? = some (some old) ∧ p old := fun ⟨old, ho, _⟩ => hfree old ho
    refine (Names.cons id h hnew).congr fun j => ?_
    rw [getElem?_put hid]
    by_cases hj : j = id <;> simp [hj, hp]
  · rw [if_neg hp]
    refine Names.congr h fun j => ?_
    rw [getElem?_put hid]
    by_cases hj : j = id
    · subst hj
      simp [hp, hfree]
    · simp [hj]

theorem NamesRoads.remove {slots : Array (Option (Road α))} {ids : List RoadId}
    {p : Road α → Prop} {id : RoadId} {road : Road α} [Decidable (p road)]
    (h : NamesRoads slots ids p) (hr : slots[id]? = some (some road)) :
    NamesRoads (slots.setIfInBounds id none) (if p road then ids.erase id else ids) p := by
  by_cases hp : p road
  · rw [if_pos hp]
    refine (Names.erase id h).congr fun j => ?_
    rw [getElem?_remove hr]
    by_cases hj : j = id <;> simp [hj]
  · rw [if_neg hp]
    refine Names.congr h fun j => ?_
    rw [getElem?_remove hr]
    by_cases hj : j = id
    · simp [hj, hr, hp]
    · simp [hj]

/-! ## Consistency -/

/-- The parts of a network fit together: the unused numbers are the gaps that removed roads left,
roads join crossroads of the network, and crossroads know the roads that start and end there. -/
structure Consistent (crossroads : Array (Crossroad α)) (slots : Array (Option (Road α)))
    (vacant : List RoadId) : Prop where
  /-- The unused numbers are the gaps. -/
  vacant : Names vacant fun id => slots[id]? = some none
  /-- Roads join crossroads of the network. -/
  ends_lt (id : RoadId) (road : Road α) : slots[id]? = some (some road) →
    road.start < crossroads.size ∧ road.finish < crossroads.size
  /-- A crossroad knows the roads that start there. -/
  starting (c : CrossroadId) (k : Crossroad α) : crossroads[c]? = some k →
    NamesRoads slots k.starting fun road => road.start = c
  /-- A crossroad knows the other roads that end there. -/
  ending (c : CrossroadId) (k : Crossroad α) : crossroads[c]? = some k →
    NamesRoads slots k.ending fun road => road.finish = c ∧ road.start ≠ c

namespace Consistent

variable {crossroads : Array (Crossroad α)} {slots : Array (Option (Road α))}
  {vacant : List RoadId}

theorem empty : Consistent (#[] : Array (Crossroad α)) #[] [] where
  vacant := Names.nil (by simp)
  ends_lt := by simp
  starting := by simp
  ending := by simp

/-- A new crossroad has no roads yet, since every road joins older ones. -/
theorem addCrossroad (h : Consistent crossroads slots vacant) (position : Vec2 α) :
    Consistent (crossroads.push ⟨position, [], []⟩) slots vacant where
  vacant := h.vacant
  ends_lt id road hr := by
    have ⟨hs, hf⟩ := h.ends_lt id road hr
    simp only [Array.size_push]
    exact ⟨Nat.lt_succ_of_lt hs, Nat.lt_succ_of_lt hf⟩
  starting c k hk := by
    rw [Array.getElem?_push] at hk
    split at hk
    next hc =>
      cases hk
      refine Names.nil ?_
      rintro id ⟨road, hr, rfl⟩
      exact absurd (h.ends_lt id road hr).1 (by simp [hc])
    next => exact h.starting c k hk
  ending c k hk := by
    rw [Array.getElem?_push] at hk
    split at hk
    next hc =>
      cases hk
      refine Names.nil ?_
      rintro id ⟨road, hr, rfl, -⟩
      exact absurd (h.ends_lt id road hr).2 (by simp [hc])
    next => exact h.ending c k hk

/-- A road may be stored under a number that is not in use; `rest` are the numbers that stay
unused. -/
theorem addRoad (h : Consistent crossroads slots vacant) {id : RoadId} {rest : List RoadId}
    {road : Road α} (hid : id ≤ slots.size) (hfree : ∀ old, slots[id]? ≠ some (some old))
    (hrest : Names rest fun j => j ≠ id ∧ slots[j]? = some none)
    (hroad : road.start < crossroads.size ∧ road.finish < crossroads.size) :
    Consistent (attach crossroads id road) (put slots id road) rest where
  vacant := hrest.congr fun j => by
    rw [getElem?_put hid]
    by_cases hj : j = id <;> simp [hj]
  ends_lt j old hr := by
    rw [getElem?_put hid] at hr
    rw [size_attach]
    split at hr
    · cases hr; exact hroad
    · exact h.ends_lt j old hr
  starting c k hk := by
    rw [getElem?_attach] at hk
    obtain ⟨old, hold, rfl⟩ := Option.map_eq_some_iff.1 hk
    exact (h.starting c old hold).put hid hfree
  ending c k hk := by
    rw [getElem?_attach] at hk
    obtain ⟨old, hold, rfl⟩ := Option.map_eq_some_iff.1 hk
    exact (h.ending c old hold).put hid hfree

/-- A road that is taken out leaves its number as a gap. -/
theorem removeRoad (h : Consistent crossroads slots vacant) {id : RoadId} {road : Road α}
    (hr : slots[id]? = some (some road)) :
    Consistent (detach crossroads id road) (slots.setIfInBounds id none) (id :: vacant) where
  vacant := (h.vacant.cons id (by simp [hr])).congr fun j => by
    rw [getElem?_remove hr]
    by_cases hj : j = id <;> simp [hj]
  ends_lt j r hj := by
    rw [getElem?_remove hr] at hj
    rw [size_detach]
    split at hj
    · cases hj
    · exact h.ends_lt j r hj
  starting c k hk := by
    rw [getElem?_detach] at hk
    obtain ⟨old, hold, rfl⟩ := Option.map_eq_some_iff.1 hk
    exact (h.starting c old hold).remove hr
  ending c k hk := by
    rw [getElem?_detach] at hk
    obtain ⟨old, hold, rfl⟩ := Option.map_eq_some_iff.1 hk
    exact (h.ending c old hold).remove hr

end Consistent

end RoadNetwork

end Cityscape
