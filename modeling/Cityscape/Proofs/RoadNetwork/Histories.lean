import Cityscape.Proofs.RoadMap.Index
import Cityscape.Proofs.RoadNetwork.Paths
import Cityscape.Scalar.Single

/-!
# Histories of a network

What a network knows after any changes is what its history tells. A number stands for the road that
it was given to until that road is taken out or the network is cleared, although the numbers of
removed roads are given out again, and all that can be asked of a network agrees with its roads.

## Main definitions

* `RoadNetwork.Change`, `RoadNetwork.Answer` — what a network is asked to change, what it answers.
* `RoadNetwork.changeAll` — changes one after the other, with their history.
* `RoadNetwork.JoinsKnown` — changes that only build roads between crossroads of the network.
* `RoadNetwork.Recorded` — crossroads and roads are those that a history tells of.
* `RoadNetwork.IsMultigraph` — whatever is asked of a network agrees with its roads.

## Main statements

* `RoadNetwork.Recorded.change` — one change is one more entry of the history.
* `RoadNetwork.isMultigraph` — every network is a multigraph.
* `RoadNetwork.recorded_of_changeAll` — a network through any changes.
-/

namespace Cityscape.RoadNetwork

variable {α : Type}

/-! ## Changes -/

/-- What a network can be asked to change. -/
inductive Change (α : Type)
  | crossroad (position : Vec2 α)
  | road (start finish : CrossroadId) (highway : Bool)
  | remove (id : RoadId)
  | clear

/-- What a network answers to a change. -/
inductive Answer (α : Type)
  | crossroad (id : CrossroadId)
  | road (id : RoadId)
  | removed (road : Option (Road α))
  | cleared

/-- Changes with their answers, in the order in which they were made. -/
abbrev History (α : Type) := List (Change α × Answer α)

section

variable [Scalar α]

/-- The answer to a change and the network after it. -/
def change (n : RoadNetwork α) : Change α → Except Fault (Answer α × RoadNetwork α)
  | .crossroad position =>
    let (id, n) := n.addCrossroad position
    .ok (.crossroad id, n)
  | .road start finish highway => do
    let (id, n) ← n.addRoad start finish highway
    return (.road id, n)
  | .remove id =>
    match n.removeRoad? id with
    | some (road, n) => .ok (.removed (some road), n)
    | none => .ok (.removed none, n)
  | .clear => .ok (.cleared, empty)

/-- The history of changes, one after the other, and the network after them. -/
def changeAll (n : RoadNetwork α) : List (Change α) → Except Fault (History α × RoadNetwork α)
  | [] => .ok ([], n)
  | c :: rest => do
    let (answer, n) ← n.change c
    let (history, n) ← n.changeAll rest
    return ((c, answer) :: history, n)

end

/-- When there are as many crossroads as given, the changes build roads only between crossroads of
the network, which are numbered in the order of their addition. -/
def JoinsKnown : Nat → List (Change α) → Prop
  | _, [] => True
  | count, .crossroad _ :: rest => JoinsKnown (count + 1) rest
  | count, .road start finish _ :: rest =>
    start < count ∧ finish < count ∧ JoinsKnown count rest
  | count, .remove _ :: rest => JoinsKnown count rest
  | _, .clear :: rest => JoinsKnown 0 rest

instance instDecidableJoinsKnown : (count : Nat) → (changes : List (Change α)) →
    Decidable (JoinsKnown count changes)
  | _, [] => isTrue trivial
  | count, .crossroad _ :: rest => instDecidableJoinsKnown (count + 1) rest
  | count, .road start finish _ :: rest =>
    have := instDecidableJoinsKnown count rest
    inferInstanceAs (Decidable (start < count ∧ finish < count ∧ JoinsKnown count rest))
  | count, .remove _ :: rest => instDecidableJoinsKnown count rest
  | _, .clear :: rest => instDecidableJoinsKnown 0 rest

/-! ## What a history tells -/

/-- Something was answered, and no change since then undoes it. -/
def Stands (history : History α) (event : Change α × Answer α) (undoes : Change α → Prop) : Prop :=
  ∃ before after, history = before ++ event :: after ∧ ∀ later ∈ after, ¬ undoes later.1

/-- A road is given up when it is taken out and when all is cleared. -/
def Change.GivesUp (id : RoadId) : Change α → Prop
  | .remove removed => removed = id
  | .clear => True
  | .crossroad _ | .road .. => False

/-- Crossroads are never taken out one by one. -/
def Change.Clears : Change α → Prop
  | .clear => True
  | .crossroad _ | .road .. | .remove _ => False

theorem not_stands_nil {event : Change α × Answer α} {undoes : Change α → Prop} :
    ¬ Stands [] event undoes := by
  rintro ⟨before, after, h, -⟩
  simp at h

/-- What stands after one more change has just been answered, or stood before and was not undone. -/
theorem stands_concat {history : History α} {last event : Change α × Answer α}
    {undoes : Change α → Prop} :
    Stands (history ++ [last]) event undoes ↔
      last = event ∨ ¬ undoes last.1 ∧ Stands history event undoes := by
  constructor
  · rintro ⟨before, after, h, hlater⟩
    rcases List.eq_nil_or_concat' after with rfl | ⟨after, x, rfl⟩
    · obtain ⟨-, hlast⟩ := List.append_inj' h rfl
      exact .inl (List.cons.inj hlast).1
    · rw [← List.cons_append, ← List.append_assoc] at h
      obtain ⟨rfl, hlast⟩ := List.append_inj' h rfl
      cases hlast
      refine .inr ⟨hlater last (by simp), before, after, rfl, fun later hmem => ?_⟩
      exact hlater later (List.mem_append_left _ hmem)
  · rintro (rfl | ⟨hlast, before, after, rfl, hlater⟩)
    · exact ⟨history, [], rfl, fun _ h => absurd h List.not_mem_nil⟩
    · refine ⟨before, after ++ [last], by simp, fun later hmem => ?_⟩
      rcases List.mem_append.1 hmem with hold | hnew
      · exact hlater later hold
      · rwa [List.mem_singleton.1 hnew]

/-- The crossroads and roads of a network are those that a history tells of. -/
structure Recorded [Scalar α] (history : History α) (n : RoadNetwork α) : Prop where
  /-- A crossroad stays where it was added until all is cleared. -/
  position (c : CrossroadId) (p : Vec2 α) : n.position? c = some p ↔
    Stands history (.crossroad p, .crossroad c) Change.Clears
  /-- A number stands for the road that it was given to until that road is given up. -/
  road (id : RoadId) (start finish : CrossroadId) (highway : Bool) :
    (∃ midpoint, n.road? id = some ⟨start, finish, highway, midpoint⟩) ↔
      Stands history (.road start finish highway, .road id) (Change.GivesUp id)
  /-- Roads join crossroads of the network, and their midpoints are the middle of the two. -/
  midpoint {id : RoadId} {road : Road α} : n.road? id = some road →
    ∃ a b, n.position? road.start = some a ∧ n.position? road.finish = some b ∧
      road.midpoint = (a + b).scale 0.5

namespace Recorded

variable [Scalar α] {history : History α} {n n' : RoadNetwork α}

theorem empty : Recorded [] (empty : RoadNetwork α) where
  position c p := by simp [position?, crossroad?, RoadNetwork.empty, not_stands_nil]
  road id start finish highway := by simp [road?, RoadNetwork.empty, not_stands_nil]
  midpoint h := by simp [road?, RoadNetwork.empty] at h

theorem crossroad (h : Recorded history n) (p : Vec2 α) :
    Recorded (history ++ [(.crossroad p, .crossroad (n.addCrossroad p).1)])
      (n.addCrossroad p).2 where
  position c q := by
    have hnew : (n.addCrossroad p).1 = n.crossroadCount := rfl
    rw [stands_concat, ← h.position, position?_addCrossroad, Function.update_apply, hnew]
    by_cases hc : c = n.crossroadCount
    · subst hc
      simp [position?_crossroadCount, Change.Clears]
    · simp [hc, Ne.symm hc, Change.Clears]
  road id start finish highway := by
    rw [stands_concat, ← h.road, road?_addCrossroad]
    simp [Change.GivesUp]
  midpoint {id road} hr := by
    obtain ⟨a, b, ha, hb, hmid⟩ := h.midpoint hr
    have hkept {c : CrossroadId} {q : Vec2 α} (hq : n.position? c = some q) :
        (n.addCrossroad p).2.position? c = some q := by
      rw [position?_addCrossroad, Function.update_of_ne, hq]
      rintro rfl
      cases n.position?_crossroadCount.symm.trans hq
    exact ⟨a, b, hkept ha, hkept hb, hmid⟩

/-- The number of a new road stood for no road before. -/
theorem addRoad (h : Recorded history n) {start finish : CrossroadId} {highway : Bool}
    {id : RoadId} (hadd : n.addRoad start finish highway = .ok (id, n')) :
    Recorded (history ++ [(.road start finish highway, .road id)]) n' := by
  obtain ⟨a, b, ha, hb, rfl, hposition, hroad⟩ := addRoad_spec hadd
  constructor
  · intro c p
    rw [stands_concat, ← h.position, hposition]
    simp [Change.Clears]
  · intro id s f hw
    rw [stands_concat, ← h.road, hroad, Function.update_apply]
    by_cases hid : id = n.nextId
    · subst hid
      simp [n.road?_nextId]
    · simp [hid, Ne.symm hid, Change.GivesUp]
  · intro id road hr
    rw [hroad, Function.update_apply] at hr
    rw [hposition]
    split at hr
    · cases hr
      exact ⟨a, b, ha, hb, rfl⟩
    · exact h.midpoint hr

theorem removeRoad (h : Recorded history n) {id : RoadId} {road : Road α}
    (hremove : n.removeRoad? id = some (road, n')) :
    Recorded (history ++ [(.remove id, .removed (some road))]) n' := by
  obtain ⟨-, -, hposition, hroad⟩ := removeRoad?_spec hremove
  constructor
  · intro c p
    rw [stands_concat, ← h.position, hposition]
    simp [Change.Clears]
  · intro j s f hw
    rw [stands_concat, ← h.road, hroad, Function.update_apply]
    by_cases hj : j = id
    · simp [hj, Change.GivesUp]
    · simp [hj, Ne.symm hj, Change.GivesUp]
  · intro j other hr
    rw [hroad, Function.update_apply] at hr
    rw [hposition]
    split at hr
    · cases hr
    · exact h.midpoint hr

/-- Taking out a road that is not there takes out nothing. -/
theorem missing (h : Recorded history n) {id : RoadId} (hmissing : n.road? id = none) :
    Recorded (history ++ [(.remove id, .removed none)]) n where
  position c p := by
    rw [stands_concat, ← h.position]
    simp [Change.Clears]
  road j s f hw := by
    rw [stands_concat, ← h.road]
    by_cases hj : j = id
    · subst hj
      simp [hmissing, Change.GivesUp]
    · simp [Ne.symm hj, Change.GivesUp]
  midpoint := h.midpoint

theorem cleared (history : History α) :
    Recorded (history ++ [(.clear, .cleared)]) (RoadNetwork.empty : RoadNetwork α) where
  position c p := by
    rw [stands_concat, empty.position]
    simp [not_stands_nil, Change.Clears]
  road id s f hw := by
    rw [stands_concat, empty.road]
    simp [not_stands_nil, Change.GivesUp]
  midpoint := empty.midpoint

theorem change (h : Recorded history n) {c : Change α} {answer : Answer α}
    (hchange : n.change c = .ok (answer, n')) : Recorded (history ++ [(c, answer)]) n' := by
  cases c with
  | crossroad p =>
    cases hchange
    exact h.crossroad p
  | road start finish highway =>
    obtain ⟨⟨id, m⟩, hadd, hanswer⟩ := bind_eq_ok.1 hchange
    cases hanswer
    exact h.addRoad hadd
  | remove id =>
    simp only [RoadNetwork.change] at hchange
    split at hchange
    next road m hremove =>
      cases hchange
      exact h.removeRoad hremove
    next hmissing =>
      cases hchange
      refine h.missing (Option.eq_none_iff_forall_ne_some.2 fun road hr => ?_)
      obtain ⟨m, hremove⟩ := removeRoad?_of_road? hr
      cases hmissing.symm.trans hremove
  | clear =>
    cases hchange
    exact cleared history

theorem changeAll (h : Recorded history n) {changes : List (Change α)} {further : History α}
    (hchanges : n.changeAll changes = .ok (further, n')) : Recorded (history ++ further) n' := by
  induction changes generalizing history n further with
  | nil =>
    cases hchanges
    rwa [List.append_nil]
  | cons c changes ih =>
    obtain ⟨⟨answer, m⟩, hchange, hrest⟩ := bind_eq_ok.1 hchanges
    obtain ⟨⟨later, _⟩, hlater, hend⟩ := bind_eq_ok.1 hrest
    cases hend
    have hrecorded := ih (h.change hchange) hlater
    rwa [List.append_assoc] at hrecorded

end Recorded

/-! ## Changes that are possible -/

section

variable [Scalar α] {n : RoadNetwork α}

theorem addRoad_of_lt {start finish : CrossroadId} (highway : Bool)
    (hs : start < n.crossroadCount) (hf : finish < n.crossroadCount) :
    ∃ id n', n.addRoad start finish highway = .ok (id, n') := by
  obtain ⟨a, ha⟩ := Option.isSome_iff_exists.1 ((n.isSome_position? start).2 hs)
  obtain ⟨b, hb⟩ := Option.isSome_iff_exists.1 ((n.isSome_position? finish).2 hf)
  unfold addRoad
  split
  next => exact ⟨_, _, rfl⟩
  next hnone => exact absurd hb (hnone a b ha)

/-- Changes that build roads only between crossroads of the network do not fail. -/
theorem exists_changeAll {changes : List (Change α)} (h : JoinsKnown n.crossroadCount changes) :
    ∃ history n', n.changeAll changes = .ok (history, n') ∧ history.map (·.1) = changes := by
  induction changes generalizing n with
  | nil => exact ⟨[], n, rfl, rfl⟩
  | cons c changes ih =>
    have hstep (answer : Answer α) (m : RoadNetwork α) (hchange : n.change c = .ok (answer, m))
        (hm : JoinsKnown m.crossroadCount changes) : ∃ history n',
        n.changeAll (c :: changes) = .ok (history, n') ∧ history.map (·.1) = c :: changes := by
      obtain ⟨history, n', hrest, hasked⟩ := ih hm
      refine ⟨(c, answer) :: history, n', ?_, by simp [hasked]⟩
      exact bind_eq_ok.2 ⟨_, hchange, bind_eq_ok.2 ⟨_, hrest, rfl⟩⟩
    cases c with
    | crossroad p =>
      refine hstep _ (n.addCrossroad p).2 rfl ?_
      rwa [crossroadCount_of_update (n.position?_addCrossroad p) n.position?_crossroadCount]
    | road start finish highway =>
      obtain ⟨hs, hf, hrest⟩ := h
      obtain ⟨id, m, hadd⟩ := addRoad_of_lt highway hs hf
      obtain ⟨-, -, -, -, -, hposition, -⟩ := addRoad_spec hadd
      refine hstep _ m (bind_eq_ok.2 ⟨_, hadd, rfl⟩) ?_
      rwa [crossroadCount_congr hposition]
    | remove id =>
      cases hremove : n.removeRoad? id with
      | none => exact hstep (.removed none) n (by simp [RoadNetwork.change, hremove]) h
      | some found =>
        obtain ⟨road, m⟩ := found
        obtain ⟨-, -, hposition, -⟩ := removeRoad?_spec hremove
        refine hstep (.removed (some road)) m (by simp [RoadNetwork.change, hremove]) ?_
        rwa [crossroadCount_congr hposition]
    | clear => exact hstep _ _ rfl h

end

/-! ## What can be asked -/

/-- Whatever is asked of a network agrees with its roads. -/
structure IsMultigraph [Scalar α] (n : RoadNetwork α) : Prop where
  /-- The roads at a crossroad are those that start or end there, a loop being one of them. -/
  roadsAt (c : CrossroadId) : Names (n.roadsAt c) fun id =>
    ∃ road, n.road? id = some road ∧ (road.start = c ∨ road.finish = c)
  findRoad_isSome (a b : CrossroadId) : (n.findRoad a b).isSome ↔ n.Linked a b
  findRoad_joins {a b : CrossroadId} {id : RoadId} : n.findRoad a b = some id →
    ∃ road, n.road? id = some road ∧ road.Joins a b
  /-- A road that is taken out is answered. -/
  removeRoad (id : RoadId) : (n.removeRoad? id).map (·.1) = n.road? id
  roads : Lists n.roads n.road?
  roadCount : n.roadCount = {id | (n.road? id).isSome}.ncard
  highwayCount : n.highwayCount = {id | ∃ road, n.road? id = some road ∧ road.highway}.ncard
  /-- There is a stroke for each road, in the same order. -/
  strokes (highwayThickness bywayThickness : α) : List.Forall₂
    (fun (id, road) stroke => n.segment? id = some ⟨stroke.start, stroke.finish⟩ ∧
      stroke.colour = colour road.highway ∧ stroke.highway = road.highway ∧
      stroke.thickness = if road.highway then highwayThickness else bywayThickness)
    n.roads (n.strokes highwayThickness bywayThickness)

section

variable {n : RoadNetwork α}

/-- A loop is entered among the roads that start at its crossroad only. -/
theorem nodup_roadsAt (n : RoadNetwork α) (c : CrossroadId) : (n.roadsAt c).Nodup := by
  unfold roadsAt
  split
  next k hk =>
    obtain ⟨hstarting, hstarts⟩ := n.consistent.starting c k hk
    obtain ⟨hending, hends⟩ := n.consistent.ending c k hk
    refine List.nodup_append'.2 ⟨hstarting, hending, fun id hs hf => ?_⟩
    obtain ⟨road, hr, hstart⟩ := (hstarts id).1 hs
    obtain ⟨other, ho, -, hne⟩ := (hends id).1 hf
    cases hr.symm.trans ho
    exact hne hstart
  next => exact List.nodup_nil

theorem joins_of_findRoad {a b : CrossroadId} {id : RoadId} (h : n.findRoad a b = some id) :
    ∃ road, n.road? id = some road ∧ road.Joins a b := by
  obtain ⟨road, hr, hend⟩ := mem_roadsAt.1 (List.mem_of_find?_eq_some h)
  have htest := List.find?_some h
  simp only [hr] at htest
  refine ⟨road, hr, ?_⟩
  unfold Road.Joins
  grind

theorem linked_of_isSome_findRoad {a b : CrossroadId} :
    (n.findRoad a b).isSome ↔ n.Linked a b := by
  constructor
  · intro hsome
    obtain ⟨id, hid⟩ := Option.isSome_iff_exists.1 hsome
    exact ⟨id, joins_of_findRoad hid⟩
  · rintro ⟨id, road, hr, hjoins⟩
    by_contra hnone
    exact not_joins_of_findRoad (Option.not_isSome_iff_eq_none.1 hnone) hr hjoins

theorem map_fst_removeRoad? (n : RoadNetwork α) (id : RoadId) :
    (n.removeRoad? id).map (·.1) = n.road? id := by
  cases hr : n.road? id with
  | some road =>
    obtain ⟨n', hremove⟩ := removeRoad?_of_road? hr
    rw [hremove]
    rfl
  | none =>
    cases hremove : n.removeRoad? id with
    | none => rfl
    | some found => cases hr.symm.trans (removeRoad?_spec hremove).1

theorem highwayCount_eq_ncard (n : RoadNetwork α) :
    n.highwayCount = {id | ∃ road, n.road? id = some road ∧ road.highway}.ncard := by
  have hset : {id | ∃ road, n.road? id = some road ∧ road.highway} =
      (((n.roads.filter (·.2.highway)).map (·.1)).toFinset : Set RoadId) := by
    ext id
    simp [mem_roads]
  have hnodup : ((n.roads.filter (·.2.highway)).map (·.1)).Nodup :=
    n.nodup_ids.sublist (List.filter_sublist.map _)
  rw [hset, Set.ncard_coe_finset, List.toFinset_card_of_nodup hnodup, List.length_map, highwayCount]

theorem isSome_segment? {id : RoadId} {road : Road α} (hr : n.road? id = some road) :
    ∃ ends, n.segment? id = some ends := by
  obtain ⟨hs, hf⟩ := isSome_ends hr
  obtain ⟨a, ha⟩ := Option.isSome_iff_exists.1 hs
  obtain ⟨b, hb⟩ := Option.isSome_iff_exists.1 hf
  exact ⟨⟨a, b⟩, by simp [segment?, hr, ha, hb]⟩

theorem forall₂_filterMap {β γ : Type} {f : β → Option γ} {l : List β}
    (h : ∀ x ∈ l, ∃ y, f x = some y) :
    List.Forall₂ (fun x y => f x = some y) l (l.filterMap f) := by
  induction l with
  | nil => exact .nil
  | cons x l ih =>
    obtain ⟨y, hy⟩ := h x List.mem_cons_self
    rw [List.filterMap_cons_some hy]
    exact .cons hy (ih fun z hz => h z (List.mem_cons_of_mem x hz))

variable [Scalar α]

/-- Every network is a multigraph. -/
theorem isMultigraph (n : RoadNetwork α) : n.IsMultigraph where
  roadsAt c := ⟨n.nodup_roadsAt c, fun _ => mem_roadsAt⟩
  findRoad_isSome _ _ := linked_of_isSome_findRoad
  findRoad_joins := joins_of_findRoad
  removeRoad := n.map_fst_removeRoad?
  roads := n.lists_roads
  roadCount := n.roadCount_eq_ncard
  highwayCount := n.highwayCount_eq_ncard
  strokes highwayThickness bywayThickness := by
    unfold strokes
    refine (forall₂_filterMap ?_).imp ?_
    · rintro ⟨id, road⟩ hmem
      obtain ⟨ends, hends⟩ := isSome_segment? (mem_roads.1 hmem)
      exact ⟨_, Option.bind_eq_some_iff.2 ⟨ends, hends, rfl⟩⟩
    · rintro ⟨id, road⟩ stroke hstroke
      obtain ⟨ends, hends, hstroke⟩ := Option.bind_eq_some_iff.1 hstroke
      cases hstroke
      exact ⟨hends, rfl, rfl, rfl⟩

end

/-! ## Networks through any changes -/

/-- Changes to an empty network that build roads only between its crossroads do not fail, and after
them the network knows the crossroads and roads that the history tells of and is a multigraph of
these roads. -/
theorem recorded_of_changeAll [Scalar α] (changes : List (Change α)) (h : JoinsKnown 0 changes) :
    ∃ history n, empty.changeAll changes = .ok (history, n) ∧ history.map (·.1) = changes ∧
      Recorded history n ∧ n.IsMultigraph := by
  obtain ⟨history, n, hchanges, hasked⟩ := exists_changeAll (n := empty) h
  exact ⟨history, n, hchanges, hasked, Recorded.empty.changeAll hchanges, n.isMultigraph⟩

/-- After a clearing, two crossroads with a road each way and a loop; the first road is taken out
and its number given out again. -/
theorem recorded_of_changeAll_roadworks :
    let changes : List (Change Float32) :=
      [.crossroad ⟨9, 9⟩, .road 0 0 true, .clear, .crossroad ⟨0, 0⟩, .crossroad ⟨2, 0⟩,
        .road 0 1 true, .road 1 0 false, .road 1 1 false, .remove 0, .remove 7, .road 0 1 false]
    JoinsKnown 0 changes ∧ ∃ history n, empty.changeAll changes = .ok (history, n) ∧
      Recorded history n ∧ n.IsMultigraph ∧
      (∃ midpoint, n.road? 0 = some ⟨0, 1, false, midpoint⟩) ∧ n.roadsAt 1 = [2, 1, 0] := by
  intro changes
  have hknown : JoinsKnown 0 changes := by decide
  obtain ⟨history, n, hchanges, -, hrecorded, hgraph⟩ := recorded_of_changeAll changes hknown
  have hhistory : ((empty.changeAll changes).map fun x => x.1.getLast?) =
      .ok (some (.road 0 1 false, .road 0)) := rfl
  have hroads : ((empty.changeAll changes).map fun x => x.2.roadsAt 1) = .ok [2, 1, 0] := rfl
  rw [hchanges] at hhistory hroads
  refine ⟨hknown, history, n, hchanges, hrecorded, hgraph, ?_, Except.ok.inj hroads⟩
  obtain ⟨before, hbefore⟩ := List.getLast?_eq_some_iff.1 (Except.ok.inj hhistory)
  refine (hrecorded.road 0 0 1 false).2 ⟨before, [], hbefore, fun _ h => ?_⟩
  exact absurd h List.not_mem_nil

end Cityscape.RoadNetwork
