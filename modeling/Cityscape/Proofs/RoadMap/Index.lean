import Cityscape.Proofs.Quadtree.Routing
import Cityscape.Proofs.RoadMap.Changes

/-!
# The index of a road map

The network and its index are changed by separate operations. `RoadMap.Mirrors` says that the index
holds one entry for each crossroad and for each road and nothing else; every change keeps this, as
long as the midpoint of a road that is taken out is a pair of numbers, without which its entry would
not be found.

## Main definitions

* `RoadNetwork.entries` — what the index is to hold.
* `RoadNetwork.IsPlaced` — every midpoint of a road compares with itself.
* `RoadMap.Mirrors` — the index holds it, where it is looked for.
* `RoadMap.ofNetwork` — the map of a network.

## Main statements

* `RoadMap.Mirrors.removeRoad`, `RoadMap.Mirrors.splitRoad`, `RoadMap.Mirrors.build` — the changes
  that take roads out.
-/

namespace Cityscape

variable {α : Type}

/-! ## Lists by number -/

/-- A list holds exactly the values of a function by number, each of them once. -/
def Lists {β : Type} (l : List (Nat × β)) (f : Nat → Option β) : Prop :=
  l.Nodup ∧ ∀ id b, (id, b) ∈ l ↔ f id = some b

namespace Lists

variable {β : Type} {l l' : List (Nat × β)} {f : Nat → Option β} {id : Nat} {b : β}

theorem perm (h : Lists l f) (h' : Lists l' f) : l'.Perm l := by
  refine (List.perm_ext_iff_of_nodup h'.1 h.1).2 ?_
  rintro ⟨id, b⟩
  rw [h.2, h'.2]

theorem perm_update (h : Lists l f) (h' : Lists l' (Function.update f id (some b)))
    (hid : f id = none) : l'.Perm ((id, b) :: l) := by
  have hnot : (id, b) ∉ l := by simp [h.2, hid]
  refine (List.perm_ext_iff_of_nodup h'.1 (List.nodup_cons.2 ⟨hnot, h.1⟩)).2 ?_
  rintro ⟨j, c⟩
  rw [List.mem_cons, h.2, h'.2, Function.update_apply]
  by_cases hj : j = id
  · simp [hj, hid, eq_comm]
  · simp [hj]

end Lists

namespace RoadNetwork

/-! ## Entries -/

/-- The positions of the crossroads with their numbers. -/
def places (n : RoadNetwork α) : List (CrossroadId × Vec2 α) :=
  n.crossroads.toList.zipIdx.map fun (c, id) => (id, c.position)

/-- What the index is to hold: an entry for each crossroad and for each road. -/
def entries (n : RoadNetwork α) : List (MapItem α) :=
  (n.places.map fun (id, p) => .crossroad id p) ++
    n.roads.map fun (id, road) => .road id road.midpoint

theorem lists_places (n : RoadNetwork α) : Lists n.places n.position? := by
  constructor
  · refine List.Nodup.of_map (·.1) ?_
    have hids : n.places.map (·.1) = List.range' 0 n.crossroads.size := by
      simp [places, Function.comp_def, List.zipIdx_map_snd]
    rw [hids]
    exact List.nodup_range'
  · intro id p
    simp [places, position?, crossroad?, List.mem_zipIdx_iff_getElem?]

theorem lists_roads (n : RoadNetwork α) : Lists n.roads n.road? :=
  ⟨n.nodup_roads, fun _ _ => mem_roads⟩

theorem crossroad_mem_entries {n : RoadNetwork α} {id : CrossroadId} {p : Vec2 α} :
    .crossroad id p ∈ n.entries ↔ n.position? id = some p := by
  simp [entries, n.lists_places.2]

theorem road_mem_entries {n : RoadNetwork α} {id : RoadId} {p : Vec2 α} :
    .road id p ∈ n.entries ↔ ∃ road, n.road? id = some road ∧ road.midpoint = p := by
  simp [entries, mem_roads]

variable {n n' : RoadNetwork α}

theorem entries_addCrossroad {c : CrossroadId} {p : Vec2 α}
    (hposition : n'.position? = Function.update n.position? c (some p))
    (hc : n.position? c = none) (hroad : n'.road? = n.road?) :
    n'.entries.Perm (.crossroad c p :: n.entries) := by
  have hplaces := n'.lists_places
  have hroads := n'.lists_roads
  rw [hposition] at hplaces
  rw [hroad] at hroads
  have hperm := (n.lists_places.perm_update hplaces hc).map
    fun (id, p) => (MapItem.crossroad id p : MapItem α)
  exact hperm.append ((n.lists_roads.perm hroads).map _)

theorem entries_addRoad {id : RoadId} {road : Road α} (hposition : n'.position? = n.position?)
    (hroad : n'.road? = Function.update n.road? id (some road)) (hid : n.road? id = none) :
    n'.entries.Perm (.road id road.midpoint :: n.entries) := by
  have hplaces := n'.lists_places
  have hroads := n'.lists_roads
  rw [hposition] at hplaces
  rw [hroad] at hroads
  have hperm := (n.lists_roads.perm_update hroads hid).map
    fun (id, road) => (MapItem.road id road.midpoint : MapItem α)
  exact (((n.lists_places.perm hplaces).map _).append hperm).trans List.perm_middle

theorem entries_removeRoad {id : RoadId} {road : Road α} (hposition : n'.position? = n.position?)
    (hroad : n'.road? = Function.update n.road? id none) (hid : n.road? id = some road) :
    n.entries.Perm (.road id road.midpoint :: n'.entries) := by
  refine entries_addRoad hposition.symm ?_ (by rw [hroad, Function.update_self])
  rw [hroad, Function.update_idem, ← hid, Function.update_eq_self]

/-- Every midpoint of a road compares with itself: no coordinate of it is not a number. -/
def IsPlaced [Scalar α] (n : RoadNetwork α) : Prop :=
  ∀ x ∈ n.roads, (x.2.midpoint == x.2.midpoint) = true

instance [Scalar α] (n : RoadNetwork α) : Decidable n.IsPlaced :=
  inferInstanceAs (Decidable (∀ x ∈ n.roads, _))

theorem IsPlaced.beq_self [Scalar α] (h : n.IsPlaced) {id : RoadId} {road : Road α}
    (hr : n.road? id = some road) : (road.midpoint == road.midpoint) = true :=
  h (id, road) (mem_roads.2 hr)

end RoadNetwork

namespace RoadMap

variable [Scalar α] {m m' : RoadMap α}

/-- The index holds an entry for each crossroad and for each road and nothing else, and every entry
is where it is looked for. -/
structure Mirrors (m : RoadMap α) : Prop where
  items : m.index.items.Perm m.network.entries
  routed : m.index.Routed

theorem mirrors_empty (capacity : Nat) (bounds : Rect α) : (empty capacity bounds).Mirrors :=
  ⟨.refl _, Quadtree.routed_empty _ _⟩

theorem mirrors_clear (m : RoadMap α) : m.clear.Mirrors := ⟨.refl _, m.index.routed_clear⟩

/-- The map of a network whose index was filled entry by entry. -/
def ofNetwork (network : RoadNetwork α) (capacity : Nat) (bounds : Rect α) : RoadMap α :=
  ⟨network, network.entries.foldl Quadtree.insert (.empty capacity bounds)⟩

theorem mirrors_ofNetwork (network : RoadNetwork α) (capacity : Nat) (bounds : Rect α) :
    (ofNetwork network capacity bounds).Mirrors := by
  have hfill (entries : List (MapItem α)) {t : Quadtree α (MapItem α)} (ht : t.Routed) :
      (entries.foldl Quadtree.insert t).items.Perm (t.items ++ entries) ∧
        (entries.foldl Quadtree.insert t).Routed := by
    induction entries generalizing t with
    | nil => simpa using ht
    | cons x entries ih =>
      obtain ⟨hitems, hrouted⟩ := ih (ht.insert x)
      have hmiddle : (x :: t.items ++ entries).Perm (t.items ++ x :: entries) :=
        List.perm_middle.symm
      exact ⟨hitems.trans (((t.items_insert x).append_right entries).trans hmiddle), hrouted⟩
  obtain ⟨hitems, hrouted⟩ := hfill network.entries (Quadtree.routed_empty capacity bounds)
  have hempty : (Quadtree.empty capacity bounds : Quadtree α (MapItem α)).items = [] := rfl
  rw [hempty, List.nil_append] at hitems
  exact ⟨hitems, hrouted⟩

/-! ## Additions -/

theorem Mirrors.addCrossroad (h : m.Mirrors) (p : Vec2 α) : (m.addCrossroad p).2.Mirrors := by
  rw [addCrossroad_eq]
  refine ⟨?_, h.routed.insert _⟩
  have hentries := RoadNetwork.entries_addCrossroad (m.network.position?_addCrossroad p)
    m.network.position?_crossroadCount (m.network.road?_addCrossroad p)
  exact (m.index.items_insert _).trans ((h.items.cons _).trans hentries.symm)

theorem Mirrors.addRoad (h : m.Mirrors) {start finish : CrossroadId} {highway : Bool} {id : RoadId}
    (hadd : m.addRoad start finish highway = .ok (id, m')) : m'.Mirrors := by
  obtain ⟨a, b, -, -, rfl, hposition, hroad, hindex⟩ := addRoad_cases hadd
  have hentries := RoadNetwork.entries_addRoad hposition hroad m.network.road?_nextId
  constructor
  · rw [hindex]
    exact (m.index.items_insert _).trans ((h.items.cons _).trans hentries.symm)
  · rw [hindex]
    exact h.routed.insert _

/-! ## Removals -/

/-- The entry of a road is found when its midpoint compares with itself, and no other entry is taken
out in its place. -/
theorem Mirrors.erase (h : m.Mirrors) {id : RoadId} {road : Road α}
    (hr : m.network.road? id = some road) (hself : (road.midpoint == road.midpoint) = true) :
    m.index.items.Perm (.road id road.midpoint :: (m.index.erase (.road id road.midpoint)).items) ∧
      (m.index.erase (.road id road.midpoint)).Routed := by
  have hmem : .road id road.midpoint ∈ m.index.items :=
    h.items.mem_iff.2 (RoadNetwork.road_mem_entries.2 ⟨road, hr, rfl⟩)
  have hbeq : ((.road id road.midpoint : MapItem α) == .road id road.midpoint) = true := by
    simp only [BEq.beq, decide_true, Bool.true_and]
    exact hself
  obtain ⟨rest, hrest⟩ := Option.isSome_iff_exists.1 (h.routed.isSome_erase? hmem hbeq)
  have herase : m.index.erase (.road id road.midpoint) = rest := by
    rw [Quadtree.erase, hrest, Option.getD_some]
  obtain ⟨x, hx, hperm⟩ := Quadtree.items_of_erase? hrest
  have hxmem : x ∈ m.network.entries := h.items.mem_iff.1 (hperm.mem_iff.2 List.mem_cons_self)
  have hfound : x = .road id road.midpoint := by
    cases x with
    | crossroad c p => cases hx
    | road j p =>
      obtain ⟨other, hother, rfl⟩ := RoadNetwork.road_mem_entries.1 hxmem
      obtain rfl : j = id := by
        have hids := (Bool.and_eq_true_iff.1 hx).1
        simpa using hids
      rw [Option.some.inj (hother.symm.trans hr)]
  rw [herase]
  rw [hfound] at hperm
  exact ⟨hperm, h.routed.erase? hrest⟩

theorem Mirrors.removeRoad (h : m.Mirrors) {id : RoadId} {road : Road α}
    (hr : m.network.road? id = some road) (hself : (road.midpoint == road.midpoint) = true) :
    (m.removeRoad id).Mirrors := by
  obtain ⟨-, hposition, hroad, hindex⟩ := removeRoad_of_road? hr
  have hentries := RoadNetwork.entries_removeRoad hposition hroad hr
  obtain ⟨hitems, hrouted⟩ := h.erase hr hself
  constructor
  · rw [hindex]
    exact (hitems.symm.trans (h.items.trans hentries)).cons_inv
  · rw [hindex]
    exact hrouted

/-! ## Roads that are built -/

theorem Mirrors.splitRoad (h : m.Mirrors) (hplaced : m.network.IsPlaced) {place : Vec2 α}
    {id : RoadId} {minimum : α} {c : CrossroadId}
    (hsplit : m.splitRoad place id minimum = .ok (some (c, m'))) : m'.Mirrors := by
  obtain ⟨ends, road, m₁, first, second, -, hr, -, -, -, hfirst, hsecond⟩ := splitRoad_cases hsplit
  have hremoved := h.removeRoad hr (hplaced.beq_self hr)
  exact ((hremoved.addCrossroad place).addRoad hfirst).addRoad hsecond

theorem Mirrors.join (h : m.Mirrors) (hplaced : m.network.IsPlaced) {settings : GrowthSettings α}
    {plan : RoadPlan α} {start : CrossroadId} {proposed : Segment α} {outcome : Outcome α}
    (hjoin : m.join settings plan start proposed = .ok (outcome, m')) : m'.Mirrors := by
  obtain ⟨near, -, ⟨-, rfl⟩ | ⟨finish, merged, m₁, id, hend, hroad, -⟩⟩ := join_cases hjoin
  · exact h
  refine Mirrors.addRoad ?_ hroad
  rcases makeEnd_cases hend with ⟨p, -, -, hmade⟩ | ⟨p, r, -, -, hmade⟩ | ⟨-, -, rfl, -⟩
  · have hadded := h.addCrossroad p
    rwa [hmade] at hadded
  · exact h.splitRoad hplaced hmade
  · exact h

theorem Mirrors.build [Trigonometry α] (h : m.Mirrors) (hplaced : m.network.IsPlaced)
    {land : Land α} {settings : GrowthSettings α} {plan : RoadPlan α} {start : CrossroadId}
    {outcome : Outcome α} (hbuild : m.build land settings plan start = .ok (outcome, m')) :
    m'.Mirrors := by
  obtain ⟨-, rfl⟩ | ⟨origin, fitted, -, -, hjoin⟩ := build_cases hbuild
  · exact h
  · exact h.join hplaced hjoin

end RoadMap

end Cityscape
