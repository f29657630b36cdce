import Cityscape.Proofs.Quadtree.Refinement
import Cityscape.Proofs.RoadMap.Index
import Cityscape.Proofs.Scalar.Extremes

/-!
# The nearest of what lies near

While the entries of the index are gone through, three things are sought: the nearest crossing, the
nearest road and the nearest crossroad. Each search keeps the closest of the candidates that it has
come to, whatever the other two find.

## Main definitions

* `Surroundings.closest` — the closest of the candidates that a list leads to.
* `Surroundings.crossingOf`, `Surroundings.roadOf`, `Surroundings.crossroadOf` — the candidates of
  the three searches.
* `Segment.Sees` — the square around the end of a road in which entries are looked up.

## Main statements

* `Surroundings.closest_spec` — the closest candidate is one, and none is closer.
* `Surroundings.closest_eq` — it does not depend on the list as long as no two candidates tie.
* `RoadMap.surroundings_cases` — what lies near a road is found by the three searches among entries
  of the network.
-/

namespace Cityscape

variable {α : Type} [Scalar α]

namespace Surroundings

/-! ## The closest candidate -/

section Closest

variable {β γ : Type} (dist : γ → α) (f : β → Option γ)

/-- The closer one of what was found so far and a candidate; what was found stays when they tie. -/
def closer (found candidate : Option γ) : Option γ :=
  match candidate with
  | .none => found
  | some c => if isCloser (dist c) (found.map dist) then some c else found

/-- The closest of the candidates that a list leads to, the first of those that tie. -/
def closest (l : List β) : Option γ := l.foldl (fun found x => closer dist found (f x)) .none

theorem closest_append_singleton (l : List β) (x : β) :
    closest dist f (l ++ [x]) = closer dist (closest dist f l) (f x) := by
  simp [closest]

/-- No two candidates are equally far away. -/
def Untied (candidates : List γ) : Prop :=
  candidates.Pairwise fun c d => dist c < dist d ∨ dist d < dist c

instance (candidates : List γ) : Decidable (Untied dist candidates) :=
  inferInstanceAs (Decidable (candidates.Pairwise _))

variable {dist f} {l l' : List β}

/-- The closest candidate is one of them. -/
theorem mem_of_closest {c : γ} (h : closest dist f l = some c) : ∃ x ∈ l, f x = some c := by
  induction l using List.reverseRecOn with
  | nil => cases h
  | append_singleton l x ih =>
    rw [closest_append_singleton] at h
    have hold (h : closest dist f l = some c) : ∃ y ∈ l ++ [x], f y = some c := by
      obtain ⟨y, hy, hc⟩ := ih h
      exact ⟨y, List.mem_append_left _ hy, hc⟩
    unfold closer at h
    split at h
    · exact hold h
    next d hd =>
      split at h
      · cases h
        exact ⟨x, List.mem_append_right _ List.mem_cons_self, hd⟩
      · exact hold h

/-- When there is a candidate, one is the closest, and the candidate is not closer. -/
theorem closest_spec [Scalar.Total α] (dist : γ → α) {x : β} {d : γ} (hx : x ∈ l)
    (hd : f x = some d) : ∃ c, closest dist f l = some c ∧ ¬ dist d < dist c := by
  induction l using List.reverseRecOn with
  | nil => cases hx
  | append_singleton l y ih =>
    rw [closest_append_singleton]
    cases hy : f y with
    | none =>
      rcases List.mem_append.1 hx with hx | hx
      · exact ih hx
      · rw [List.mem_singleton.1 hx, hy] at hd
        cases hd
    | some e =>
      simp only [closer]
      split
      next hcloser =>
        refine ⟨e, rfl, fun hlt => ?_⟩
        rcases List.mem_append.1 hx with hx | hx
        · obtain ⟨c, hc, hnot⟩ := ih hx
          simp only [hc, Option.map_some, isCloser, decide_eq_true_eq] at hcloser
          exact hnot (Scalar.Ordered.lt_of_le_of_lt (Scalar.Ordered.le_of_lt hlt) hcloser)
        · rw [List.mem_singleton.1 hx, hy] at hd
          cases hd
          exact Scalar.Total.not_lt_of_le (Scalar.Ordered.le_of_lt hlt) hlt
      next hcloser =>
        rcases List.mem_append.1 hx with hx | hx
        · exact ih hx
        · rw [List.mem_singleton.1 hx, hy] at hd
          cases hd
          cases hc : closest dist f l with
          | none => simp [hc, isCloser] at hcloser
          | some c =>
            refine ⟨c, rfl, ?_⟩
            simpa [hc, isCloser] using hcloser

/-- Two lists that lead to the same candidates lead to the same closest one, when no two tie. -/
theorem closest_eq [Scalar.Total α] {all : List β} (hl : ∀ x ∈ l, x ∈ all)
    (hl' : ∀ x ∈ l', x ∈ all) (hall : ∀ x ∈ all, (f x).isSome → x ∈ l ∧ x ∈ l')
    (huntied : Untied dist (all.filterMap f)) : closest dist f l = closest dist f l' := by
  -- the closest candidate of either list is a candidate of the other one
  have hshared {k : List β} (hk : ∀ x ∈ k, x ∈ all) {c : γ} (hc : closest dist f k = some c) :
      c ∈ all.filterMap f ∧ (∃ x ∈ l, f x = some c) ∧ ∃ x ∈ l', f x = some c := by
    obtain ⟨x, hx, hf⟩ := mem_of_closest hc
    obtain ⟨hxl, hxl'⟩ := hall x (hk x hx) (by simp [hf])
    exact ⟨List.mem_filterMap.2 ⟨x, hk x hx, hf⟩, ⟨x, hxl, hf⟩, ⟨x, hxl', hf⟩⟩
  cases hc : closest dist f l with
  | none =>
    cases hc' : closest dist f l' with
    | none => rfl
    | some c' =>
      obtain ⟨-, ⟨x, hx, hf⟩, -⟩ := hshared hl' hc'
      obtain ⟨c, hsome, -⟩ := closest_spec dist hx hf
      cases hc.symm.trans hsome
  | some c =>
    obtain ⟨hmem, -, ⟨x, hx, hf⟩⟩ := hshared hl hc
    obtain ⟨c', hc', hnot⟩ := closest_spec dist hx hf
    obtain ⟨hmem', ⟨x', hx', hf'⟩, -⟩ := hshared hl' hc'
    obtain ⟨c'', hc'', hnot'⟩ := closest_spec dist hx' hf'
    cases hc.symm.trans hc''
    rw [hc']
    by_contra hne
    have : Std.Symm fun c d : γ => dist c < dist d ∨ dist d < dist c := ⟨fun _ _ h => h.symm⟩
    have hstrict := huntied.forall hmem hmem' fun h => hne (by rw [h])
    rcases hstrict with hlt | hlt
    · exact hnot hlt
    · exact hnot' hlt

end Closest

end Surroundings

/-- Where a proposed road crosses another one, away from its own ends. -/
def Segment.crossing? (proposed other : Segment α) : Option (Vec2 α) :=
  (proposed.intersect other).segments.filter fun point =>
    point != proposed.start && point != proposed.finish

namespace Surroundings

/-! ## The three searches -/

/-- The crossing that an entry leads to, its road and how far it is from the start. -/
def crossingOf (network : RoadNetwork α) (proposed : Segment α) :
    MapItem α → Option (Vec2 α × RoadId × α)
  | .crossroad _ _ => .none
  | .road id _ => do
    let point ← proposed.crossing? (← network.segment? id)
    return (point, id, proposed.start.distance point)

/-- The road that an entry leads to, which is not crossed, and how far it is from the end. -/
def roadOf (network : RoadNetwork α) (proposed : Segment α) (radius : α) :
    MapItem α → Option (RoadId × α)
  | .crossroad _ _ => .none
  | .road id midpoint =>
    match network.segment? id with
    | .none => .none
    | some other =>
      match proposed.crossing? other with
      | some _ => .none
      | .none =>
        if proposed.finish.distance midpoint ≤ radius
        then some (id, proposed.finish.distance midpoint)
        else .none

/-- The crossroad that an entry leads to and how far it is from the end. -/
def crossroadOf (start : CrossroadId) (proposed : Segment α) (radius : α) :
    MapItem α → Option (CrossroadId × α)
  | .crossroad id position =>
    if id ≠ start ∧ proposed.finish.distance position ≤ radius
    then some (id, proposed.finish.distance position)
    else .none
  | .road _ _ => .none

/-- What some entries lead to. -/
def ofEntries (network : RoadNetwork α) (start : CrossroadId) (proposed : Segment α) (radius : α)
    (entries : List (MapItem α)) : Surroundings α where
  crossing := closest (·.2.2) (crossingOf network proposed) entries
  road := closest (·.2) (roadOf network proposed radius) entries
  crossroad := closest (·.2) (crossroadOf start proposed radius) entries

variable (network : RoadNetwork α) (start : CrossroadId) (proposed : Segment α) (radius : α)

/-- Taking an entry into account is a step of each search. -/
theorem add_eq (near : Surroundings α) (item : MapItem α) :
    near.add network start proposed radius item =
      { crossing := closer (·.2.2) near.crossing (crossingOf network proposed item)
        road := closer (·.2) near.road (roadOf network proposed radius item)
        crossroad := closer (·.2) near.crossroad (crossroadOf start proposed radius item) } := by
  cases item with
  | crossroad id position =>
    simp only [add, crossingOf, roadOf, crossroadOf, closer]
    by_cases hid : id = start
    · simp [hid]
    · by_cases hnear : proposed.finish.distance position ≤ radius
      · cases hcloser : isCloser (proposed.finish.distance position) (near.crossroad.map (·.2)) <;>
          simp [hid, hnear, hcloser]
      · simp [hid, hnear]
  | road id midpoint =>
    simp only [add, roadOf, crossroadOf, closer, crossingOf, Segment.crossing?]
    cases network.segment? id with
    | none => simp
    | some other =>
      simp only [Option.bind_eq_bind, Option.bind_some]
      cases (proposed.intersect other).segments.filter
        fun point => point != proposed.start && point != proposed.finish with
      | some point =>
        cases hcloser : isCloser (proposed.start.distance point) (near.crossing.map (·.2.2)) <;>
          simp [hcloser]
      | none =>
        by_cases hnear : proposed.finish.distance midpoint ≤ radius
        · cases hcloser : isCloser (proposed.finish.distance midpoint) (near.road.map (·.2)) <;>
            simp [hnear, hcloser]
        · simp [hnear]

/-- What lies near a road is found by the three searches. -/
theorem foldl_add (entries : List (MapItem α)) :
    entries.foldl (Surroundings.add network start proposed radius) none =
      ofEntries network start proposed radius entries := by
  induction entries using List.reverseRecOn with
  | nil => rfl
  | append_singleton entries item ih =>
    rw [List.foldl_append, ih, List.foldl_cons, List.foldl_nil, add_eq]
    simp only [ofEntries, closest_append_singleton]

end Surroundings

/-! ## Looking around -/

/-- The square around the end of a road in which it looks for others, sides included, holds a
point. -/
def Segment.Sees (proposed : Segment α) (reach : α) (p : Vec2 α) : Prop :=
  Rect.Encloses ⟨proposed.finish - .splat reach, proposed.finish + .splat reach⟩ p

instance (proposed : Segment α) (reach : α) (p : Vec2 α) : Decidable (proposed.Sees reach p) :=
  inferInstanceAs (Decidable (Rect.Encloses _ _))

namespace RoadMap

variable {m m' : RoadMap α} {start : CrossroadId} {proposed : Segment α} {radius reach : α}
  {near : Surroundings α}

/-- What lies near a road is found among entries of the network, all those in sight among them. -/
theorem surroundings_cases [Scalar.Ordered α] (hm : m.Mirrors)
    (h : m.surroundings start proposed radius reach = .ok near) :
    ∃ found, near = .ofEntries m.network start proposed radius found ∧
      (∀ x ∈ found, x ∈ m.network.entries) ∧
      ∀ x ∈ m.network.entries, proposed.Sees reach (Positioned.position x) → x ∈ found := by
  obtain ⟨area, harea, h⟩ := bind_eq_ok.1 h
  cases h
  refine ⟨m.index.query area, Surroundings.foldl_add .., fun x hx => ?_, fun x hx hsees => ?_⟩
  · exact hm.items.mem_iff.1 ((m.index.query_sublist_items area).mem hx)
  · refine (hm.routed.filter_sublist_query area).mem (List.mem_filter.2 ⟨?_, decide_eq_true ?_⟩)
    · exact hm.items.mem_iff.2 hx
    · unfold Rect.around at harea
      split at harea
      · cases harea
        exact hsees
      · cases harea

end RoadMap

end Cityscape
