import Cityscape.Growth.Joining

/-!
# What a proposed road finds near it

## Main definitions

* `Ending.Meets` — a road that is to be split is crossed or met there.
* `Surroundings.Sound` — what was found is there: roads are crossed where it says so, and the
  crossroad is not the one the proposed road starts at.

## Main statements

* `RoadMap.surroundings_sound` — what the index leads to is sound.
* `Surroundings.Sound.meets_ending`, `Surroundings.Sound.ending_existing` — where a road can be made
  to end.
-/

namespace Cityscape

variable {α : Type} [Scalar α]

/-- A road that is to be split is crossed away from the ends of the proposed road, or it is met by
the line through the proposed road ahead of the start. -/
def Ending.Meets (network : RoadNetwork α) (proposed : Segment α) : Ending α → Prop
  | .split p id => ∃ other, network.segment? id = some other ∧
      ((proposed.intersect other).segments = some p ∧
          (p != proposed.start && p != proposed.finish) = true ∨
        (proposed.intersect other).lines = some p ∧
          0 < (p - proposed.start).dot proposed.span)
  | _ => True

namespace Surroundings

variable {network : RoadNetwork α} {start : CrossroadId} {proposed : Segment α} {radius : α}
  {near : Surroundings α}

structure Sound (network : RoadNetwork α) (start : CrossroadId) (proposed : Segment α)
    (near : Surroundings α) : Prop where
  crossing {p : Vec2 α} {id : RoadId} {d : α} : near.crossing = some (p, id, d) →
    ∃ other, network.segment? id = some other ∧ (proposed.intersect other).segments = some p ∧
      (p != proposed.start && p != proposed.finish) = true
  crossroad {c : CrossroadId} {d : α} : near.crossroad = some (c, d) → c ≠ start

theorem Sound.none : Sound network start proposed none :=
  ⟨(nomatch ·), (nomatch ·)⟩

theorem Sound.add (h : near.Sound network start proposed) (item : MapItem α) :
    (near.add network start proposed radius item).Sound network start proposed := by
  cases item with
  | crossroad id position =>
    simp only [Surroundings.add]
    split
    · exact h
    next hid =>
      split
      · refine ⟨h.crossing, fun hc => ?_⟩
        cases hc
        exact hid
      · exact h
  | road id midpoint =>
    simp only [Surroundings.add]
    split
    · exact h
    next other hother =>
      split
      next point hpoint =>
        split
        · refine ⟨fun hc => ?_, h.crossroad⟩
          cases hc
          obtain ⟨hp, hends⟩ := Option.filter_eq_some_iff.1 hpoint
          exact ⟨other, hother, hp, hends⟩
        · exact h
      · split
        · exact ⟨h.crossing, h.crossroad⟩
        · exact h

theorem Sound.foldl (h : near.Sound network start proposed) (items : List (MapItem α)) :
    (items.foldl (Surroundings.add network start proposed radius) near).Sound network start
      proposed := by
  induction items generalizing near with
  | nil => exact h
  | cons item items ih => exact ih (h.add item)

/-- Where a road is to be split, its line is met. -/
theorem Sound.ending_split (h : near.Sound network start proposed) {p : Vec2 α} {id : RoadId}
    (he : near.ending network proposed radius = .split p id) :
    (Ending.split p id).Meets network proposed := by
  have hline {q : Vec2 α} {road : RoadId} (hq : lineHit network proposed road = some q) :
      ∃ other, network.segment? road = some other ∧
        (proposed.intersect other).lines = some q ∧
          0 < (q - proposed.start).dot proposed.span := by
    obtain ⟨other, hother, hq⟩ := Option.bind_eq_some_iff.1 hq
    obtain ⟨hp, hahead⟩ := Option.filter_eq_some_iff.1 hq
    exact ⟨other, hother, hp, of_decide_eq_true hahead⟩
  cases hc : near.crossing with
  | some found =>
    simp only [ending, hc] at he
    cases he
    obtain ⟨other, hother, hp⟩ := h.crossing hc
    exact ⟨other, hother, .inl hp⟩
  | none =>
    cases hr : near.road with
    | none => cases hk : near.crossroad <;> simp [ending, hc, hr, hk] at he
    | some found =>
      obtain ⟨road, d⟩ := found
      cases hl : lineHit network proposed road with
      | none => cases hk : near.crossroad <;> simp [ending, hc, hr, hk, hl] at he
      | some q =>
        have hq : q = p ∧ road = id := by
          cases hk : near.crossroad <;> simp only [ending, hc, hr, hk, hl] at he <;>
            split at he <;> simp_all
        obtain ⟨rfl, rfl⟩ := hq
        obtain ⟨other, hother, hp⟩ := hline hl
        exact ⟨other, hother, .inr hp⟩

theorem Sound.meets_ending (h : near.Sound network start proposed) (radius : α) :
    (near.ending network proposed radius).Meets network proposed := by
  cases he : near.ending network proposed radius with
  | fresh => trivial
  | existing => trivial
  | split p id => exact h.ending_split he

/-- A road is not led back to the crossroad it starts at. -/
theorem Sound.ending_existing (h : near.Sound network start proposed) {c : CrossroadId}
    (he : near.ending network proposed radius = .existing c) : c ≠ start := by
  cases hc : near.crossing with
  | some found => simp [ending, hc] at he
  | none =>
    cases hk : near.crossroad with
    | none =>
      cases hr : near.road <;> simp only [ending, hc, hr, hk] at he
      · cases he
      · split at he
        · split at he <;> cases he
        · cases he
    | some found =>
      have hfound : found.1 = c := by
        cases hr : near.road <;> simp only [ending, hc, hr, hk] at he
        · simpa using he
        · split at he
          · split at he <;> simp_all
          · simpa using he
      rw [← hfound]
      exact h.crossroad hk

end Surroundings

theorem RoadMap.surroundings_sound {m : RoadMap α} {start : CrossroadId} {proposed : Segment α}
    {radius reach : α} {near : Surroundings α}
    (h : m.surroundings start proposed radius reach = .ok near) :
    near.Sound m.network start proposed := by
  obtain ⟨area, -, h⟩ := bind_eq_ok.1 h
  cases h
  exact Surroundings.Sound.none.foldl _

end Cityscape
