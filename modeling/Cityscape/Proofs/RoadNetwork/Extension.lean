import Cityscape.Growth.Joining
import Cityscape.Proofs.RoadNetwork.Simple

/-!
# Networks with one more road

A road that is built ends at a new crossroad, at an old one, or at a new crossroad on a road, which
is then replaced by its two sections. `RoadNetwork.Extends` says for each of the three how the
network afterwards differs from the one before; what holds after any of them is derived from it.

## Main definitions

* `Ending.verdict` — what is reported of a road that ends there.
* `RoadNetwork.Extends` — the three ways to build a road.

## Main statements

* `RoadNetwork.Extends.connected`, `RoadNetwork.Extends.counts` — paths and numbers.
* `RoadNetwork.Extends.isSimple` — no loops and no doubled roads, if no road at the start is split.
-/

namespace Cityscape

variable {α : Type}

/-- A road that ends at a crossroad of its own succeeded; any other one was merged. -/
def Ending.verdict : Ending α → Verdict
  | .fresh _ => .succeeded
  | .split _ _ => .merged
  | .existing _ => .merged

namespace RoadNetwork

/-- The road `id` of a given class was built from the crossroad `start` to the crossroad `finish`,
and all crossroads and roads but the ones named here are as before. -/
inductive Extends (n : RoadNetwork α) (start : CrossroadId) (highway : Bool)
    (finish : CrossroadId) (id : RoadId) (n' : RoadNetwork α) : Ending α → Prop
  /-- The end is a new crossroad. -/
  | fresh {p m : Vec2 α} (hfinish : n.position? finish = none) (hid : n.road? id = none)
      (hposition : n'.position? = Function.update n.position? finish (some p))
      (hroad : n'.road? = Function.update n.road? id (some ⟨start, finish, highway, m⟩)) :
      Extends n start highway finish id n' (.fresh p)
  /-- The end is another crossroad that no road joined to the start. -/
  | existing {m : Vec2 α} (hne : finish ≠ start) (hfinish : (n.position? finish).isSome)
      (hapart : ∀ j road, n.road? j = some road → ¬ road.Joins start finish)
      (hid : n.road? id = none) (hposition : n'.position? = n.position?)
      (hroad : n'.road? = Function.update n.road? id (some ⟨start, finish, highway, m⟩)) :
      Extends n start highway finish id n' (.existing finish)
  /-- The end is a new crossroad on the road `old`, whose number is handed to its first section. -/
  | split {p m m₁ m₂ : Vec2 α} {r second : RoadId} {old : Road α}
      (hfinish : n.position? finish = none) (hold : n.road? r = some old)
      (hsecond : n.road? second = none) (hid : n.road? id = none) (hne : id ≠ second)
      (hposition : n'.position? = Function.update n.position? finish (some p))
      (hroad : n'.road? = Function.update (Function.update (Function.update n.road?
        r (some ⟨old.start, finish, old.highway, m₁⟩))
        second (some ⟨finish, old.finish, old.highway, m₂⟩))
        id (some ⟨start, finish, highway, m⟩)) :
      Extends n start highway finish id n' (.split p r)

variable {n n' : RoadNetwork α} {start finish : CrossroadId} {highway : Bool} {id : RoadId}
  {e : Ending α}

/-- No road ends at a crossroad that is not there. -/
theorem not_joins_of_position?_eq_none (hfinish : n.position? finish = none) {j : RoadId}
    {road : Road α} (hr : n.road? j = some road) (a : CrossroadId) : ¬ road.Joins a finish := by
  have ⟨hs, hf⟩ := isSome_ends hr
  rintro (⟨-, rfl⟩ | ⟨rfl, -⟩)
  · simp [hfinish] at hf
  · simp [hfinish] at hs

theorem ne_of_position?_eq_none (hfinish : n.position? finish = none) {c : CrossroadId}
    (hc : (n.position? c).isSome) : c ≠ finish := by
  rintro rfl
  simp [hfinish] at hc

namespace Extends

theorem road?_self (h : n.Extends start highway finish id n' e) :
    ∃ m, n'.road? id = some ⟨start, finish, highway, m⟩ := by
  cases h with
  | fresh _ _ _ hroad => exact ⟨_, by rw [hroad, Function.update_self]⟩
  | existing _ _ _ _ _ hroad => exact ⟨_, by rw [hroad, Function.update_self]⟩
  | split _ _ _ _ _ _ hroad => exact ⟨_, by rw [hroad, Function.update_self]⟩

/-- A road that is not split stays. -/
theorem road?_of_ne (h : n.Extends start highway finish id n' e) {j : RoadId} {road : Road α}
    (hj : n.road? j = some road) (hne : ∀ p, e ≠ .split p j) : n'.road? j = some road := by
  have hunused {i : RoadId} (hi : n.road? i = none) : j ≠ i := by
    rintro rfl
    simp [hi] at hj
  cases h with
  | fresh _ hid _ hroad => rw [hroad, Function.update_of_ne (hunused hid), hj]
  | existing _ _ _ hid _ hroad => rw [hroad, Function.update_of_ne (hunused hid), hj]
  | @split p _ _ _ r _ _ _ _ hsecond hid _ _ hroad =>
    have hr : j ≠ r := fun hr => hne p (by rw [hr])
    rw [hroad, Function.update_of_ne (hunused hid), Function.update_of_ne (hunused hsecond),
      Function.update_of_ne hr, hj]

/-- A road that is split is replaced by its two sections. -/
theorem road?_of_split {p : Vec2 α} {r : RoadId} {old : Road α}
    (h : n.Extends start highway finish id n' (.split p r)) (hold : n.road? r = some old) :
    ∃ second m₁ m₂, n'.road? r = some ⟨old.start, finish, old.highway, m₁⟩ ∧
      n'.road? second = some ⟨finish, old.finish, old.highway, m₂⟩ := by
  have hunused {i : RoadId} (hi : n.road? i = none) : r ≠ i := by
    rintro rfl
    simp [hi] at hold
  cases h with
  | @split _ _ m₁ m₂ _ second road _ hr hsecond hid hne _ hroad =>
    cases hr.symm.trans hold
    refine ⟨second, m₁, m₂, ?_, ?_⟩
    · rw [hroad, Function.update_of_ne (hunused hid), Function.update_of_ne (hunused hsecond),
        Function.update_self]
    · rw [hroad, Function.update_of_ne hne.symm, Function.update_self]

/-- The positions of crossroads stay. -/
theorem position?_eq (h : n.Extends start highway finish id n' e) {c : CrossroadId} {p : Vec2 α}
    (hc : n.position? c = some p) : n'.position? c = some p := by
  have hold {d : CrossroadId} (hd : n.position? d = none) : c ≠ d := by
    rintro rfl
    simp [hd] at hc
  cases h with
  | fresh hfinish _ hposition _ => rw [hposition, Function.update_of_ne (hold hfinish), hc]
  | existing _ _ _ _ hposition _ => rw [hposition, hc]
  | split hfinish _ _ _ _ hposition _ => rw [hposition, Function.update_of_ne (hold hfinish), hc]

/-- The only crossroad that may be new is the end. -/
theorem eq_finish (h : n.Extends start highway finish id n' e) {c : CrossroadId}
    (hc : (n'.position? c).isSome) (hnew : n.position? c = none) : c = finish := by
  cases h with
  | fresh _ _ hposition _ => by_contra hne; simp [hposition, hne, hnew] at hc
  | existing _ _ _ _ hposition _ => simp [hposition, hnew] at hc
  | split _ _ _ _ _ hposition _ => by_contra hne; simp [hposition, hne, hnew] at hc

/-! ## Paths -/

/-- The ends of an old road stay joined: by the road itself or by its two sections. -/
theorem reaches (h : n.Extends start highway finish id n' e) {j : RoadId} {road : Road α}
    (hj : n.road? j = some road) : n'.Reaches road.start road.finish := by
  by_cases hsplit : ∃ p, e = .split p j
  · obtain ⟨p, rfl⟩ := hsplit
    obtain ⟨second, m₁, m₂, hfirst, hrest⟩ := h.road?_of_split hj
    have hto := reaches_of_road? hfirst
    have hfrom := reaches_of_road? hrest
    exact hto.trans hfrom
  · exact reaches_of_road? (h.road?_of_ne hj fun p hp => hsplit ⟨p, hp⟩)

/-- A connected network stays connected when a road is built from one of its crossroads. -/
theorem connected (h : n.Extends start highway finish id n' e)
    (hstart : (n.position? start).isSome) (hn : n.Connected) : n'.Connected := by
  refine hn.of_reaches (fun j road hj => h.reaches hj) fun c hc hnew => ⟨start, hstart, ?_⟩
  obtain ⟨m, hroad⟩ := h.road?_self
  have hpath := reaches_of_road? hroad
  rwa [← h.eq_finish hc hnew] at hpath

/-! ## Numbers -/

/-- How many crossroads and roads there are more. -/
theorem counts (h : n.Extends start highway finish id n' e) :
    match e with
    | .fresh _ => n'.crossroadCount = n.crossroadCount + 1 ∧ n'.roadCount = n.roadCount + 1
    | .existing _ => n'.crossroadCount = n.crossroadCount ∧ n'.roadCount = n.roadCount + 1
    | .split _ _ => n'.crossroadCount = n.crossroadCount + 1 ∧ n'.roadCount = n.roadCount + 2 := by
  cases h with
  | fresh hfinish hid hposition hroad =>
    exact ⟨crossroadCount_of_update hposition hfinish, roadCount_of_update hroad hid⟩
  | existing _ _ _ hid hposition hroad =>
    exact ⟨crossroadCount_congr hposition, roadCount_of_update hroad hid⟩
  | @split _ _ m₁ m₂ r second old hfinish hold hsecond hid hne hposition hroad =>
    refine ⟨crossroadCount_of_update hposition hfinish, ?_⟩
    have hr : (n.road? r).isSome := by simp [hold]
    have hsr : second ≠ r := by rintro rfl; simp [hold] at hsecond
    have hir : id ≠ r := by rintro rfl; simp [hold] at hid
    -- the first section keeps the number of the old road, the other two roads have new ones
    have hfin₁ := n.finite_road?
    rw [← setOf_isSome_update (⟨old.start, finish, old.highway, m₁⟩ : Road α) hr] at hfin₁
    have hfin₂ := hfin₁.insert second
    rw [roadCount_eq_ncard, roadCount_eq_ncard, hroad,
      ncard_update_of_eq_none _ (hfin₂.subset ?_) (by simp [hne, hir, hid]),
      ncard_update_of_eq_none _ hfin₁ (by simp [hsr, hsecond]), setOf_isSome_update _ hr]
    intro j hj
    by_cases hjs : j = second
    · exact .inl hjs
    · exact .inr (by simpa [Function.update_apply, hjs] using hj)

/-! ## Loops and doubled roads -/

/-- The two sections of a road that is split at a crossroad of its own double no road. -/
theorem simple_sections {m₁ m₂ : Vec2 α} {r second : RoadId} {old : Road α} (hn : n.IsSimple)
    (hfinish : n.position? finish = none) (hold : n.road? r = some old) :
    Simple (Function.update (Function.update n.road?
      r (some ⟨old.start, finish, old.highway, m₁⟩))
      second (some ⟨finish, old.finish, old.highway, m₂⟩)) := by
  have ⟨hstart, hend⟩ := isSome_ends hold
  have hs := ne_of_position?_eq_none hfinish hstart
  have hf := ne_of_position?_eq_none hfinish hend
  have hfirst : Simple (Function.update n.road? r
      (some ⟨old.start, finish, old.highway, m₁⟩)) :=
    Simple.update hn hs fun j s _ hj => not_joins_of_position?_eq_none hfinish hj old.start
  refine hfirst.update hf.symm fun j s _ hj => ?_
  rw [Function.update_apply] at hj
  split at hj
  · cases hj
    rintro (⟨hj, -⟩ | ⟨hj, -⟩)
    · exact hs hj
    · exact hn.start_ne_finish hold hj
  · exact fun hjoins => not_joins_of_position?_eq_none hfinish hj old.finish hjoins.symm

/-- A road from `start` doubles no road and is no loop, provided that the road it may split does not
lie at `start`. -/
theorem isSimple (h : n.Extends start highway finish id n' e)
    (hstart : (n.position? start).isSome) (hn : n.IsSimple)
    (haway : ∀ p r old, e = .split p r → n.road? r = some old →
      old.start ≠ start ∧ old.finish ≠ start) : n'.IsSimple := by
  unfold IsSimple
  cases h with
  | fresh hfinish _ _ hroad =>
    rw [hroad]
    exact Simple.update hn (ne_of_position?_eq_none hfinish hstart)
      fun j s _ hj => not_joins_of_position?_eq_none hfinish hj start
  | existing hne _ hapart _ _ hroad =>
    rw [hroad]
    exact Simple.update hn hne.symm fun j s _ hj => hapart j s hj
  | @split p _ m₁ m₂ r second old hfinish hold hsecond hid hne _ hroad =>
    have hnew := ne_of_position?_eq_none hfinish hstart
    have ⟨hstart₁, hstart₂⟩ := haway p r old rfl hold
    rw [hroad]
    refine (simple_sections hn hfinish hold).update hnew fun j s _ hj => ?_
    rw [Function.update_apply] at hj
    split at hj
    · cases hj
      rintro (⟨hj, -⟩ | ⟨-, hj⟩)
      · exact hnew hj.symm
      · exact hstart₂ hj
    · rw [Function.update_apply] at hj
      split at hj
      · cases hj
        rintro (⟨hj, -⟩ | ⟨-, hj⟩)
        · exact hstart₁ hj
        · exact hnew hj.symm
      · exact not_joins_of_position?_eq_none hfinish hj start

end Extends

end RoadNetwork

end Cityscape
