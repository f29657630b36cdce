import Cityscape.Proofs.Growth.Dryness
import Cityscape.Proofs.Growth.Faults
import Cityscape.Proofs.Scalar.Countdown

/-!
# When shortening a road ends

A road that does not fit is shortened by one cell again and again. The length goes down as far as
numbers that differ by one are told apart; a length that is too large for that stands still, and if
it is above the pruning limit and the road does not fit there, shortening does not end. This is the
only way in which fitting a road into the terrain does not come to an end, and no road of at most
2²⁴ cells meets it unless its limit lies below -2²⁴.

## Main definitions

* `GrowthSettings.shortest` — the length down to which a road is shortened.
* `Land.Skips` — a length that shortening goes on from.
* `Land.Sticks` — shortening skips all lengths down to one that stands still.

## Main statements

* `Land.shorten_eq_endless_iff` — how many lengths are skipped.
* `Land.fault_of_adjust` — why the search for a road that fits may fail.
* `Land.adjust_endless_iff_sticks` — it does not end exactly when shortening sticks.
* `Land.not_ends_wideRiver` — it sticks over a river, with the settings that hold by default.
-/

namespace Cityscape

open Single Scalar

section

variable {α : Type} [Scalar α] {land : Land α} {settings : GrowthSettings α} {plan : RoadPlan α}
  {start finish : Vec2 α} {highway : Bool} {fault : Fault} {limit length : α} {fuel : ℕ}

/-- The length down to which a road is shortened. -/
def GrowthSettings.shortest (settings : GrowthSettings α) (plan : RoadPlan α) : α :=
  Scalar.round (plan.length * settings.pruning)

namespace Land

/-! ## Faults of reading the terrain -/

theorem fault_of_isDryAlong {direction : Vec2 α} {left j : ℕ}
    (h : land.isDryAlong start direction left j = .error fault) : fault = .outOfRange := by
  induction left generalizing j with
  | zero => cases h
  | succ left ih =>
    obtain h | ⟨wet, -, h⟩ := bind_eq_error.1 h
    · exact Grid.fault_of_isWater h
    · cases wet with
      | true => cases h
      | false => exact ih h

/-- Whether a road fits is decided, unless a cell is read that does not exist. -/
theorem fault_of_isBuildable (h : land.isBuildable settings start finish highway = .error fault) :
    fault = .outOfRange := by
  obtain h | ⟨height, -, h⟩ := bind_eq_error.1 h
  · exact Grid.fault_of_valueAt h
  split at h
  · cases h
  split at h
  · cases h
  obtain h | ⟨density, -, h⟩ := bind_eq_error.1 h
  · exact Grid.fault_of_valueAt h
  -- whatever the density has to exceed
  generalize (if highway then settings.highwayDensity else settings.bywayDensity) = limit at h
  split at h
  · cases h
  split at h
  · cases h
  split at h
  · cases h
  · exact fault_of_isDryAlong h

/-- Shortening fails only by running out of fuel or where it is not decided whether a road fits. -/
theorem fault_of_shorten (h : shorten land settings plan start limit fuel length = .error fault) :
    fault = .endless ∨
      ∃ finish, land.isBuildable settings start finish plan.highway = .error fault := by
  induction fuel generalizing length with
  | zero => cases h; exact .inl rfl
  | succ fuel ih =>
    unfold shorten at h
    split at h
    · obtain hfits | ⟨fits, -, h⟩ := bind_eq_error.1 h
      · exact .inr ⟨_, hfits⟩
      · cases fits with
        | true => cases h
        | false => exact ih h
    · cases h

section

variable [Trigonometry α]

theorem fault_of_swing {left angle : ℕ}
    (h : swing land settings plan start left angle = .error fault) :
    ∃ finish, land.isBuildable settings start finish plan.highway = .error fault := by
  induction left generalizing angle with
  | zero => cases h
  | succ left ih =>
    obtain hfirst | ⟨first, -, h⟩ := bind_eq_error.1 h
    · exact ⟨_, hfirst⟩
    cases first with
    | true => cases h
    | false =>
      obtain hsecond | ⟨second, -, h⟩ := bind_eq_error.1 h
      · exact ⟨_, hsecond⟩
      cases second with
      | true => cases h
      | false => exact ih h

/-- The search for a road that fits fails only if shortening does not end, or where it is not
decided whether a road fits. -/
theorem fault_of_adjust (h : land.adjust settings plan start = .error fault) :
    fault = .endless ∧ shorten land settings plan start (settings.shortest plan) shorteningLimit
        plan.length = .error .endless ∨
      ∃ finish, land.isBuildable settings start finish plan.highway = .error fault := by
  obtain hshorten | ⟨shortening, -, h⟩ := bind_eq_error.1 h
  · obtain rfl | hfits := fault_of_shorten hshorten
    · exact .inl ⟨rfl, hshorten⟩
    · exact .inr hfits
  · cases shortening with
    | fits length => cases h
    | exhausted length =>
      simp only at h
      split at h
      · cases h
      · have hfits := fault_of_swing h
        exact .inr hfits

/-- The search does not end exactly when shortening does not. -/
theorem adjust_eq_endless_iff :
    land.adjust settings plan start = .error .endless ↔
      shorten land settings plan start (settings.shortest plan) shorteningLimit plan.length =
        .error .endless := by
  constructor
  · intro h
    obtain ⟨-, hshorten⟩ | ⟨finish, hfits⟩ := fault_of_adjust h
    · exact hshorten
    · cases fault_of_isBuildable hfits
  · intro h
    exact bind_eq_error.2 (.inl h)

end

/-! ## Lengths that are skipped -/

/-- A length that shortening goes on from: it is above the limit and the road does not fit. -/
def Skips (land : Land α) (settings : GrowthSettings α) (plan : RoadPlan α) (start : Vec2 α)
    (limit length : α) : Prop :=
  limit < length ∧
    land.isBuildable settings start (planEnd { plan with length } start) plan.highway = .ok false

theorem shorten_of_skips (h : land.Skips settings plan start limit length) :
    shorten land settings plan start limit (fuel + 1) length =
      shorten land settings plan start limit fuel (length - 1) := by
  rw [shorten, if_pos h.1, h.2]
  rfl

/-- Shortening ends at a length that is not skipped. -/
theorem shorten_of_not_skips (h : ¬ land.Skips settings plan start limit length) :
    shorten land settings plan start limit (fuel + 1) length ≠ .error .endless := by
  intro hendless
  unfold shorten at hendless
  split at hendless
  next hlt =>
    obtain hfits | ⟨fits, hfits, hendless⟩ := bind_eq_error.1 hendless
    · cases fault_of_isBuildable hfits
    · cases fits with
      | true => cases hendless
      | false => exact h ⟨hlt, hfits⟩
  · cases hendless

/-- Shortening runs out of fuel exactly when it skips a length for each unit of it. -/
theorem shorten_eq_endless_iff :
    shorten land settings plan start limit fuel length = .error .endless ↔
      ∀ j < fuel, land.Skips settings plan start limit (countdown length j) := by
  induction fuel generalizing length with
  | zero => exact ⟨fun _ j hj => absurd hj j.not_lt_zero, fun _ => rfl⟩
  | succ fuel ih =>
    rw [Nat.forall_lt_succ_left']
    by_cases hskips : land.Skips settings plan start limit length
    · rw [shorten_of_skips hskips, ih]
      exact ⟨fun h => ⟨hskips, h⟩, fun h => h.2⟩
    · exact iff_of_false (shorten_of_not_skips hskips) fun h => hskips h.1

/-- Shortening skips all lengths down to one that stands still. -/
def Sticks (land : Land α) (settings : GrowthSettings α) (plan : RoadPlan α) (start : Vec2 α) :
    Prop :=
  ∃ k, countdown plan.length k - 1 = countdown plan.length k ∧
    ∀ j ≤ k, land.Skips settings plan start (settings.shortest plan) (countdown plan.length j)

/-- The length that stands still is met at all later times, and skipped there. -/
theorem Sticks.skips (h : land.Sticks settings plan start) (j : ℕ) :
    land.Skips settings plan start (settings.shortest plan) (countdown plan.length j) := by
  obtain ⟨k, hfixed, hskips⟩ := h
  rcases le_total j k with hle | hle
  · exact hskips j hle
  · obtain ⟨d, rfl⟩ := Nat.exists_eq_add_of_le hle
    rw [countdown_add, countdown_fixed hfixed]
    exact hskips k le_rfl

theorem Sticks.shorten_eq_endless (h : land.Sticks settings plan start) (fuel : ℕ) :
    shorten land settings plan start (settings.shortest plan) fuel plan.length =
      .error .endless :=
  shorten_eq_endless_iff.2 fun j _ => h.skips j

end Land

end

/-! ## Single-precision lengths -/

namespace Land

variable {land : Land Float32} {settings : GrowthSettings Float32} {plan : RoadPlan Float32}
  {start : Vec2 Float32}

/-- Over maps with a cell it is always decided whether a road fits. -/
theorem not_hasCells_of_fault {finish : Vec2 Float32} {highway : Bool} {fault : Fault}
    (h : land.isBuildable settings start finish highway = .error fault) : ¬ land.HasCells := by
  intro hland
  obtain ⟨fits, hfits⟩ := exists_isBuildable hland settings start finish highway
  cases hfits.symm.trans h

/-- Every countdown stands still before the fuel of a search is used up. -/
theorem shorten_eq_endless_iff_sticks (hlength : Finite plan.length) :
    shorten land settings plan start (settings.shortest plan) shorteningLimit plan.length =
      .error .endless ↔ land.Sticks settings plan start := by
  constructor
  · intro h
    obtain ⟨k, hk, hfixed⟩ := exists_countdown_fixed hlength
    exact ⟨k, hfixed, fun j hj => shorten_eq_endless_iff.1 h j (hj.trans_lt hk)⟩
  · intro h
    exact h.shorten_eq_endless shorteningLimit

/-- A length of at most 2²⁴ gets down to any limit that is not below -2²⁴. -/
theorem not_sticks_of_le (hlength : Finite plan.length) (hle : plan.length ≤ 16777216)
    (hlimit : ¬ settings.shortest plan < -16777216) : ¬ land.Sticks settings plan start := by
  rintro ⟨k, hfixed, hskips⟩
  have hle' : countdown plan.length k ≤ 16777216 :=
    Ordered.le_trans (countdown_le hlength k) hle
  have hlow := le_of_sub_one_eq (finite_countdown hlength k) hle' hfixed
  exact hlimit (Total.lt_of_lt_of_le (hskips k le_rfl).1 hlow)

/-! ### A road across a river -/

/-- A strip of land with a river across it. -/
def wideRiver : Land Float32 where
  heights := ⟨1024, 1, .ofFn fun k => if 380 ≤ k.val ∧ k.val < 384 then 0 else 1⟩
  densities := ⟨1024, 1, .replicate _ 1⟩

theorem hasCells_wideRiver : wideRiver.HasCells := ⟨by decide, by decide⟩

/-- A plan of 3 · 2²³ short steps, across the river. -/
def crossingPlan : RoadPlan Float32 := ⟨25165824, ⟨3.0517578125e-05, 0⟩, false⟩

theorem isWater_wideRiver : wideRiver.heights.isWater
    (Segment.station ⟨⟨0, 0⟩, planEnd crossingPlan ⟨0, 0⟩⟩ 380) = .ok true := by
  have hcell : wideRiver.heights.cell
      (Segment.station ⟨⟨0, 0⟩, planEnd crossingPlan ⟨0, 0⟩⟩ 380) = some (380, 0) := by
    decide +kernel
  have hget : wideRiver.heights.get 380 0 = .ok 0 := by
    rw [Grid.get, wideRiver, Vector.getElem?_eq_getElem (by decide), Vector.getElem_ofFn]
    rfl
  rw [Grid.isWater, Grid.valueAt, hcell]
  simp only [hget]
  rfl

theorem not_isBuildable_wideRiver :
    wideRiver.isBuildable .standard ⟨0, 0⟩ (planEnd crossingPlan ⟨0, 0⟩) false = .ok false := by
  obtain ⟨fits, hfits⟩ := exists_isBuildable hasCells_wideRiver .standard ⟨0, 0⟩
    (planEnd crossingPlan ⟨0, 0⟩) false
  cases fits with
  | false => exact hfits
  | true =>
    have hdry := (dry_of_isBuildable hfits).2 380 (by decide +kernel)
    cases isWater_wideRiver.symm.trans hdry

/-- The first length already stands still. -/
theorem sticks_wideRiver : wideRiver.Sticks .standard crossingPlan ⟨0, 0⟩ := by
  have habove : (GrowthSettings.standard : GrowthSettings Float32).shortest crossingPlan <
      crossingPlan.length := by decide +kernel
  refine ⟨0, by decide +kernel, fun j hj => ?_⟩
  obtain rfl := Nat.le_zero.1 hj
  exact ⟨habove, not_isBuildable_wideRiver⟩

/-- Maps without a cell. -/
def noLand : Land Float32 := ⟨⟨0, 0, .replicate _ 1⟩, ⟨0, 0, .replicate _ 1⟩⟩

/-- A start that is not a number stands for the first cell, also where there is none. -/
theorem isBuildable_noLand :
    noLand.isBuildable .standard (.splat (Float32.ofBits 0x7fc00000))
      (planEnd ⟨4, ⟨1, 0⟩, false⟩ (.splat (Float32.ofBits 0x7fc00000))) false =
        .error .outOfRange := by
  decide +kernel

/-! ### Which searches end -/

/-- The search for a road that fits does not end exactly when shortening sticks, which is also when
shortening does not end however long it goes on; otherwise the search is decided, unless a cell is
read that does not exist. Roads of at most 2²⁴ cells do not stick, unless they are shortened to less
than -2²⁴. -/
theorem adjust_endless_iff_sticks [Trigonometry Float32] (hlength : Finite plan.length) :
    ((∀ fuel, shorten land settings plan start (settings.shortest plan) fuel plan.length =
      .error .endless) ↔ land.Sticks settings plan start) ∧
    (land.adjust settings plan start = .error .endless ↔ land.Sticks settings plan start) ∧
    (¬ land.Sticks settings plan start →
      (∃ settled, land.adjust settings plan start = .ok settled) ∨
        ¬ land.HasCells ∧ land.adjust settings plan start = .error .outOfRange) ∧
    (plan.length ≤ 16777216 → ¬ settings.shortest plan < -16777216 →
      ¬ land.Sticks settings plan start) := by
  have hsticks : shorten land settings plan start (settings.shortest plan) shorteningLimit
      plan.length = .error .endless ↔ land.Sticks settings plan start :=
    shorten_eq_endless_iff_sticks hlength
  refine ⟨⟨fun h => hsticks.1 (h _), Sticks.shorten_eq_endless⟩,
    adjust_eq_endless_iff.trans hsticks, fun hnot => ?_, not_sticks_of_le hlength⟩
  cases h : land.adjust settings plan start with
  | ok settled => exact .inl ⟨settled, rfl⟩
  | error fault =>
    obtain ⟨-, hshorten⟩ | ⟨finish, hfits⟩ := fault_of_adjust h
    · exact absurd (hsticks.1 hshorten) hnot
    · cases fault_of_isBuildable hfits
      exact .inr ⟨not_hasCells_of_fault hfits, rfl⟩

/-- The search ends for a road of twenty cells. -/
theorem adjust_endless_iff_sticks_short :
    Finite (20 : Float32) ∧
      ∃ settled, wideRiver.adjust .standard ⟨20, ⟨1, 0⟩, false⟩ ⟨370, 0⟩ = .ok settled := by
  have hlength : Finite (20 : Float32) := by decide +kernel
  obtain ⟨-, -, hdecided, hnot⟩ := @adjust_endless_iff_sticks wideRiver .standard
    ⟨20, ⟨1, 0⟩, false⟩ ⟨370, 0⟩ _ hlength
  obtain hok | ⟨hland, -⟩ := hdecided (hnot (by decide +kernel) (by decide +kernel))
  · exact ⟨hlength, hok⟩
  · exact absurd hasCells_wideRiver hland

/-- With the settings that hold by default and a road of finite length, shortening goes on for ever:
one cell less is rounded back to the same length, which is above the limit, and the road crosses the
river. And over maps without a cell, a cell is read that does not exist. -/
theorem not_ends_wideRiver :
    GrowthSettings.decode? (.object []) = some (.standard : GrowthSettings Float32) ∧
      Finite crossingPlan.length ∧
      (∀ fuel, shorten wideRiver .standard crossingPlan ⟨0, 0⟩
        (GrowthSettings.standard.shortest crossingPlan) fuel crossingPlan.length =
          .error .endless) ∧
      wideRiver.adjust .standard crossingPlan ⟨0, 0⟩ = .error .endless ∧
      noLand.adjust .standard ⟨4, ⟨1, 0⟩, false⟩ (.splat (Float32.ofBits 0x7fc00000)) =
        .error .outOfRange := by
  refine ⟨rfl, by decide +kernel, sticks_wideRiver.shorten_eq_endless,
    adjust_eq_endless_iff.2 (sticks_wideRiver.shorten_eq_endless _), bind_eq_error.2 (.inl ?_)⟩
  rw [shorteningLimit, shorten, if_pos (by decide +kernel), isBuildable_noLand]
  rfl

end Land

end Cityscape
