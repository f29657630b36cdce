import Cityscape.Growth.Siting

/-!
# Roads that were fitted into the terrain

## Main statements

* `Land.isBuildable_spec` — what was looked at where a road fits.
* `Land.settle_spec` — a settled plan fits the terrain and keeps the class of the proposed road.
-/

namespace Cityscape.Land

variable {α : Type} [Scalar α] {land : Land α} {settings : GrowthSettings α} {start : Vec2 α}

/-- A road that fits the terrain ends on land of the height that is there, its rounded end is not
its start, and no place on the way to it is water. -/
theorem isBuildable_spec {finish : Vec2 α} {highway : Bool}
    (h : land.isBuildable settings start finish highway = .ok true) :
    (∃ height, land.heights.valueAt finish.round = .ok (some height) ∧ (height == 0) = false) ∧
      (start == finish.round) = false ∧
      land.isDryAlong start (finish.round - start).normalize
        (min (Scalar.whole (Scalar.round (start.distance finish.round))) halfWordLimit) 0 =
          .ok true := by
  obtain ⟨height, hheight, h⟩ := bind_eq_ok.1 h
  split at h
  · cases h
  next height =>
    split at h
    · cases h
    next hland =>
      obtain ⟨density, -, h⟩ := bind_eq_ok.1 h
      -- whatever the density has to exceed
      generalize (if highway then settings.highwayDensity else settings.bywayDensity) = limit at h
      split at h
      · cases h
      · split at h
        · cases h
        · split at h
          · cases h
          next hlength =>
            exact ⟨⟨height, hheight, Bool.eq_false_iff.2 hland⟩, Bool.eq_false_iff.2 hlength, h⟩

/-- A plan of a given class that fits the terrain. -/
def Settled (land : Land α) (settings : GrowthSettings α) (start : Vec2 α) (highway : Bool)
    (fitted : RoadPlan α) : Prop :=
  fitted.highway = highway ∧
    land.isBuildable settings start (planEnd fitted start) highway = .ok true

theorem shorten_spec {plan : RoadPlan α} {limit length fitted : α} {fuel : Nat}
    (h : shorten land settings plan start limit fuel length = .ok (.fits fitted)) :
    land.Settled settings start plan.highway { plan with length := fitted } := by
  induction fuel generalizing length with
  | zero => cases h
  | succ fuel ih =>
    unfold shorten at h
    split at h
    · obtain ⟨fits, hfits, h⟩ := bind_eq_ok.1 h
      cases fits with
      | true => cases h; exact ⟨rfl, hfits⟩
      | false => exact ih h
    · cases h

variable [Trigonometry α]

theorem swing_spec {plan fitted : RoadPlan α} {left angle : Nat}
    (h : swing land settings plan start left angle = .ok (some fitted)) :
    land.Settled settings start plan.highway fitted := by
  induction left generalizing angle with
  | zero => cases h
  | succ left ih =>
    obtain ⟨first, hfirst, h⟩ := bind_eq_ok.1 h
    cases first with
    | true => cases h; exact ⟨rfl, hfirst⟩
    | false =>
      obtain ⟨second, hsecond, h⟩ := bind_eq_ok.1 h
      cases second with
      | true => cases h; exact ⟨rfl, hsecond⟩
      | false => exact ih h

theorem adjust_spec {plan fitted : RoadPlan α}
    (h : land.adjust settings plan start = .ok (some fitted)) :
    land.Settled settings start plan.highway fitted := by
  obtain ⟨shortened, hs, h⟩ := bind_eq_ok.1 h
  cases shortened with
  | fits length => cases h; exact shorten_spec hs
  | exhausted length =>
    simp only at h
    split at h
    · cases h
    · have swung := swing_spec h
      exact swung

/-- A settled plan fits the terrain, and the road has the class that was proposed. -/
theorem settle_spec {plan fitted : RoadPlan α}
    (h : land.settle settings plan start = .ok (some fitted)) :
    land.Settled settings start plan.highway fitted := by
  obtain ⟨fits, hfits, h⟩ := bind_eq_ok.1 h
  cases fits with
  | true => cases h; exact ⟨rfl, hfits⟩
  | false => exact adjust_spec h

end Cityscape.Land
