import Cityscape.Proofs.Growth.Crossings
import Cityscape.Proofs.Lots.Placement
import Cityscape.Proofs.Scalar.Defined

/-!
# Roads that are drawn to crossroads

A proposed road that is not cut off looks for crossroads around its end. It gets a crossroad of its
own only if none of those in sight lies within its reach, and it is drawn to one only if none in
sight lies closer to where it was proposed to end. The first of these needs distances that compare:
they do as long as the settings, the plan and the places of the network are finite, since neither
shortening nor turning a road leads to a place that is not made of numbers.

## Main definitions

* `Segment.MayJoin` — a crossroad in sight of a proposed road.
* `Trigonometry.Bounded` — what is assumed of sine and cosine.
* `RoadPlan.Leads` — a plan that leads from finite places to places made of numbers.

## Main statements

* `RoadMap.join_snapping` — what a road that fits the terrain leaves of the crossroads in sight.
* `Land.settle_leads` — a plan that was fitted into the terrain leads to places made of numbers.
* `Growth.build_snapping` — a proposed road misses no crossroad.
-/

namespace Cityscape

/-! ## Crossroads in sight -/

section Sight

variable {α : Type} [Scalar α]

/-- A crossroad other than the start of a proposed road lies in the square around its end in which
it looks for others. -/
def Segment.MayJoin (proposed : Segment α) (network : RoadNetwork α) (start : CrossroadId)
    (reach : α) (c : CrossroadId) (p : Vec2 α) : Prop :=
  c ≠ start ∧ network.position? c = some p ∧ proposed.Sees reach p

namespace Surroundings

variable {near : Surroundings α} {network : RoadNetwork α} {proposed : Segment α} {radius : α}

/-- A road gets a crossroad of its own only if no other one was found. -/
theorem crossroad_eq_none {p : Vec2 α} (h : near.ending network proposed radius = .fresh p) :
    near.crossroad = .none := by
  unfold ending at h
  grind

/-- A road is drawn to the crossroad that was found. -/
theorem crossroad_eq_some {c : CrossroadId}
    (h : near.ending network proposed radius = .existing c) :
    ∃ d, near.crossroad = some (c, d) := by
  unfold ending at h
  grind

end Surroundings

namespace RoadMap

variable [Scalar.Total α] {m m' : RoadMap α} {start : CrossroadId} {proposed : Segment α}
  {radius reach : α} {near : Surroundings α}

/-- When no crossroad was found, none in sight lies within the radius. -/
theorem surroundings_crossroad_none (hm : m.Mirrors)
    (h : m.surroundings start proposed radius reach = .ok near) (hnone : near.crossroad = none)
    {c : CrossroadId} {p : Vec2 α} (hc : proposed.MayJoin m.network start reach c p) :
    ¬ proposed.finish.distance p ≤ radius := by
  obtain ⟨found, rfl, -, hfound⟩ := surroundings_cases hm h
  intro hle
  have hmem := hfound _ (RoadNetwork.crossroad_mem_entries.2 hc.2.1) hc.2.2
  have hcandidate : Surroundings.crossroadOf start proposed radius (.crossroad c p) =
      some (c, proposed.finish.distance p) := if_pos ⟨hc.1, hle⟩
  obtain ⟨nearest, hsome, -⟩ := Surroundings.closest_spec (·.2) hmem hcandidate
  cases hnone.symm.trans hsome

/-- The crossroad that was found lies in the network, and none in sight lies closer. -/
theorem surroundings_crossroad_some (hm : m.Mirrors)
    (h : m.surroundings start proposed radius reach = .ok near) {c : CrossroadId} {distance : α}
    (hsome : near.crossroad = some (c, distance)) {q : Vec2 α}
    (hq : m.network.position? c = some q) {other : CrossroadId} {p : Vec2 α}
    (hother : proposed.MayJoin m.network start reach other p) :
    ¬ proposed.finish.distance p < proposed.finish.distance q := by
  obtain ⟨found, rfl, hentries, hfound⟩ := surroundings_cases hm h
  -- the distance that is kept with a crossroad is its own
  obtain ⟨x, hx, hcrossroad⟩ := Surroundings.mem_of_closest hsome
  obtain ⟨rfl, hradius⟩ : distance = proposed.finish.distance q ∧
      proposed.finish.distance q ≤ radius := by
    cases x with
    | road => cases hcrossroad
    | crossroad i r =>
      obtain ⟨⟨-, hle⟩, heq⟩ := Option.ite_none_right_eq_some.1 hcrossroad
      cases heq
      cases (RoadNetwork.crossroad_mem_entries.1 (hentries _ hx)).symm.trans hq
      exact ⟨rfl, hle⟩
  intro hlt
  have hmem := hfound _ (RoadNetwork.crossroad_mem_entries.2 hother.2.1) hother.2.2
  have hle := Scalar.Ordered.le_trans (Scalar.Ordered.le_of_lt hlt) hradius
  have hcandidate : Surroundings.crossroadOf start proposed radius (.crossroad other p) =
      some (other, proposed.finish.distance p) := if_pos ⟨hother.1, hle⟩
  obtain ⟨nearest, hclosest, hnot⟩ := Surroundings.closest_spec (·.2) hmem hcandidate
  cases hsome.symm.trans hclosest
  exact hnot hlt

/-- A road that fits the terrain gets a crossroad of its own where it was proposed to end only if no
crossroad in sight lies within its reach. It is drawn to an old one only if none in sight lies
closer. -/
theorem join_snapping {settings : GrowthSettings α} {plan : RoadPlan α} {outcome : Outcome α}
    (hm : m.Mirrors) (h : m.join settings plan start proposed = .ok (outcome, m')) :
    (outcome.verdict = .succeeded →
      (∃ c, outcome.finish = some c ∧ m'.network.position? c = some proposed.finish) ∧
        ∀ other p, proposed.MayJoin m.network start plan.length other p →
          ¬ proposed.finish.distance p ≤ Scalar.round (plan.length * settings.reach)) ∧
      (outcome.verdict = .merged →
        ∀ c q, outcome.finish = some c → m.network.position? c = some q →
          ∀ other p, proposed.MayJoin m.network start plan.length other p →
            ¬ proposed.finish.distance p < proposed.finish.distance q) := by
  obtain ⟨near, hnear, ⟨rfl, -⟩ | ⟨e, finish, id, he, rfl, hextends⟩⟩ := join_ending h
  · refine ⟨fun hverdict => ?_, fun hverdict => ?_⟩
    · cases hverdict
    · cases hverdict
  cases hextends with
  | fresh _ _ hposition _ =>
    refine ⟨fun _ => ⟨⟨finish, rfl, ?_⟩, fun other p hother => ?_⟩, fun hverdict => ?_⟩
    · rw [hposition, Function.update_self, Surroundings.ending_fresh he]
    · exact surroundings_crossroad_none hm hnear (Surroundings.crossroad_eq_none he) hother
    · cases hverdict
  | existing =>
    refine ⟨fun hverdict => ?_, fun _ c q hc hq other p hother => ?_⟩
    · cases hverdict
    · cases hc
      obtain ⟨d, hd⟩ := Surroundings.crossroad_eq_some he
      exact surroundings_crossroad_some hm hnear hd hq hother
  | split hfinish =>
    refine ⟨fun hverdict => ?_, fun _ c q hc hq => ?_⟩
    · cases hverdict
    · cases hc
      cases hfinish.symm.trans hq

end RoadMap

end Sight

/-! ## Plans in finite numbers -/

open Single

/-- What can be relied on when directions are turned: the sine and the cosine of a finite angle lie
between minus one and one. -/
structure Trigonometry.Bounded [Trigonometry Float32] : Prop where
  degree : (Trigonometry.degree : Float32) = Float32.ofBits 0x3c8efa35
  sin {angle : Float32} : Finite angle → Within (-1) 1 (Trigonometry.sin angle)
  cos {angle : Float32} : Finite angle → Within (-1) 1 (Trigonometry.cos angle)

namespace RoadPlan

/-- A plan with finite numbers. -/
def IsFinite (plan : RoadPlan Float32) : Prop := Finite plan.length ∧ plan.direction.IsFinite

instance (plan : RoadPlan Float32) : Decidable plan.IsFinite :=
  inferInstanceAs (Decidable (_ ∧ Vec2.IsFinite _))

/-- A plan with a finite length whose ends are made of numbers. -/
structure Leads (plan : RoadPlan Float32) : Prop where
  length : Finite plan.length
  x : IsDefined (parts (plan.direction.x * plan.length))
  y : IsDefined (parts (plan.direction.y * plan.length))

variable {plan : RoadPlan Float32}

theorem IsFinite.leads (h : plan.IsFinite) : plan.Leads :=
  ⟨h.1, h.2.1.mul_isDefined h.1, h.2.2.mul_isDefined h.1⟩

/-- A road that starts at a finite place ends at a place made of numbers. -/
theorem Leads.planEnd (h : plan.Leads) {origin : Vec2 Float32} (horigin : origin.IsFinite) :
    IsDefined (parts (Land.planEnd plan origin).x) ∧
      IsDefined (parts (Land.planEnd plan origin).y) :=
  ⟨horigin.1.add_isDefined h.x, horigin.2.add_isDefined h.y⟩

end RoadPlan

namespace Land

variable {land : Land Float32} {settings : GrowthSettings Float32} {start : Vec2 Float32}

/-- Shortening leads to finite lengths. -/
theorem shorten_finite {plan : RoadPlan Float32} {limit length : Float32} {fuel : Nat}
    {shortening : Shortening Float32} (hlength : Finite length)
    (h : shorten land settings plan start limit fuel length = .ok shortening) :
    ∃ shorter, Single.Finite shorter ∧
      (shortening = .fits shorter ∨ shortening = .exhausted shorter) := by
  induction fuel generalizing length with
  | zero => cases h
  | succ fuel ih =>
    unfold shorten at h
    split at h
    · obtain ⟨fits, -, h⟩ := bind_eq_ok.1 h
      cases fits with
      | true => cases h; exact ⟨length, hlength, .inl rfl⟩
      | false => exact ih hlength.sub_one h
    · cases h
      exact ⟨length, hlength, .inr rfl⟩

variable [Trigonometry Float32]

/-- A plan with a positive length that is turned by a finite angle leads to places made of
numbers. -/
theorem leads_rotate (htrig : Trigonometry.Bounded) {plan : RoadPlan Float32}
    (hplan : plan.IsFinite) (hpos : 0 < plan.length) {angle : Float32}
    (hangle : Finite (Trigonometry.radians angle)) :
    RoadPlan.Leads { plan with direction := plan.direction.rotate angle } := by
  obtain ⟨hlength, hx, hy⟩ := hplan
  have hsin := htrig.sin hangle
  have hcos := htrig.cos hangle
  refine ⟨hlength, IsDefined.mul_pos ?_ hlength hpos, IsDefined.mul_pos ?_ hlength hpos⟩
  · exact (hx.mul_unit hcos).add_isDefined (hy.mul_unit hsin).isDefined
  · exact ((toReal_neg hx).1.mul_unit hsin).add_isDefined (hy.mul_unit hcos).isDefined

/-- Whole angles of a few digits are finite, to either side. -/
theorem finite_radians (htrig : Trigonometry.Bounded) {angle : Nat}
    (hangle : angle ≤ halfWordLimit) {side : Float32} (hside : Within (-1) 1 side) :
    Finite (Trigonometry.radians (Scalar.ofNat angle * side)) := by
  rw [Trigonometry.radians, htrig.degree]
  exact ((within_ofNat_halfWord hangle).finite.mul_unit hside).mul_unit (by decide +kernel)

theorem swing_leads (htrig : Trigonometry.Bounded) {plan fitted : RoadPlan Float32}
    (hplan : plan.IsFinite) (hpos : 0 < plan.length) {left angle : Nat}
    (hangles : angle + left ≤ halfWordLimit + 1)
    (h : swing land settings plan start left angle = .ok (some fitted)) : fitted.Leads := by
  induction left generalizing angle with
  | zero => cases h
  | succ left ih =>
    obtain ⟨first, -, h⟩ := bind_eq_ok.1 h
    cases first with
    | true =>
      cases h
      exact leads_rotate htrig hplan hpos
        (finite_radians htrig (by omega) (by decide +kernel))
    | false =>
      obtain ⟨second, -, h⟩ := bind_eq_ok.1 h
      cases second with
      | true =>
        cases h
        exact leads_rotate htrig hplan hpos
          (finite_radians htrig (by omega) (by decide +kernel))
      | false => exact ih (by omega) h

theorem adjust_leads (htrig : Trigonometry.Bounded) {plan fitted : RoadPlan Float32}
    (hplan : plan.IsFinite) (hturn : settings.largestTurn ≤ halfWordLimit)
    (h : land.adjust settings plan start = .ok (some fitted)) : fitted.Leads := by
  obtain ⟨shortened, hs, h⟩ := bind_eq_ok.1 h
  obtain ⟨length, hlength, rfl | rfl⟩ := shorten_finite hplan.1 hs
  · cases h
    exact RoadPlan.IsFinite.leads ⟨hlength, hplan.2⟩
  · simp only at h
    split at h
    · cases h
    next hnot =>
      have hpos : 0 < length := by
        rw [le_iff_toReal hlength finite_zero, not_le] at hnot
        exact (lt_iff_toReal finite_zero hlength).2 hnot
      have hangles : 1 + settings.largestTurn ≤ halfWordLimit + 1 := by omega
      have hshort : RoadPlan.IsFinite { plan with length } := ⟨hlength, hplan.2⟩
      exact swing_leads htrig hshort hpos hangles h

/-- A plan in finite numbers that was fitted into the terrain leads to places made of numbers. -/
theorem settle_leads (htrig : Trigonometry.Bounded) {plan fitted : RoadPlan Float32}
    (hplan : plan.IsFinite) (hturn : settings.largestTurn ≤ halfWordLimit)
    (h : land.settle settings plan start = .ok (some fitted)) : fitted.Leads := by
  obtain ⟨fits, -, h⟩ := bind_eq_ok.1 h
  cases fits with
  | true => cases h; exact hplan.leads
  | false => exact adjust_leads htrig hplan hturn h

end Land

/-! ## Proposed roads -/

namespace Growth

/-- A proposed road in finite numbers, once it was fitted into the terrain, misses no crossroad: if
it succeeded, it was built to a crossroad of its own where it was proposed to end, and every other
crossroad in sight lies beyond its reach; if it was drawn to an old crossroad, no other one in sight
lies closer to where it was proposed to end. -/
theorem build_snapping [Trigonometry Float32] {g g' : Growth Float32}
    (htrig : Trigonometry.Bounded) (hm : g.map.Mirrors)
    (hplaces : ∀ c p, g.map.network.position? c = some p → p.IsFinite)
    (hreach : Finite g.settings.reach) (hturn : g.settings.largestTurn ≤ halfWordLimit)
    {plan : RoadPlan Float32} (hplan : plan.IsFinite) {start : CrossroadId}
    {outcome : Outcome Float32} (h : g.build plan start = .ok (outcome, g')) :
    (outcome.verdict = .succeeded → ∃ c origin finish, outcome.finish = some c ∧
      g.map.network.position? start = some origin ∧
      finish = Land.planEnd outcome.plan origin ∧ g'.map.network.position? c = some finish ∧
      ∀ other p, Segment.MayJoin ⟨origin, finish⟩ g.map.network start outcome.plan.length other p →
        Scalar.round (outcome.plan.length * g.settings.reach) < finish.distance p) ∧
    (outcome.verdict = .merged → ∃ origin finish, g.map.network.position? start = some origin ∧
      finish = Land.planEnd outcome.plan origin ∧
      ∀ c q, outcome.finish = some c → g.map.network.position? c = some q →
        ∀ other p,
          Segment.MayJoin ⟨origin, finish⟩ g.map.network start outcome.plan.length other p →
            ¬ finish.distance p < finish.distance q) := by
  obtain ⟨map, hbuild, rfl⟩ := build_eq_ok h
  obtain ⟨rfl, -⟩ | ⟨origin, fitted, horigin, hsettled, hjoin⟩ := RoadMap.build_cases hbuild
  · refine ⟨fun hverdict => ?_, fun hverdict => ?_⟩
    · cases hverdict
    · cases hverdict
  obtain ⟨hsucceeded, hmerged⟩ := RoadMap.join_snapping hm hjoin
  have hleads := Land.settle_leads htrig hplan hturn hsettled
  obtain rfl : outcome.plan = fitted := by
    obtain ⟨near, -, ⟨rfl, -⟩ | ⟨_, _, _, -, rfl, -⟩⟩ := RoadMap.join_ending hjoin
    · rfl
    · rfl
  refine ⟨fun hverdict => ?_, fun hverdict => ⟨origin, _, horigin, rfl, hmerged hverdict⟩⟩
  obtain ⟨⟨c, hfinish, hposition⟩, hbeyond⟩ := hsucceeded hverdict
  refine ⟨c, origin, _, hfinish, horigin, rfl, hposition, fun other p hother => ?_⟩
  have hdistance := Vec2.isNumber_distance_of_finite
    (hleads.planEnd (hplaces start origin horigin)) (hplaces other p hother.2.1)
  have hradius := isNumber_of_isDefined
    (isDefined_roundWhole (hleads.length.mul_isDefined hreach))
  by_contra hnot
  exact hbeyond other p hother (Scalar.Total.le_of_not_lt hradius hdistance hnot)

theorem bounded_rightAngles : @Trigonometry.Bounded Placement.rightAngles :=
  letI := Placement.rightAngles
  have hbounds : Within (-1) 1 (1 : Float32) ∧ Within (-1) 1 (Float32.ofBits 0xb33bbd2e) := by
    decide +kernel
  ⟨rfl, fun _ => hbounds.1, fun _ => hbounds.2⟩

theorem isFinite_of_places {n : RoadNetwork Float32} (h : ∀ x ∈ n.places, x.2.IsFinite)
    (c : CrossroadId) (p : Vec2 Float32) (hp : n.position? c = some p) : p.IsFinite :=
  h (c, p) ((n.lists_places.2 c p).2 hp)

/-- Two byways on the plain: the first one passes a crossroad that lies beyond its reach and gets
one of its own, and the second one is drawn to the closer one of two. -/
theorem build_snapping_roadOnPlain :
    letI := Placement.rightAngles
    let passing := roadOnPlain 4 ⟨⟨2, 0⟩, ⟨2, 5⟩⟩ [⟨0, 1.25⟩]
    let drawn := roadOnPlain 4 ⟨⟨2, 1.5⟩, ⟨2, 4⟩⟩ [⟨0, 1⟩, ⟨4, 3⟩]
    (∃ outcome g' c finish, passing.build ⟨2, ⟨1, 0⟩, false⟩ 2 = .ok (outcome, g') ∧
      outcome.finish = some c ∧ g'.map.network.position? c = some finish ∧
      Scalar.round (outcome.plan.length * passing.settings.reach) < finish.distance ⟨2, 0⟩) ∧
    ∃ outcome g' finish, drawn.build ⟨4, ⟨1, 0⟩, false⟩ 2 = .ok (outcome, g') ∧
      outcome.finish = some 3 ∧ finish = Land.planEnd outcome.plan ⟨0, 1⟩ ∧
      ¬ finish.distance ⟨2, 1.5⟩ < finish.distance ⟨4, 3⟩ := by
  let := Placement.rightAngles
  intro passing drawn
  constructor
  · have hok : (do
        let built ← passing.build ⟨2, ⟨1, 0⟩, false⟩ 2
        return (built.1.verdict, decide (Segment.Sees
          ⟨⟨0, 1.25⟩, Land.planEnd built.1.plan ⟨0, 1.25⟩⟩ built.1.plan.length ⟨2, 0⟩))) =
        .ok (.succeeded, true) := by
      decide +kernel
    obtain ⟨⟨outcome, g'⟩, hbuild, h⟩ := bind_eq_ok.1 hok
    obtain ⟨hverdict, hsees⟩ := Prod.mk.inj (Except.ok.inj h)
    obtain ⟨c, origin, _, hfinish, horigin, rfl, hposition, hbeyond⟩ :=
      (build_snapping bounded_rightAngles (RoadMap.mirrors_ofNetwork _ _ _)
        (isFinite_of_places (by decide +kernel)) (by decide +kernel) (by decide +kernel)
        (by decide +kernel) hbuild).1 hverdict
    obtain rfl : ⟨0, 1.25⟩ = origin := Option.some.inj horigin
    exact ⟨outcome, g', c, _, hbuild, hfinish, hposition,
      hbeyond 0 ⟨2, 0⟩ ⟨by decide, rfl, of_decide_eq_true hsees⟩⟩
  · have hok : (do
        let built ← drawn.build ⟨4, ⟨1, 0⟩, false⟩ 2
        return (built.1.verdict, built.1.finish, decide (Segment.Sees
          ⟨⟨0, 1⟩, Land.planEnd built.1.plan ⟨0, 1⟩⟩ built.1.plan.length ⟨2, 1.5⟩))) =
        .ok (.merged, some 3, true) := by
      decide +kernel
    obtain ⟨⟨outcome, g'⟩, hbuild, h⟩ := bind_eq_ok.1 hok
    simp only [pure, Except.pure, Except.ok.injEq, Prod.mk.injEq] at h
    obtain ⟨hverdict, hfinish, hsees⟩ := h
    obtain ⟨origin, _, horigin, rfl, hclosest⟩ :=
      (build_snapping bounded_rightAngles (RoadMap.mirrors_ofNetwork _ _ _)
        (isFinite_of_places (by decide +kernel)) (by decide +kernel) (by decide +kernel)
        (by decide +kernel) hbuild).2 hverdict
    obtain rfl : ⟨0, 1⟩ = origin := Option.some.inj horigin
    exact ⟨outcome, g', _, hbuild, hfinish, rfl,
      hclosest 3 ⟨4, 3⟩ hfinish rfl 0 ⟨2, 1.5⟩ ⟨by decide, rfl, of_decide_eq_true hsees⟩⟩

end Growth

end Cityscape
