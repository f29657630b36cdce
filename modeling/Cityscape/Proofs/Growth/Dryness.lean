import Cityscape.Proofs.Growth.Crossings

/-!
# Roads and water

A proposed road is checked for water when it is fitted into the terrain, and not again after its end
was moved to a crossroad or a road nearby. So a road that succeeded is dry, while one that joins the
network is known to be dry only if its end did not leave the cell it was proposed in.

## Main definitions

* `Land.Dry` — a road whose end, and every place looked at on the way there, is land.

## Main statements

* `Land.dry_of_isBuildable` — a road that fits the terrain is dry.
* `Growth.build_dry` — which of the roads that are built are dry.
-/

namespace Cityscape

variable {α : Type} [Scalar α]

namespace Segment

/-- How many places are looked at on the way to the rounded end of a road. -/
def stationCount (way : Segment α) : Nat :=
  min (Scalar.whole (Scalar.round (way.start.distance way.finish.round))) halfWordLimit

/-- The place at a whole distance from the start of a road, on the way to its rounded end. -/
def station (way : Segment α) (j : Nat) : Vec2 α :=
  way.start + (way.finish.round - way.start).normalize.scale (Scalar.ofNat j)

end Segment

namespace Land

variable {land : Land α} {settings : GrowthSettings α} {start finish : Vec2 α} {highway : Bool}

/-- A road does not run into water: it ends on land, and so are the places on the way there. -/
def Dry (land : Land α) (way : Segment α) : Prop :=
  land.heights.isWater way.finish.round = .ok false ∧
    ∀ j < way.stationCount, land.heights.isWater (way.station j) = .ok false

instance (way : Segment α) : Decidable (land.Dry way) := inferInstanceAs (Decidable (_ ∧ _))

theorem isDryAlong_iff {direction : Vec2 α} {left j : Nat} :
    land.isDryAlong start direction left j = .ok true ↔
      ∀ k < left, land.heights.isWater (start + direction.scale (Scalar.ofNat (j + k))) =
        .ok false := by
  induction left generalizing j with
  | zero => simp [isDryAlong]
  | succ left ih =>
    constructor
    · intro h k hk
      obtain ⟨wet, hwet, h⟩ := bind_eq_ok.1 h
      cases wet with
      | true => cases h
      | false =>
        cases k with
        | zero => exact hwet
        | succ k =>
          have hlater := ih.1 h k (Nat.lt_of_succ_lt_succ hk)
          rwa [Nat.add_assoc, Nat.add_comm 1] at hlater
    · intro h
      refine bind_eq_ok.2 ⟨false, h 0 left.succ_pos, ih.2 fun k hk => ?_⟩
      have hlater := h (k + 1) (Nat.succ_lt_succ hk)
      rwa [Nat.add_assoc, Nat.add_comm 1]

/-- Whether a road is dry depends on its end only through the cell that the end falls into. -/
theorem Dry.congr_round {p q : Vec2 α} (h : land.Dry ⟨start, p⟩) (hround : q.round = p.round) :
    land.Dry ⟨start, q⟩ := by
  unfold Dry Segment.stationCount Segment.station at h ⊢
  rwa [hround]

/-- A road that fits the terrain does not run into water. -/
theorem dry_of_isBuildable (h : land.isBuildable settings start finish highway = .ok true) :
    land.Dry ⟨start, finish⟩ := by
  obtain ⟨⟨height, hheight, hland⟩, -, hdry⟩ := isBuildable_spec h
  refine ⟨bind_eq_ok.2 ⟨some height, hheight, congrArg Except.ok hland⟩, fun j hj => ?_⟩
  have hstation := isDryAlong_iff.1 hdry j hj
  rwa [Nat.zero_add] at hstation

end Land

/-! ## Roads that are built -/

/-- A road that fits the terrain and is built keeps its plan, and leads to where it was proposed to
end if it succeeded. -/
theorem RoadMap.join_segment {m m' : RoadMap α} {start : CrossroadId} {proposed : Segment α}
    {settings : GrowthSettings α} {plan : RoadPlan α} {outcome : Outcome α}
    (horigin : m.network.position? start = some proposed.start)
    (h : m.join settings plan start proposed = .ok (outcome, m')) {id : RoadId}
    (hid : outcome.road = some id) :
    ∃ c p, outcome.finish = some c ∧ m'.network.position? c = some p ∧
      m'.network.segment? id = some ⟨proposed.start, p⟩ ∧ outcome.plan = plan ∧
      (outcome.verdict = .succeeded → p = proposed.finish) := by
  obtain ⟨near, -, ⟨rfl, -⟩ | ⟨e, finish, id', he, rfl, hextends⟩⟩ := join_ending h
  · cases hid
  cases hid
  obtain ⟨p, hsegment, hend⟩ := hextends.segment?_self horigin
  obtain ⟨mid, hroad⟩ := hextends.road?_self
  have hposition := (RoadNetwork.position?_of_segment? hroad hsegment).2
  refine ⟨finish, p, rfl, hposition, hsegment, rfl, fun hverdict => ?_⟩
  cases e with
  | fresh => exact (Option.some.inj hend).symm.trans (Surroundings.ending_fresh he)
  | split => cases hverdict
  | existing => cases hverdict

namespace Growth

variable [Trigonometry α] {g g' : Growth α}

/-- A road that is built was proposed over dry land. It is dry itself if it succeeded, and also if
it was merged but its end stayed in the cell that it was proposed to end in. -/
theorem build_dry {plan : RoadPlan α} {start : CrossroadId} {outcome : Outcome α}
    (h : g.build plan start = .ok (outcome, g')) {id : RoadId} (hid : outcome.road = some id) :
    ∃ c origin p, outcome.finish = some c ∧ g.map.network.position? start = some origin ∧
      g'.map.network.position? c = some p ∧ g'.map.network.segment? id = some ⟨origin, p⟩ ∧
      g.land.Dry ⟨origin, Land.planEnd outcome.plan origin⟩ ∧
      (outcome.verdict = .succeeded ∨ p.round = (Land.planEnd outcome.plan origin).round →
        g.land.Dry ⟨origin, p⟩) := by
  obtain ⟨map, hbuild, rfl⟩ := build_eq_ok h
  obtain ⟨rfl, -⟩ | ⟨origin, fitted, horigin, hsettled, hjoin⟩ := RoadMap.build_cases hbuild
  · cases hid
  obtain ⟨c, p, hfinish, hposition, hsegment, rfl, hsucceeded⟩ :=
    RoadMap.join_segment horigin hjoin hid
  have hdry := Land.dry_of_isBuildable (Land.settle_spec hsettled).2
  refine ⟨c, origin, p, hfinish, horigin, hposition, hsegment, hdry, fun hend => ?_⟩
  rcases hend with hverdict | hround
  · rw [hsucceeded hverdict]
    exact hdry
  · exact hdry.congr_round hround

/-! ## Roads across a river -/

/-- Growth over the plain with a river in one of its columns, a byway along the east and a crossroad
in the west. -/
def byRiver (column : Nat) : Growth Float32 :=
  let g := roadOnPlain 4 ⟨⟨5, 1⟩, ⟨5, 5⟩⟩ [⟨0, 3⟩]
  { g with land.heights := ⟨6, 6, .ofFn fun k => if k.val % 6 = column then 0 else 1⟩ }

/-- What is computed of a byway from the west: its verdict and number, whether it ends in the water
and whether it is dry. -/
theorem build_byRiver {column : Nat} {plan : RoadPlan Float32} {verdict : Verdict} {id : RoadId}
    {drowned dry : Bool} (h : (do
      let built ← (byRiver column).build plan 2
      return (built.1.verdict, built.1.road,
        (built.2.map.network.segment? id).map fun s : Segment Float32 =>
          (decide ((byRiver column).land.heights.isWater s.finish.round = Except.ok true),
            decide ((byRiver column).land.Dry s)))) =
      .ok (verdict, some id, some (drowned, dry))) :
    ∃ outcome g' s, (byRiver column).build plan 2 = .ok (outcome, g') ∧
      outcome.verdict = verdict ∧ outcome.road = some id ∧ g'.map.network.segment? id = some s ∧
      decide ((byRiver column).land.heights.isWater s.finish.round = .ok true) = drowned ∧
      decide ((byRiver column).land.Dry s) = dry := by
  obtain ⟨⟨outcome, g'⟩, hbuild, h⟩ := bind_eq_ok.1 h
  simp only [pure, Except.pure, Except.ok.injEq, Prod.mk.injEq, Option.map_eq_some_iff] at h
  obtain ⟨hverdict, hroad, s, hs, hdrowned, hdry⟩ := h
  exact ⟨outcome, g', s, hbuild, hverdict, hroad, hs, hdrowned, hdry⟩

/-- A byway that stays on the west bank of the river is dry. -/
theorem build_dry_byRiver :
    ∃ outcome g' c origin p, (byRiver 4).build ⟨1, ⟨1, 0⟩, false⟩ 2 = .ok (outcome, g') ∧
      outcome.verdict = .succeeded ∧ outcome.road = some 1 ∧ outcome.finish = some c ∧
      g'.map.network.segment? 1 = some ⟨origin, p⟩ ∧ (byRiver 4).land.Dry ⟨origin, p⟩ := by
  obtain ⟨outcome, g', s, hbuild, hverdict, hroad, -⟩ :=
    @build_byRiver 4 ⟨1, ⟨1, 0⟩, false⟩ .succeeded 1 false true (by decide +kernel)
  obtain ⟨c, origin, p, hfinish, -, -, hsegment, -, hdry⟩ := build_dry hbuild hroad
  exact ⟨outcome, g', c, origin, p, hbuild, hverdict, hroad, hfinish, hsegment,
    hdry (.inl hverdict)⟩

/-- A byway that is proposed up to the river is drawn to the road on the other bank. It runs through
the water, though it ends on land and the road that was there is dry; and when the river flows where
the road leads along, it even ends in the water. -/
theorem not_dry_byRiver :
    (∃ outcome g' s, (byRiver 4).build ⟨3, ⟨1, 0⟩, false⟩ 2 = .ok (outcome, g') ∧
      outcome.verdict = .merged ∧ outcome.road = some 2 ∧ g'.map.network.segment? 2 = some s ∧
      (∀ x ∈ (byRiver 4).map.network.roads, ∀ road ∈ (byRiver 4).map.network.segment? x.1,
        (byRiver 4).land.Dry road) ∧
      (byRiver 4).land.heights.isWater s.finish.round ≠ .ok true ∧ ¬ (byRiver 4).land.Dry s) ∧
    ∃ outcome g' s, (byRiver 5).build ⟨3, ⟨1, 0⟩, false⟩ 2 = .ok (outcome, g') ∧
      outcome.verdict = .merged ∧ outcome.road = some 2 ∧ g'.map.network.segment? 2 = some s ∧
      (byRiver 5).land.heights.isWater s.finish.round = .ok true := by
  constructor
  · obtain ⟨outcome, g', s, hbuild, hverdict, hroad, hs, hdrowned, hdry⟩ :=
      @build_byRiver 4 ⟨3, ⟨1, 0⟩, false⟩ .merged 2 false false (by decide +kernel)
    exact ⟨outcome, g', s, hbuild, hverdict, hroad, hs, by decide +kernel,
      of_decide_eq_false hdrowned, of_decide_eq_false hdry⟩
  · obtain ⟨outcome, g', s, hbuild, hverdict, hroad, hs, hdrowned, -⟩ :=
      @build_byRiver 5 ⟨3, ⟨1, 0⟩, false⟩ .merged 2 true false (by decide +kernel)
    exact ⟨outcome, g', s, hbuild, hverdict, hroad, hs, of_decide_eq_true hdrowned⟩

end Growth

end Cityscape
