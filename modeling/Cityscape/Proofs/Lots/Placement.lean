import Cityscape.Lots
import Cityscape.Proofs.Lots.Obstacles
import Cityscape.Proofs.RoadNetwork.Pairs

/-!
# Where buildings stand

Buildings are put up one after the other, each on a lot that was tested against the obstacles of
that moment: the roads of the network and the lots of the buildings before it. So what is said of a
building is said about the obstacles among which it came to stand, and it is found out in four
steps: the model that is chosen at a place, what is proposed there, what one place adds to a site,
and from it what walks along all roads add.

## Main definitions

* `Placement.Suits` — the lot of a model suits a place among obstacles.
* `Placement.Stands`, `Placement.Raises` — a building on the lot of the first model that suits, at a
  place along a road of a network.
* `Site.Carried` — what holds of a site and of a distance is kept at each place of a walk.
* `Site.Sound` — the obstacles of a site are its lots, and each building was raised among those
  before it.

## Main statements

* `Placement.choose_spec` — the first model that suits is chosen.
* `Site.Carried.walk`, `Site.Carried.lineRoads` — what each place of a walk keeps is kept along all
  roads.
* `Site.Sound.step`, `Site.Sound.lineRoads` — sites stay sound.
* `Placement.place_clear` — all buildings stand on dry lots along live roads, clear of the roads and
  lots in their surroundings.
-/

namespace Cityscape

variable {α : Type} [Scalar α]

namespace Placement

/-! ## Choosing a model -/

/-- Where the lot at a distance along a side of a road begins. -/
def Spot.corner (spot : Spot α) (distance : α) : Vec2 α :=
  spot.origin + spot.along.scale distance + spot.side.scale spot.clearance

/-- The size of the lot of a model, in cells. -/
def lotSize (settings : LotSettings α) (spec : LotSpec α) : Vec2 α :=
  spec.lot.scale settings.scale

/-- The lot of a model at a distance along a side of a road. -/
def lotAt (settings : LotSettings α) (spot : Spot α) (distance : α) (spec : LotSpec α) :
    Footprint α :=
  .ofSides (spot.corner distance) spot.along spot.side (lotSize settings spec)

/-- The lot of a model suits a place among obstacles: it does not extend beyond the end of the road,
no corner of it is water, and nothing is in its way. -/
structure Suits (heights : Grid α) (settings : LotSettings α) (o : Obstacles α) (spot : Spot α)
    (distance : α) (spec : LotSpec α) : Prop where
  fits : ¬ spot.length < distance + (lotSize settings spec).x
  dry : ∀ c ∈ (lotAt settings spot distance spec).corners, heights.isWater c = .ok false
  free : o.isBlocked (lotAt settings spot distance spec) spot.road = false

theorem onWater_cases {heights : Grid α} {corners : List (Vec2 α)} {wet : Bool}
    (h : onWater heights corners = .ok wet) :
    if wet then ∃ c ∈ corners, heights.isWater c = .ok true
    else ∀ c ∈ corners, heights.isWater c = .ok false := by
  induction corners with
  | nil =>
    cases h
    simp
  | cons c rest ih =>
    obtain ⟨water, hc, h⟩ := bind_eq_ok.1 h
    cases water with
    | true =>
      cases h
      exact ⟨c, List.mem_cons_self, hc⟩
    | false =>
      have hrest := ih h
      cases wet with
      | true =>
        obtain ⟨d, hd, hwater⟩ := hrest
        exact ⟨d, List.mem_cons_of_mem c hd, hwater⟩
      | false =>
        intro d hd
        rcases List.mem_cons.1 hd with rfl | hd
        · exact hc
        · exact hrest d hd

variable {p q : Placement α} {o : Obstacles α} {spot : Spot α} {distance : α}

/-- The model that is chosen is the first of those tried that suits the place. -/
theorem choose_spec {models : List (Nat × LotSpec α)} {advance last : α} {entry : Nat}
    {f : Footprint α}
    (h : choose p o spot (spot.corner distance) distance models advance =
      .ok (some (entry, f), last)) :
    ∃ before spec after, models = before ++ (entry, spec) :: after ∧
      (∀ x ∈ before, ¬ Suits p.heights p.settings o spot distance x.2) ∧
      Suits p.heights p.settings o spot distance spec ∧
      f = lotAt p.settings spot distance spec := by
  induction models generalizing advance with
  | nil => cases h
  | cons model rest ih =>
    obtain ⟨number, spec⟩ := model
    -- a model that does not suit is followed by those that are tried after it
    have skip {advance : α} (hnot : ¬ Suits p.heights p.settings o spot distance spec)
        (h : choose p o spot (spot.corner distance) distance rest advance =
          .ok (some (entry, f), last)) :
        ∃ before spec' after, (number, spec) :: rest = before ++ (entry, spec') :: after ∧
          (∀ x ∈ before, ¬ Suits p.heights p.settings o spot distance x.2) ∧
          Suits p.heights p.settings o spot distance spec' ∧
          f = lotAt p.settings spot distance spec' := by
      obtain ⟨before, spec', after, rfl, hbefore, hsuits⟩ := ih h
      refine ⟨(number, spec) :: before, spec', after, rfl, fun x hx => ?_, hsuits⟩
      rcases List.mem_cons.1 hx with rfl | hx
      · exact hnot
      · exact hbefore x hx
    unfold choose at h
    simp only at h
    split at h
    next hlong => exact skip (fun hsuits => hsuits.fits hlong) h
    next hfits =>
      obtain ⟨wet, hwet, h⟩ := bind_eq_ok.1 h
      have hcorners := onWater_cases hwet
      cases wet with
      | true =>
        obtain ⟨c, hc, hwater⟩ := hcorners
        refine skip (fun hsuits => ?_) h
        cases hwater.symm.trans (hsuits.dry c hc)
      | false =>
        simp only [Bool.false_eq_true, if_false] at h
        split at h
        next hblocked =>
          refine skip (fun hsuits => ?_) h
          cases hblocked.symm.trans hsuits.free
        next hfree =>
          cases h
          exact ⟨[], spec, rest, rfl, by simp, ⟨hfits, hcorners, eq_false_of_ne_true hfree⟩, rfl⟩

/-! ## Proposing a lot -/

/-- A building stands on the lot of its model at a distance along a side of a road, and its model is
the first one, counted from `first`, that suits the place. -/
structure Stands (heights : Grid α) (settings : LotSettings α) (o : Obstacles α) (spot : Spot α)
    (distance : α) (first entry : Nat) (f : Footprint α) : Prop where
  first_le : first ≤ entry
  earlier {k : Nat} {spec : LotSpec α} : first ≤ k → k < entry →
    settings.models[k]? = some spec → ¬ Suits heights settings o spot distance spec
  suits : ∃ spec, settings.models[entry]? = some spec ∧
    Suits heights settings o spot distance spec ∧ f = lotAt settings spot distance spec

/-- What is tried from a model on is tried in the order of the models. -/
theorem stands_of_drop {heights : Grid α} {settings : LotSettings α} {first entry : Nat}
    {f : Footprint α} {before after : List (Nat × LotSpec α)} {spec : LotSpec α}
    (h : (settings.models.zipIdx.map fun (spec, entry) => (entry, spec)).drop first =
      before ++ (entry, spec) :: after)
    (hbefore : ∀ x ∈ before, ¬ Suits heights settings o spot distance x.2)
    (hsuits : Suits heights settings o spot distance spec)
    (hf : f = lotAt settings spot distance spec) :
    Stands heights settings o spot distance first entry f := by
  have hget (i : Nat) : (before ++ (entry, spec) :: after)[i]? =
      settings.models[first + i]?.map (first + i, ·) := by
    rw [← h, List.getElem?_drop, List.getElem?_map, List.getElem?_zipIdx, Option.map_map]
    simp [Function.comp_def]
  have hentry := hget before.length
  rw [List.getElem?_append_right (Nat.le_refl _), Nat.sub_self, List.getElem?_cons_zero] at hentry
  obtain ⟨spec', hspec, hpair⟩ := Option.map_eq_some_iff.1 hentry.symm
  obtain ⟨rfl, rfl⟩ := Prod.mk.inj hpair
  refine ⟨Nat.le_add_right _ _, fun {k other} hk hlt hother => ?_, ⟨spec', hspec, hsuits, hf⟩⟩
  have hin : k - first < before.length := by omega
  have hk' := hget (k - first)
  rw [Nat.add_sub_cancel' hk, hother, List.getElem?_append_left hin] at hk'
  exact hbefore (k, other) (List.mem_of_getElem? hk')

/-- Chance changes nothing but the stream it is drawn from. -/
theorem boost_stream {highway : Bool} {factor : α} (h : p.boost highway = .ok (factor, q)) :
    ∃ stream, q = { p with stream } := by
  unfold boost at h
  simp only at h
  generalize (if highway = true then Scalar.min p.settings.highwayAdvantage p.settings.maxIncrease
    else (0 : α)) = least at h
  split at h
  · cases h
    exact ⟨_, rfl⟩
  · obtain ⟨⟨drawn, stream⟩, -, h⟩ := bind_eq_ok.1 h
    cases h
    exact ⟨stream, rfl⟩

theorem boost_frame {highway : Bool} {factor : α} (h : p.boost highway = .ok (factor, q)) :
    q.heights = p.heights ∧ q.densities = p.densities ∧ q.settings = p.settings := by
  obtain ⟨stream, rfl⟩ := boost_stream h
  exact ⟨rfl, rfl, rfl⟩

end Placement

namespace Site

open Placement

variable {s s' : Site α} {spot : Spot α} {distance : α}

/-- What is proposed at a place is the lot of the first model that suits it, from the model of the
density there on, which chance makes greater. -/
theorem propose_spec {found : Option (Nat × Footprint α)} {advance : α} {q : Placement α}
    (h : s.propose spot (spot.corner distance) distance = .ok ((found, advance), q)) :
    ∃ there factor, s.placement.densities.valueAt (spot.corner distance) = .ok there ∧
      s.placement.boost spot.highway = .ok (factor, q) ∧
      ∀ entry f, found = some (entry, f) →
        Stands s.placement.heights s.placement.settings s.obstacles spot distance
          (s.placement.settings.firstModel (there.getD 0 * factor)) entry f := by
  obtain ⟨there, hthere, h⟩ := bind_eq_ok.1 h
  obtain ⟨⟨factor, q'⟩, hboost, h⟩ := bind_eq_ok.1 h
  obtain ⟨⟨found', advance'⟩, hchoose, h⟩ := bind_eq_ok.1 h
  cases h
  obtain ⟨hheights, -, hsettings⟩ := boost_frame hboost
  refine ⟨there, factor, hthere, hboost, ?_⟩
  rintro entry f rfl
  obtain ⟨before, spec, after, hmodels, hbefore, hsuits, hf⟩ := choose_spec hchoose
  rw [hheights, hsettings] at hsuits hbefore
  rw [hsettings] at hmodels hf
  exact stands_of_drop hmodels hbefore hsuits hf

end Site

/-! ## Raising buildings -/

variable [Trigonometry α]

namespace Placement

/-- The side of a road that is on the left of a walk from one end to the other. -/
def sideSpot (settings : LotSettings α) (road : RoadId) (highway : Bool) (start finish : Vec2 α) :
    Spot α :=
  let along := (finish - start).divide (start.distance finish)
  ⟨road, highway, start, along, along.rotate 90.0, start.distance finish,
    if highway then settings.highwayClearance else settings.bywayClearance⟩

/-- The places along a side of a road of a network. -/
def Borders (settings : LotSettings α) (network : RoadNetwork α) (spot : Spot α) : Prop :=
  ∃ road start finish, network.road? spot.road = some road ∧
    (network.segment? spot.road = some ⟨start, finish⟩ ∨
      network.segment? spot.road = some ⟨finish, start⟩) ∧
    spot = sideSpot settings spot.road road.highway start finish

/-- A building is one that the placement puts up along a road of a network among some obstacles: the
first model that is tried is the one for the density at the corner of the lot, grown by a factor
that chance can give. -/
def Raises (p : Placement α) (network : RoadNetwork α) (o : Obstacles α) (b : PlacedBuilding α) :
    Prop :=
  ∃ (spot : Spot α) (distance factor : α) (there : Option α) (q q' : Placement α),
    Borders p.settings network spot ∧ b.road = spot.road ∧ b.origin = spot.corner distance ∧
      p.densities.valueAt b.origin = .ok there ∧
      q.settings = p.settings ∧ q.boost spot.highway = .ok (factor, q') ∧
      Stands p.heights p.settings o spot distance
        (p.settings.firstModel (there.getD 0 * factor)) b.entry b.footprint ∧
      p.settings.models[b.entry]?.map (·.ruleSet) = some b.ruleSet

end Placement

namespace Site

open Placement

variable {p : Placement α} {network : RoadNetwork α} {o₀ : Obstacles α} {s s' : Site α}
  {spot : Spot α} {distance : α}

/-! ### Walks -/

/-- One place of a walk: a building is put on the lot that is proposed there, if there is one, and
the walk goes on behind what was tried last. -/
theorem step_cases {next : α} (h : s.step spot distance = ((s', none), next)) :
    ∃ found advance q, s.propose spot (spot.corner distance) distance = .ok ((found, advance), q) ∧
      next = distance + (advance + q.settings.spacing) ∧
      match found with
      | none => { s with placement := q } = s'
      | some (entry, f) =>
        putBuilding { s with placement := q } spot (spot.corner distance) entry f = (s', none) := by
  unfold Site.step at h
  simp only at h
  split at h
  · cases h
  next found advance q hpropose =>
    split at h
    · cases h
      exact ⟨none, advance, q, hpropose, rfl, rfl⟩
    next entry f =>
      obtain ⟨hput, hnext⟩ := Prod.mk.inj h
      exact ⟨some (entry, f), advance, q, hpropose, hnext.symm, hput⟩

/-- What is carried along the roads of a network: the walks begin with it, and each place that they
come to keeps what holds of the site and of the distance. -/
structure Carried (settings : LotSettings α) (network : RoadNetwork α) (P : Site α → Prop)
    (D : α → Prop) : Prop where
  same {s : Site α} : P s → s.placement.settings = settings
  begins : D settings.spacing
  step {s s' : Site α} {spot : Spot α} {distance next : α} : P s → Borders settings network spot →
    D distance → distance < spot.length → s.step spot distance = ((s', none), next) → P s' ∧ D next

namespace Carried

variable {settings : LotSettings α} {P : Site α → Prop} {D : α → Prop}

theorem walk (hc : Carried settings network P D) (h : P s) (hspot : Borders settings network spot)
    {fuel : Nat} (hdistance : D distance) (hwalk : walk spot fuel distance s = (s', none)) :
    P s' := by
  induction fuel generalizing distance s with
  | zero => cases hwalk
  | succ fuel ih =>
    unfold Site.walk at hwalk
    split at hwalk
    next hlt =>
      split at hwalk
      next reached next hstep =>
        obtain ⟨hreached, hnext⟩ := hc.step h hspot hdistance hlt hstep
        exact ih hreached hnext hwalk
      · cases hwalk
    · cases hwalk
      exact h

theorem lineSide (hc : Carried settings network P D) (h : P s) {id : RoadId} {road : Road α}
    (hroad : network.road? id = some road) {start finish : Vec2 α}
    (hends : network.segment? id = some ⟨start, finish⟩ ∨
      network.segment? id = some ⟨finish, start⟩)
    (hside : s.lineSide id road.highway start finish = (s', none)) : P s' := by
  unfold Site.lineSide at hside
  simp only [hc.same h] at hside
  split at hside
  · cases hside
    exact h
  · exact hc.walk h ⟨road, start, finish, hroad, hends, rfl⟩ hc.begins hside

theorem lineRoad (hc : Carried settings network P D) (h : P s) {id : RoadId} {road : Road α}
    (hroad : network.road? id = some road)
    (hline : lineRoad network s id road.highway = (s', none)) : P s' := by
  unfold Site.lineRoad at hline
  split at hline
  · cases hline
    exact h
  next ends hends =>
    split at hline
    next reached hfirst =>
      exact hc.lineSide (hc.lineSide h hroad (.inl hends) hfirst) hroad (.inr hends) hline
    next hstopped => exact absurd hline (hstopped s')

theorem lineRoads (hc : Carried settings network P D) (h : P s) {roads : List (RoadId × Road α)}
    (hroads : ∀ x ∈ roads, network.road? x.1 = some x.2)
    (hlines : lineRoads network roads s = (s', none)) : P s' := by
  induction roads generalizing s with
  | nil =>
    cases hlines
    exact h
  | cons x rest ih =>
    unfold Site.lineRoads at hlines
    split at hlines
    next reached hline =>
      exact ih (hc.lineRoad h (hroads x List.mem_cons_self) hline)
        (fun y hy => hroads y (List.mem_cons_of_mem x hy)) hlines
    next hstopped => exact absurd hlines (hstopped s')

/-- What holds before any building is put up and is carried along the roads holds in the end. -/
theorem place {p : Placement α} (hc : Carried p.settings network P D) {o : Obstacles α}
    {workshop : Workshop α} (h : P ⟨p, o, workshop, #[]⟩)
    (hplace : p.place network o workshop = (s', none)) : P s' := by
  unfold Placement.place at hplace
  split at hplace
  · cases hplace
    exact h
  · exact hc.lineRoads h (fun x hx => RoadNetwork.mem_roads.1 hx) hplace

end Carried

/-! ### Sound sites -/

/-- The lots of the buildings, in the order in which they were put up. -/
def footprints {α : Type} (s : Site α) : List (Footprint α) := s.placed.toList.map (·.footprint)

/-- What a site has come to since the placement began with some obstacles: the maps and settings are
the same, the obstacles are the lots of its buildings besides, and every building was raised among
the lots of those before it. -/
structure Sound (p : Placement α) (network : RoadNetwork α) (o₀ : Obstacles α) (s : Site α) :
    Prop where
  heights : s.placement.heights = p.heights
  densities : s.placement.densities = p.densities
  settings : s.placement.settings = p.settings
  obstacles : s.obstacles = o₀.reserveAll s.footprints
  raised {j : Nat} {b : PlacedBuilding α} : s.placed[j]? = some b →
    p.Raises network (o₀.reserveAll (s.footprints.take j)) b

/-- Deriving a building changes only what was derived and drawn. -/
theorem building_frame {entry copy : Nat} {spec : LotSpec α} {b : Building α}
    (h : s.building entry spec = (.ok (copy, b), s')) :
    s'.placement.heights = s.placement.heights ∧ s'.placement.densities = s.placement.densities ∧
      s'.placement.settings = s.placement.settings ∧ s'.obstacles = s.obstacles ∧
      s'.placed = s.placed := by
  unfold building at h
  simp only at h
  split at h
  · split at h
    · cases h
    · split at h
      · cases h
        exact ⟨rfl, rfl, rfl, rfl, rfl⟩
      · cases h
  · split at h
    · cases h
    · cases h
      exact ⟨rfl, rfl, rfl, rfl, rfl⟩

/-- A building that is put on a lot is one more, and its lot is one more obstacle. -/
theorem putBuilding_cases {corner : Vec2 α} {entry : Nat} {f : Footprint α}
    (h : s.putBuilding spot corner entry f = (s', none)) :
    ∃ b, b.road = spot.road ∧ b.origin = corner ∧ b.entry = entry ∧ b.footprint = f ∧
      s.placement.settings.models[entry]?.map (·.ruleSet) = some b.ruleSet ∧
      s'.placement.heights = s.placement.heights ∧
      s'.placement.densities = s.placement.densities ∧
      s'.placement.settings = s.placement.settings ∧
      s'.obstacles = s.obstacles.reserve f ∧ s'.placed = s.placed.push b := by
  unfold putBuilding at h
  split at h
  · cases h
  next spec hspec =>
    split at h
    · cases h
    next copy built derived hbuilding =>
      obtain ⟨hheights, hdensities, hsettings, hobstacles, hplaced⟩ := building_frame hbuilding
      cases h
      refine ⟨⟨spec.ruleSet, corner, f, spot.along.angle, derived.placement.settings.scale,
        spot.road, entry, copy, built⟩, rfl, rfl, rfl, rfl, ?_, hheights, hdensities, hsettings,
        ?_, ?_⟩
      · rw [hspec]
        rfl
      · rw [hobstacles]
      · rw [hplaced]

theorem Sound.of_raises (h : s.Sound p network o₀) {b : PlacedBuilding α}
    (hraises : p.Raises network s.obstacles b) (hheights : s'.placement.heights = p.heights)
    (hdensities : s'.placement.densities = p.densities)
    (hsettings : s'.placement.settings = p.settings)
    (hobstacles : s'.obstacles = s.obstacles.reserve b.footprint)
    (hplaced : s'.placed = s.placed.push b) : s'.Sound p network o₀ := by
  have hfootprints : s'.footprints = s.footprints ++ [b.footprint] := by
    simp [footprints, hplaced]
  have hlength : s.footprints.length = s.placed.size := by simp [footprints]
  refine ⟨hheights, hdensities, hsettings, ?_, fun {j c} hc => ?_⟩
  · rw [hobstacles, hfootprints, Obstacles.reserveAll_append, ← h.obstacles]
    rfl
  · rw [hplaced, Array.getElem?_push] at hc
    split at hc
    next hj =>
      cases hc
      rw [hfootprints, hj, ← hlength, List.take_left, ← h.obstacles]
      exact hraises
    next hj =>
      have hlt : j < s.placed.size := (Array.getElem?_eq_some_iff.1 hc).1
      rw [hfootprints, List.take_append_of_le_length (by omega)]
      exact h.raised hc

/-- One place of a walk along a road adds a building that is raised among the others, or none. -/
theorem Sound.step (h : s.Sound p network o₀) (hspot : Borders p.settings network spot) {next : α}
    (hstep : s.step spot distance = ((s', none), next)) : s'.Sound p network o₀ := by
  obtain ⟨found, advance, q, hpropose, -, hput⟩ := step_cases hstep
  obtain ⟨there, factor, hthere, hboost, hstands⟩ := propose_spec hpropose
  obtain ⟨hheights, hdensities, hsettings⟩ := boost_frame hboost
  rw [h.heights] at hheights
  rw [h.densities] at hdensities
  rw [h.settings] at hsettings
  cases found with
  | none =>
    cases hput
    exact ⟨hheights, hdensities, hsettings, h.obstacles, h.raised⟩
  | some lot =>
    obtain ⟨entry, f⟩ := lot
    obtain ⟨b, hroad, horigin, rfl, rfl, hrules, hheights', hdensities', hsettings', hobstacles,
      hplaced⟩ := putBuilding_cases hput
    have hraises : p.Raises network s.obstacles b := by
      refine ⟨spot, distance, factor, there, s.placement, q, hspot, hroad, horigin, ?_,
        h.settings, hboost, ?_, ?_⟩
      · rw [horigin, ← h.densities]
        exact hthere
      · rw [← h.heights, ← h.settings]
        exact hstands b.entry b.footprint rfl
      · rw [← hsettings]
        exact hrules
    exact h.of_raises hraises (hheights'.trans hheights) (hdensities'.trans hdensities)
      (hsettings'.trans hsettings) hobstacles hplaced

theorem Sound.carried (p : Placement α) (network : RoadNetwork α) (o₀ : Obstacles α) :
    Carried p.settings network (Sound p network o₀) fun _ => True where
  same h := h.settings
  begins := trivial
  step h hspot _ _ hstep := ⟨h.step hspot hstep, trivial⟩

theorem Sound.lineRoads (h : s.Sound p network o₀) {roads : List (RoadId × Road α)}
    (hroads : ∀ x ∈ roads, network.road? x.1 = some x.2)
    (hlines : lineRoads network roads s = (s', none)) : s'.Sound p network o₀ :=
  (Sound.carried p network o₀).lineRoads h hroads hlines

end Site

/-! ## All buildings -/

namespace Placement

open Scalar

/-- What is said of a building that came to stand among some obstacles, after some lots: it was
raised there along a live road, on land, and in the surroundings that reach as far as the obstacles
it meets no other road and overlaps none of the lots; and they reach far enough. -/
structure Clear (p : Placement α) (network : RoadNetwork α) (o : Obstacles α)
    (earlier : List (Footprint α)) (b : PlacedBuilding α) : Prop where
  raised : p.Raises network o b
  live : ∃ road, network.road? b.road = some road
  dry {c : Vec2 α} : c ∈ b.footprint.corners →
    ∃ height, p.heights.valueAt c = .ok (some height) ∧ (height == 0) = false
  roads {id : RoadId} {s : Segment α} : network.segment? id = some s → id ≠ b.road →
    (b.footprint.bounds.inflate o.reach).Encloses s.middle → b.footprint.meets s = false
  lots {f : Footprint α} : f ∈ earlier →
    (b.footprint.bounds.inflate o.reach).Encloses f.centre → b.footprint.overlaps f = false
  road_reach {id : RoadId} {s : Segment α} : network.segment? id = some s →
    IsNumber (s.start.distance s.finish / 2.0) → s.start.distance s.finish / 2.0 ≤ o.reach
  lot_reach {f : Footprint α} {c : Vec2 α} : f ∈ earlier → c ∈ f.corners →
    IsNumber (c.distance f.centre) → c.distance f.centre ≤ o.reach

omit [Trigonometry α] in
/-- What is not water is in the map. -/
theorem valueAt_of_isWater {heights : Grid α} {c : Vec2 α} (h : heights.isWater c = .ok false) :
    ∃ height, heights.valueAt c = .ok (some height) ∧ (height == 0) = false := by
  obtain ⟨value, hvalue, h⟩ := bind_eq_ok.1 h
  cases value with
  | none => cases h
  | some height => exact ⟨height, hvalue, Except.ok.inj h⟩

variable {p : Placement α} {network : RoadNetwork α} {o : Obstacles α}
  {earlier : List (Footprint α)} {b : PlacedBuilding α}

/-- A building that is raised among obstacles is clear of all that they know. -/
theorem Raises.clear [Total α] (h : p.Raises network o b)
    (hknows : o.Knows fun id s => network.segment? id = some s) (hlots : o.lots.toList = earlier) :
    Clear p network o earlier b := by
  have hraised := h
  obtain ⟨spot, distance, factor, there, q, q', ⟨road, start, finish, hroad, -⟩, hspot, -, -, -, -,
    hstands, -⟩ := h
  obtain ⟨spec, -, hsuits, hf⟩ := hstands.suits
  have hdry := hsuits.dry
  have hfree := hsuits.free
  rw [← hf] at hdry hfree
  rw [← hspot] at hroad hfree
  have hkept {f : Footprint α} (hmem : f ∈ earlier) : ∃ i : Nat, o.lots[i]? = some f := by
    rw [← hlots, List.mem_iff_getElem?] at hmem
    simpa using hmem
  constructor
  · exact hraised
  · exact ⟨road, hroad⟩
  · exact fun hc => valueAt_of_isWater (hdry _ hc)
  · exact fun hs hne hnear => hknows.not_meets hfree hs hne hnear
  · intro f hmem hnear
    obtain ⟨i, hi⟩ := hkept hmem
    exact hknows.not_overlaps hfree hi hnear
  · exact hknows.road_reach
  · intro f c hmem hc hnumber
    obtain ⟨i, hi⟩ := hkept hmem
    exact hknows.lot_reach hi hc hnumber

/-- When all roads of a network are lined, from the obstacles that are its roads, then the lots are
those of the buildings in order, and every building is clear of the roads and of the lots of those
before it. -/
theorem place_clear [Total α] (p : Placement α) (network : RoadNetwork α) (bounds : Rect α)
    (capacity : Nat) (workshop : Workshop α) {s : Site α}
    (h : p.place network (.ofNetwork network bounds capacity) workshop = (s, none)) :
    s.obstacles.lots.toList = s.footprints ∧ ∀ (j : Nat) (b : PlacedBuilding α),
      s.placed[j]? = some b →
        Clear p network
          ((Obstacles.ofNetwork network bounds capacity).reserveAll (s.footprints.take j))
          (s.footprints.take j) b := by
  let o₀ := Obstacles.ofNetwork network bounds capacity
  have hlots (l : List (Footprint α)) : (o₀.reserveAll l).lots.toList = l := by
    rw [Obstacles.lots_reserveAll, Obstacles.lots_ofNetwork]
    rfl
  have hbare : Site.Sound p network o₀ ⟨p, o₀, workshop, #[]⟩ :=
    ⟨rfl, rfl, rfl, rfl, fun hb => by simp at hb⟩
  have hsound : s.Sound p network o₀ := by
    unfold place at h
    split at h
    · cases h
      exact hbare
    · exact hbare.lineRoads (fun x hx => RoadNetwork.mem_roads.1 hx) h
  refine ⟨?_, fun j b hb => ?_⟩
  · rw [hsound.obstacles]
    exact hlots _
  · have hknows := (Obstacles.knows_ofNetwork network bounds capacity).reserveAll
      (s.footprints.take j)
    exact (hsound.raised hb).clear hknows (hlots _)

/-! ## Huts along a road -/

/-- Trigonometry with the sine and cosine of a right angle in place of those of any angle; no other
turns are made along roads. -/
@[reducible]
def rightAngles : Trigonometry Float32 where
  degree := Float32.ofBits 0x3c8efa35
  turn := Float32.ofBits 0x40c90fdb
  sin _ := 1
  cos _ := Float32.ofBits 0xb33bbd2e
  tan := Float32.tan
  atan2 := Float32.atan2
  pow := Float32.pow

def roadOnLand : RoadNetwork Float32 := .ofRoad ⟨⟨1, 4⟩, ⟨4, 4⟩⟩ []

/-- Huts are to be put up on eight by eight cells of land. -/
def huts : Placement Float32 :=
  .start ⟨8, 8, .replicate _ 1⟩ ⟨8, 8, .replicate _ 1⟩
    { LotSettings.standard with models := [⟨"hut", ⟨4, 4⟩⟩], thresholds := [], maxIncrease := 0 }

def hutWorkshop : Workshop Float32 :=
  (Workshop.ofSeed 7).register ⟨"hut", some (.ofBox (some "hut") ⟨0, 0⟩), []⟩

/-- A hut finds its place on either side of the road. -/
theorem place_clear_huts :
    letI := rightAngles
    let obstacles : Obstacles Float32 := .ofNetwork roadOnLand ⟨⟨0, 0⟩, ⟨8, 8⟩⟩ 4
    ∃ s, huts.place roadOnLand obstacles hutWorkshop = (s, none) ∧ s.placed.size = 2 ∧
      s.obstacles.lots.toList = s.footprints ∧ ∀ j b, s.placed[j]? = some b →
        Clear huts roadOnLand (obstacles.reserveAll (s.footprints.take j))
          (s.footprints.take j) b := by
  let := rightAngles
  let obstacles : Obstacles Float32 := .ofNetwork roadOnLand ⟨⟨0, 0⟩, ⟨8, 8⟩⟩ 4
  have hdone : (huts.place roadOnLand obstacles hutWorkshop).2.isNone ∧
      (huts.place roadOnLand obstacles hutWorkshop).1.placed.size = 2 := by
    decide +kernel
  have h : huts.place roadOnLand obstacles hutWorkshop =
      ((huts.place roadOnLand obstacles hutWorkshop).1, none) :=
    Prod.ext rfl (Option.isNone_iff_eq_none.1 hdone.1)
  obtain ⟨hlots, hclear⟩ := place_clear huts roadOnLand ⟨⟨0, 0⟩, ⟨8, 8⟩⟩ 4 hutWorkshop h
  exact ⟨_, h, hdone.2, hlots, hclear⟩

end Placement

end Cityscape
