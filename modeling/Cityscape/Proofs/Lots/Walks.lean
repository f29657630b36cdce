import Cityscape.City.Settings
import Cityscape.Proofs.Grid
import Cityscape.Proofs.Lots.Along
import Cityscape.Proofs.Random.Draws
import Cityscape.Proofs.Scalar.Steps

/-!
# Walks that end

A walk along a side of a road goes on by a lot and a gap, or by two gaps when no model was tried,
and both are whatever the settings say. A walk ends when every such step is longer than a 2²³rd of
all distances that it comes to, and it meets no fault when the factors by which densities grow can
be drawn and both maps have a cell. A step that is lost in rounding keeps a walk where it is for
ever, and factors from an interval of infinite width cannot be drawn; settings may ask for both.

## Main definitions

* `LotSettings.Advances`, `LotSettings.Draws` — steps that lead on, factors that can be drawn.
* `LotSettings.LinesRoad` — both, for the two sides of a road.
* `Workshop.IsFaultless`, `Workshop.Refuses` — what rule sets make of the models.
* `Site.Returns` — a walk came to its end, a derivation refused, or a draw does not end.

## Main statements

* `Site.step_returns`, `Site.step_lt` — one place of a walk.
* `Site.walk_returns` — a walk along one side of a road.
* `Placement.place_returns` — walks along all roads.
* `Site.step_badInterval`, `Site.step_idle`, `Site.walk_endless` — places that cannot be tried, and
  places that walks do not leave.
* `Placement.place_stops` — settings with such places.
-/

namespace Cityscape

open Placement Single

/-! ## Settings -/

namespace LotSettings

/-- How far what was tried last at a place can extend: as far as the lot of a model does, or as a
gap when there can be no model to try. -/
def advances (settings : LotSettings Float32) : List Float32 :=
  settings.models.map (fun spec => (lotSize settings spec).x) ++
    if settings.models.length ≤ settings.thresholds.length then [settings.spacing] else []

/-- Every step along a road of some length is longer than a 2²³rd of all distances from the first
place to the end of the road. -/
def Advances (settings : LotSettings Float32) (length : Float32) : Prop :=
  ∀ advance ∈ settings.advances,
    ¬ advance + settings.spacing ≤ Scalar.max length (-settings.spacing) / 8388608

/-- The factors by which densities grow along a highway or a byway can be drawn, unless there is
only one. -/
def Draws (settings : LotSettings Float32) (highway : Bool) : Prop :=
  let least := if highway then Scalar.min settings.highwayAdvantage settings.maxIncrease else 0
  ¬ settings.maxIncrease ≤ least →
    least < settings.maxIncrease ∧ Scalar.isFinite (settings.maxIncrease - least) = true

/-- A road of some length can be lined, unless it ends before its first place. -/
def Lines (settings : LotSettings Float32) (highway : Bool) (length : Float32) : Prop :=
  settings.spacing < length → settings.Draws highway ∧ settings.Advances length

/-- Both sides of a road of a network can be lined. -/
def LinesRoad (settings : LotSettings Float32) (network : RoadNetwork Float32)
    (x : RoadId × Road Float32) : Prop :=
  ∀ ends ∈ network.segment? x.1,
    settings.Lines x.2.highway (ends.start.distance ends.finish) ∧
      settings.Lines x.2.highway (ends.finish.distance ends.start)

instance (settings : LotSettings Float32) (length : Float32) :
    Decidable (settings.Advances length) :=
  inferInstanceAs (Decidable (∀ advance ∈ settings.advances, ¬ _))

instance (settings : LotSettings Float32) (highway : Bool) : Decidable (settings.Draws highway) :=
  inferInstanceAs (Decidable (¬ _ → _ ∧ _))

instance (settings : LotSettings Float32) (highway : Bool) (length : Float32) :
    Decidable (settings.Lines highway length) :=
  inferInstanceAs (Decidable (_ → _ ∧ _))

instance (settings : LotSettings Float32) (network : RoadNetwork Float32)
    (x : RoadId × Road Float32) : Decidable (settings.LinesRoad network x) :=
  inferInstanceAs (Decidable (∀ ends ∈ network.segment? x.1, _ ∧ _))

section

variable {α : Type} [Scalar α]

/-- A density below all bands falls behind the last one. -/
theorem firstModel_eq {settings : LotSettings α} {density : α}
    (h : ∀ threshold ∈ settings.thresholds, ¬ 1 - threshold < density) :
    settings.firstModel density = settings.thresholds.length := by
  have hband (thresholds : List α) (upper : Option α)
      (h : ∀ threshold ∈ thresholds, ¬ 1 - threshold < density) :
      bandOf density thresholds upper = thresholds.length := by
    induction thresholds generalizing upper with
    | nil => rfl
    | cons threshold rest ih =>
      unfold bandOf
      dsimp only
      rw [if_neg fun hlt => h threshold List.mem_cons_self hlt.1,
        ih _ fun t ht => h t (List.mem_cons_of_mem threshold ht)]
      rfl
  exact hband settings.thresholds none h

/-- No density falls into a band behind the last one. -/
theorem firstModel_le (settings : LotSettings α) (density : α) :
    settings.firstModel density ≤ settings.thresholds.length := by
  have hband (thresholds : List α) (upper : Option α) :
      bandOf density thresholds upper ≤ thresholds.length := by
    induction thresholds generalizing upper with
    | nil => exact Nat.le_refl 0
    | cons threshold rest ih =>
      unfold bandOf
      dsimp only
      split
      · exact Nat.zero_le _
      · exact Nat.succ_le_succ (ih _)
  exact hband settings.thresholds none

end

end LotSettings

/-! ## What happens at a place -/

namespace Placement

variable {p : Placement Float32}

theorem exists_onWater {heights : Grid Float32} (h : heights.HasCell)
    (corners : List (Vec2 Float32)) : ∃ wet, onWater heights corners = .ok wet := by
  induction corners with
  | nil => exact ⟨false, rfl⟩
  | cons c rest ih =>
    obtain ⟨water, hwater⟩ := Grid.exists_isWater h c
    rw [onWater, hwater]
    cases water with
    | true => exact ⟨true, rfl⟩
    | false => exact ih

theorem exists_choose (h : p.heights.HasCell) (o : Obstacles Float32) (spot : Spot Float32)
    (corner : Vec2 Float32) (distance : Float32) (models : List (Nat × LotSpec Float32))
    (advance : Float32) : ∃ r, choose p o spot corner distance models advance = .ok r := by
  induction models generalizing advance with
  | nil => exact ⟨_, rfl⟩
  | cons model rest ih =>
    obtain ⟨entry, spec⟩ := model
    obtain ⟨wet, hwet⟩ := exists_onWater h (Footprint.ofSides corner spot.along spot.side
      (spec.lot.scale p.settings.scale)).corners
    unfold choose
    simp only [hwet, bind, Except.bind]
    split
    · exact ih _
    · split
      · exact ih _
      · split
        · exact ih _
        · exact ⟨_, rfl⟩

/-- How far what was tried last extends is how far the lot of one of the models that were tried
does, if there were any. -/
theorem choose_advance_of_ne_nil {α : Type} [Scalar α] {p : Placement α} {o : Obstacles α}
    {spot : Spot α} {corner : Vec2 α} {distance advance last : α}
    {models : List (Nat × LotSpec α)} {found : Option (Nat × Footprint α)} (hne : models ≠ [])
    (h : choose p o spot corner distance models advance = .ok (found, last)) :
    ∃ model ∈ models, last = (lotSize p.settings model.2).x := by
  cases models with
  | nil => exact absurd rfl hne
  | cons model rest =>
    -- what is given to start with does not matter
    have hstart : choose p o spot corner distance (model :: rest) advance =
        choose p o spot corner distance (model :: rest) (lotSize p.settings model.2).x := by
      rw [choose, choose]
    obtain rfl | hlast := choose_advance (hstart.symm.trans h)
    · exact ⟨model, List.mem_cons_self, rfl⟩
    · exact hlast

/-- The factor can be drawn, or its draw does not come to an end. -/
theorem boost_flawless {highway : Bool} (h : p.settings.Draws highway) :
    (∃ r, p.boost highway = .ok r) ∨
      p.boost highway = .error .endless ∧ p.stream.Starves := by
  unfold boost
  dsimp only
  unfold LotSettings.Draws at h
  dsimp only at h
  generalize (if highway = true then Scalar.min p.settings.highwayAdvantage p.settings.maxIncrease
    else (0 : Float32)) = least at h ⊢
  split
  · exact .inl ⟨_, rfl⟩
  next hmost =>
    have hdraw := RandomStream.below_flawless (h hmost) p.stream
    cases hbelow : p.stream.below least p.settings.maxIncrease with
    | ok r => exact .inl ⟨_, rfl⟩
    | error fault =>
      rw [hbelow] at hdraw
      cases hdraw
      exact .inr ⟨rfl, .inr ⟨least, _, h hmost, hbelow⟩⟩

end Placement

namespace Workshop

variable [Trigonometry Float32]

theorem generate_ruleSets (w : Workshop Float32) (name : String) (lot : Vec2 Float32) :
    (w.generate name lot).2.ruleSets = w.ruleSets := by
  unfold generate
  dsimp only
  split
  · rfl
  · split
    · rfl
    · split <;> rfl

/-- Whatever was derived before, deriving a building for a model gives one or refuses. -/
def IsFaultless (w : Workshop Float32) (settings : LotSettings Float32) : Prop :=
  ∀ w' : Workshop Float32, w'.ruleSets = w.ruleSets → ∀ spec ∈ settings.models,
    ∀ fault, (w'.generate spec.ruleSet spec.lot).1 ≠ .error (.fault fault)

/-- The rule sets refuse to derive a building for one of the models. -/
def Refuses (w : Workshop Float32) (settings : LotSettings Float32)
    (error : Grammar.GrammarError Float32) : Prop :=
  ∃ w' : Workshop Float32, w'.ruleSets = w.ruleSets ∧ ∃ spec ∈ settings.models,
    (w'.generate spec.ruleSet spec.lot).1 = .error (.refused error)

end Workshop

namespace Site

variable {p : Placement Float32} {workshop : Workshop Float32} {s : Site Float32}
  {spot : Spot Float32} {distance : Float32}

theorem propose_flawless (s : Site Float32) (hheights : s.placement.heights.HasCell)
    (hdensities : s.placement.densities.HasCell) (hdraws : s.placement.settings.Draws spot.highway)
    (corner : Vec2 Float32) (distance : Float32) :
    (∃ r, s.propose spot corner distance = .ok r) ∨
      s.propose spot corner distance = .error .endless ∧ s.placement.stream.Starves := by
  obtain ⟨there, hthere⟩ := Grid.exists_valueAt hdensities corner
  unfold propose
  simp only [hthere, bind, Except.bind]
  obtain ⟨⟨factor, q⟩, hboost⟩ | ⟨hboost, hstarves⟩ := boost_flawless hdraws
  · obtain ⟨hq, -, -⟩ := boost_frame hboost
    obtain ⟨r, hchoose⟩ := exists_choose (p := q) (hq ▸ hheights) s.obstacles spot corner distance
      ((q.settings.models.zipIdx.map fun (spec, entry) => (entry, spec)).drop
        (q.settings.firstModel (there.getD 0 * factor))) q.settings.spacing
    left
    simp only [hboost, hchoose]
    exact ⟨_, rfl⟩
  · right
    simp only [hboost]
    exact ⟨trivial, hstarves⟩

/-- How far what is tried last at a place extends. -/
theorem propose_mem_advances {corner : Vec2 Float32} {found : Option (Nat × Footprint Float32)}
    {advance : Float32} {q : Placement Float32}
    (h : s.propose spot corner distance = .ok ((found, advance), q)) :
    q.settings = s.placement.settings ∧ advance ∈ s.placement.settings.advances := by
  obtain ⟨there, -, h⟩ := bind_eq_ok.1 h
  obtain ⟨⟨factor, q'⟩, hboost, h⟩ := bind_eq_ok.1 h
  obtain ⟨⟨found', advance'⟩, hchoose, h⟩ := bind_eq_ok.1 h
  cases h
  obtain ⟨-, -, hsettings⟩ := boost_frame hboost
  refine ⟨hsettings, ?_⟩
  rw [hsettings] at hchoose
  rw [LotSettings.advances, List.mem_append]
  set settings := s.placement.settings with hset
  set first := settings.firstModel (there.getD 0 * factor) with hfirst
  by_cases hlength : settings.models.length ≤ first
  · right
    have hnil : (settings.models.zipIdx.map fun (spec, entry) => (entry, spec)).drop first = [] :=
      List.drop_eq_nil_of_le (by simpa using hlength)
    rw [hnil] at hchoose
    cases hchoose
    rw [if_pos (hlength.trans (settings.firstModel_le _))]
    exact List.mem_singleton_self _
  · left
    have hne : (settings.models.zipIdx.map fun (spec, entry) => (entry, spec)).drop first ≠ [] := by
      simpa using hlength
    obtain ⟨model, hmem, rfl⟩ := choose_advance_of_ne_nil hne hchoose
    obtain ⟨⟨spec, entry⟩, hspec, rfl⟩ := List.mem_map.1 (List.mem_of_mem_drop hmem)
    refine List.mem_map.2 ⟨spec, (List.mem_zipIdx' hspec).2 ▸ List.getElem_mem _, ?_⟩
    rw [hsettings]

variable [Trigonometry Float32]

/-- What the placement does not change: the maps, the settings and the rule sets. -/
structure Keeps (p : Placement Float32) (workshop : Workshop Float32) (s : Site Float32) :
    Prop where
  heights : s.placement.heights = p.heights
  densities : s.placement.densities = p.densities
  settings : s.placement.settings = p.settings
  ruleSets : s.workshop.ruleSets = workshop.ruleSets

/-- A walk came to its end, or the rule sets refused to derive a building for a model, or the stream
has come to a draw that does not end. -/
inductive Returns (settings : LotSettings Float32) (workshop : Workshop Float32)
    (P : Site Float32 → Prop) : Walk Float32 → Prop
  | done {s : Site Float32} (h : P s) : Returns settings workshop P (s, none)
  | refused {s : Site Float32} {error : Grammar.GrammarError Float32}
      (h : workshop.Refuses settings error) : Returns settings workshop P (s, some (.refused error))
  | starved {s : Site Float32} (h : s.placement.stream.Starves) :
      Returns settings workshop P (s, some (.fault .endless))

theorem putBuilding_returns (hs : s.Keeps p workshop) (hworkshop : workshop.IsFaultless p.settings)
    {entry : Nat} {spec : LotSpec Float32} (hspec : p.settings.models[entry]? = some spec)
    (corner : Vec2 Float32) (f : Footprint Float32) :
    Returns p.settings workshop (Keeps p workshop) (s.putBuilding spot corner entry f) := by
  have hmem : spec ∈ p.settings.models := List.mem_of_getElem? hspec
  unfold putBuilding
  rw [hs.settings, hspec]
  dsimp only
  unfold building
  dsimp only
  by_cases hcached : Max.max s.placement.settings.cacheSize 1 ≤
      (s.placement.cache.getD entry #[]).size
  · rw [if_pos hcached]
    have hpos : 0 < (s.placement.cache.getD entry #[]).size := by omega
    have hpick := RandomStream.pick_flawless hpos s.placement.stream
    cases hdraw : s.placement.stream.pick (s.placement.cache.getD entry #[]).size with
    | error fault =>
      rw [hdraw] at hpick
      cases hpick
      exact .starved (.inl ⟨_, hpos, hdraw⟩)
    | ok r =>
      rw [hdraw] at hpick
      obtain ⟨copy, stream⟩ := r
      cases hpick with
      | ok hlt =>
        simp only [Array.getElem?_eq_getElem hlt]
        exact .done ⟨hs.heights, hs.densities, hs.settings, hs.ruleSets⟩
  · rw [if_neg hcached]
    have hkept := s.workshop.generate_ruleSets spec.ruleSet spec.lot
    have hrefuses := hworkshop s.workshop hs.ruleSets spec hmem
    cases hgenerate : s.workshop.generate spec.ruleSet spec.lot with
    | mk result w' =>
      rw [hgenerate] at hkept hrefuses
      cases result with
      | ok b => exact .done ⟨hs.heights, hs.densities, hs.settings, hkept.trans hs.ruleSets⟩
      | error stop =>
        cases stop with
        | refused error =>
          exact .refused ⟨s.workshop, hs.ruleSets, spec, hmem, congrArg Prod.fst hgenerate⟩
        | fault fault => exact absurd rfl (hrefuses fault)

/-- The next place lies ahead. -/
theorem step_lt {s' : Site Float32} {next : Float32} (hs : s.Keeps p workshop)
    (hadvances : p.settings.Advances spot.length) (hlow : p.settings.spacing ≤ distance)
    (hlt : distance < spot.length) (h : s.step spot distance = ((s', none), next))
    (hnext : next < spot.length) : distance < next := by
  obtain ⟨found, advance, q, hpropose, rfl, -⟩ := step_cases h
  obtain ⟨hsettings, hmem⟩ := propose_mem_advances hpropose
  rw [hsettings, hs.settings] at hnext ⊢
  rw [hs.settings] at hmem
  exact lt_add_of_between hlow hlt (hadvances advance hmem)
    (Scalar.Total.isNumber_of_le (Scalar.Ordered.le_of_lt hnext)).1

section

variable (hworkshop : workshop.IsFaultless p.settings) (hheights : p.heights.HasCell)
  (hdensities : p.densities.HasCell)

include hworkshop hheights hdensities

/-- One place of a walk. -/
theorem step_returns (hs : s.Keeps p workshop)
    (hdraws : p.settings.Draws spot.highway) (distance : Float32) :
    Returns p.settings workshop (Keeps p workshop) (s.step spot distance).1 := by
  have hpropose := s.propose_flawless (hs.heights ▸ hheights) (hs.densities ▸ hdensities)
    (hs.settings ▸ hdraws) (spot.corner distance) distance
  unfold Site.step
  dsimp only
  obtain ⟨⟨⟨found, advance⟩, q⟩, hok⟩ | ⟨herror, hstarves⟩ := hpropose
  · obtain ⟨there, factor, -, hboost, hstands⟩ := propose_spec hok
    obtain ⟨hqheights, hqdensities, hqsettings⟩ := boost_frame hboost
    have hq : Keeps p workshop { s with placement := q } :=
      ⟨hqheights.trans hs.heights, hqdensities.trans hs.densities, hqsettings.trans hs.settings,
        hs.ruleSets⟩
    unfold Spot.corner at hok
    rw [hok]
    cases found with
    | none => exact .done hq
    | some lot =>
      obtain ⟨entry, f⟩ := lot
      obtain ⟨spec, hspec, -⟩ := (hstands entry f rfl).suits
      rw [hs.settings] at hspec
      exact putBuilding_returns hq hworkshop hspec _ f
  · unfold Spot.corner at herror
    rw [herror]
    exact .starved hstarves

/-- A walk along one side of a road. Numbers are used up on the way, of which there are not more
than places at which it is given up. -/
theorem walk_returns (hs : s.Keeps p workshop)
    (hlines : p.settings.Lines spot.highway spot.length) {fuel : Nat} (hfuel : 0 < fuel)
    (hdistance : distance < spot.length → p.settings.spacing ≤ distance ∧
      countBelow spot.length < countBelow distance + fuel) :
    Returns p.settings workshop (Keeps p workshop) (walk spot fuel distance s) := by
  induction fuel generalizing distance s with
  | zero => exact absurd hfuel (Nat.lt_irrefl 0)
  | succ fuel ih =>
    unfold walk
    split
    next hlt =>
      obtain ⟨hlow, hcount⟩ := hdistance hlt
      obtain ⟨hdraws, hadvances⟩ := hlines (Scalar.Ordered.lt_of_le_of_lt hlow hlt)
      have hreturns := step_returns hworkshop hheights hdensities hs hdraws distance
      have hused := countBelow_lt hlt
      rcases hstep : s.step spot distance with ⟨⟨s', stop⟩, next⟩
      rw [hstep] at hreturns
      cases stop with
      | some stop => exact hreturns
      | none =>
        cases hreturns with
        | done hs' =>
          refine ih hs' (by omega) fun hnext => ?_
          have hahead := step_lt hs hadvances hlow hlt hstep hnext
          have hmore := countBelow_lt hahead
          exact ⟨Scalar.Ordered.le_trans hlow (Scalar.Ordered.le_of_lt hahead), by omega⟩
    · exact .done hs

/-! ### All roads -/

theorem lineSide_returns (hs : s.Keeps p workshop) (road : RoadId)
    {highway : Bool} {start finish : Vec2 Float32}
    (hlines : p.settings.Lines highway (start.distance finish)) :
    Returns p.settings workshop (Keeps p workshop) (s.lineSide road highway start finish) := by
  unfold lineSide
  dsimp only
  split
  · exact .done hs
  · let spot := sideSpot p.settings road highway start finish
    have hspot : p.settings.Lines spot.highway spot.length := hlines
    have hlimit : walkLimit = 2 ^ 32 := by norm_num [walkLimit]
    rw [hs.settings]
    refine walk_returns hworkshop hheights hdensities hs hspot (by omega) fun hlt => ?_
    have hself : Scalar.IsNumber p.settings.spacing :=
      (Scalar.Total.isNumber_of_le (Scalar.Ordered.le_of_lt hlt)).1
    have hcount := countBelow_lt_two_pow spot.length
    exact ⟨hself.le_self, by omega⟩

theorem lineRoads_returns (hs : s.Keeps p workshop)
    {network : RoadNetwork Float32} {roads : List (RoadId × Road Float32)}
    (hroads : ∀ x ∈ roads, p.settings.LinesRoad network x) :
    Returns p.settings workshop (Keeps p workshop) (lineRoads network roads s) := by
  induction roads generalizing s with
  | nil => exact .done hs
  | cons x rest ih =>
    have hrest := fun y hy => hroads y (List.mem_cons_of_mem x hy)
    have hroad : Returns p.settings workshop (Keeps p workshop)
        (lineRoad network s x.1 x.2.highway) := by
      unfold lineRoad
      split
      · exact .done hs
      next ends hends =>
        obtain ⟨hthere, hback⟩ := hroads x List.mem_cons_self ends hends
        have hside := lineSide_returns hworkshop hheights hdensities hs x.1 hthere
        generalize s.lineSide x.1 x.2.highway ends.start ends.finish = walked at hside ⊢
        cases hside with
        | done hreached => exact lineSide_returns hworkshop hheights hdensities hreached x.1 hback
        | refused h => exact .refused h
        | starved h => exact .starved h
    unfold lineRoads
    generalize lineRoad network s x.1 x.2.highway = walked at hroad ⊢
    cases hroad with
    | done hreached => exact ih hreached hrest
    | refused h => exact .refused h
    | starved h => exact .starved h

end

end Site

/-- The placement of buildings along the roads of a network comes to an end and meets no fault. -/
theorem Placement.place_returns [Trigonometry Float32] {p : Placement Float32}
    {network : RoadNetwork Float32} {workshop : Workshop Float32} (o : Obstacles Float32)
    (hworkshop : workshop.IsFaultless p.settings) (hheights : p.heights.HasCell)
    (hdensities : p.densities.HasCell)
    (hroads : ∀ x ∈ network.roads, p.settings.LinesRoad network x) :
    Site.Returns p.settings workshop (Site.Keeps p workshop) (p.place network o workshop) := by
  have hbare : Site.Keeps p workshop ⟨p, o, workshop, #[]⟩ := ⟨rfl, rfl, rfl, rfl⟩
  unfold place
  dsimp only
  split
  · exact .done hbare
  · exact Site.lineRoads_returns hworkshop hheights hdensities hbare hroads

/-- The rule set of huts derives buildings by no rules, so it meets no fault. -/
theorem isFaultless_hutWorkshop [Trigonometry Float32] (settings : LotSettings Float32) :
    hutWorkshop.IsFaultless settings := by
  intro w hrules spec _ fault
  have hset : hutWorkshop.ruleSets = [⟨"hut", some (.ofBox (some "hut") ⟨0, 0⟩), []⟩] := rfl
  unfold Workshop.generate Workshop.ruleSet?
  rw [hrules, hset]
  by_cases hname : "hut" = spec.ruleSet
  · simp [hname, Grammar.RuleSet.derive, Grammar.RuleSet.deriveQueue, Grammar.RuleSet.rewrite,
      Grammar.RuleSet.rewriteBy, Grammar.RuleSet.evaluationLimit, Grammar.Derivation.clear,
      Grammar.Derivation.spawn, Grammar.Derivation.next?, Grammar.Derivation.finish,
      Grammar.Effect.done, Fifo.empty, Fifo.push, Fifo.pop?]
  · simp [hname]

/-- Huts find their places on either side of a road, at densities that grow by random factors. -/
theorem Placement.place_returns_huts :
    letI := rightAngles
    let p : Placement Float32 := { huts with settings := { huts.settings with maxIncrease := 1.4 } }
    let o : Obstacles Float32 := .ofNetwork roadOnLand ⟨⟨0, 0⟩, ⟨8, 8⟩⟩ 4
    hutWorkshop.IsFaultless p.settings ∧ p.heights.HasCell ∧ p.densities.HasCell ∧
      (∀ x ∈ roadOnLand.roads, p.settings.LinesRoad roadOnLand x) ∧
      ∃ s, p.place roadOnLand o hutWorkshop = (s, none) ∧ s.placed.size = 2 := by
  let := rightAngles
  intro p o
  have hworkshop := isFaultless_hutWorkshop p.settings
  have hheights : p.heights.HasCell := by decide
  have hdensities : p.densities.HasCell := by decide
  have hroads : ∀ x ∈ roadOnLand.roads, p.settings.LinesRoad roadOnLand x := by
    decide +kernel
  refine ⟨hworkshop, hheights, hdensities, hroads, ?_⟩
  have hend : (p.place roadOnLand o hutWorkshop).2.isNone ∧
      (p.place roadOnLand o hutWorkshop).1.placed.size = 2 := by
    decide +kernel
  have hreturns := place_returns o hworkshop hheights hdensities hroads
  generalize p.place roadOnLand o hutWorkshop = walked at hend hreturns ⊢
  cases hreturns with
  | done => exact ⟨_, rfl, hend.2⟩
  | refused => cases hend.1
  | starved => cases hend.1

/-! ## Walks that stop -/

namespace Site

section

variable {α : Type} [Scalar α] [Trigonometry α] {s : Site α} {spot : Spot α} {distance : α}

/-- A walk that stays where it is does not end, however long it goes on. -/
theorem walk_endless (hlt : distance < spot.length)
    (hstep : s.step spot distance = ((s, none), distance)) (fuel : Nat) :
    walk spot fuel distance s = (s, some (.fault .endless)) := by
  induction fuel with
  | zero => rfl
  | succ fuel ih =>
    unfold walk
    rw [if_pos hlt, hstep]
    exact ih

/-- What stops a walk at a place stops it there. -/
theorem walk_of_step {s' : Site α} {stop : Stop (Grammar.GrammarError α)} {next : α}
    (hlt : distance < spot.length) (hstep : s.step spot distance = ((s', some stop), next))
    {fuel : Nat} (hfuel : 0 < fuel) : walk spot fuel distance s = (s', some stop) := by
  cases fuel with
  | zero => exact absurd hfuel (Nat.lt_irrefl 0)
  | succ fuel =>
    unfold walk
    rw [if_pos hlt, hstep]

/-- What stops the first walk stops the placement. -/
theorem place_of_walk {p : Placement α} {network : RoadNetwork α} {o : Obstacles α}
    {workshop : Workshop α} {id : RoadId} {road : Road α} {rest : List (RoadId × Road α)}
    {ends : Segment α} {stop : Stop (Grammar.GrammarError α)}
    (hmodels : p.settings.models ≠ []) (hroads : network.roads = (id, road) :: rest)
    (hends : network.segment? id = some ends) (hlength : ¬ ends.start.distance ends.finish ≤ 0)
    (hwalk : walk (sideSpot p.settings id road.highway ends.start ends.finish) walkLimit
      p.settings.spacing ⟨p, o, workshop, #[]⟩ = (s, some stop)) :
    p.place network o workshop = (s, some stop) := by
  have hside : lineSide ⟨p, o, workshop, #[]⟩ id road.highway ends.start ends.finish =
      (s, some stop) := by
    unfold lineSide
    rw [if_neg hlength]
    exact hwalk
  have hroad : lineRoad network ⟨p, o, workshop, #[]⟩ id road.highway = (s, some stop) := by
    unfold lineRoad
    simp only [hends, hside]
  unfold Placement.place
  rw [if_neg (by simpa using hmodels), hroads, lineRoads, hroad]

end

variable [Trigonometry Float32] {s : Site Float32} {spot : Spot Float32} {distance : Float32}

/-- No place can be tried when the factors cannot be drawn. -/
theorem step_badInterval (hdensities : s.placement.densities.HasCell)
    (hdraws : ¬ s.placement.settings.Draws spot.highway) (distance : Float32) :
    s.step spot distance = ((s, some (.fault .badInterval)), distance) := by
  have hboost : s.placement.boost spot.highway = .error .badInterval := by
    unfold LotSettings.Draws at hdraws
    obtain ⟨hmost, hempty⟩ := Classical.not_imp.1 hdraws
    unfold boost RandomStream.below
    rw [if_neg hmost, if_neg hempty]
    rfl
  obtain ⟨there, hthere⟩ := Grid.exists_valueAt hdensities (spot.corner distance)
  unfold Spot.corner at hthere
  unfold Site.step propose
  simp only [hthere, hboost, bind, Except.bind]

/-- Nothing is tried at a place when there are no more models than thresholds and the density grows
by nothing, so a walk stays where it is when two gaps are lost in rounding. -/
theorem step_idle (hdensities : s.placement.densities.HasCell)
    (hmodels : s.placement.settings.models.length ≤ s.placement.settings.thresholds.length)
    (hthresholds : ∀ threshold ∈ s.placement.settings.thresholds, 0 ≤ 1 - threshold)
    (hincrease : s.placement.settings.maxIncrease ≤ 0) (hbyway : spot.highway = false)
    (hnext : distance + (s.placement.settings.spacing + s.placement.settings.spacing) = distance) :
    s.step spot distance = ((s, none), distance) := by
  have hboost : s.placement.boost spot.highway = .ok (0, s.placement) := by
    unfold boost
    rw [hbyway]
    exact if_pos hincrease
  obtain ⟨there, hthere⟩ := Grid.exists_valueAt hdensities (spot.corner distance)
  unfold Spot.corner at hthere
  have hband : s.placement.settings.firstModel (there.getD 0 * 0) =
      s.placement.settings.thresholds.length := by
    refine LotSettings.firstModel_eq fun threshold hmem hlt => ?_
    have hzero : Null 0 := trivial
    exact (hzero.mul_left _).not_pos
      (Scalar.Ordered.lt_of_le_of_lt (hthresholds threshold hmem) hlt)
  have hdrop : (s.placement.settings.models.zipIdx.map fun (spec, entry) => (entry, spec)).drop
      s.placement.settings.thresholds.length = [] :=
    List.drop_eq_nil_of_le (by simpa using hmodels)
  unfold Site.step propose
  simp only [hthere, hboost, hband, hdrop, choose, bind, Except.bind, pure, Except.pure, hnext]

end Site

namespace Placement

/-- Huts without gaps between them, with a threshold for their only model. -/
def gapless : LotSettings Float32 := { huts.settings with spacing := 0, thresholds := [0] }

/-- Huts at densities that grow by factors without an upper bound: the bound is beyond the range of
numbers. -/
def unbounded : LotSettings Float32 := { huts.settings with maxIncrease := 1e39 }

/-- Huts are to be put up as some settings say, and none has been put up yet. -/
def hutSite (settings : LotSettings Float32) : Site Float32 :=
  ⟨{ huts with settings }, .ofNetwork roadOnLand ⟨⟨0, 0⟩, ⟨8, 8⟩⟩ 4, hutWorkshop, #[]⟩

variable (spot : Spot Float32)

/-- Without gaps a walk along a byway does not get on. -/
theorem walk_gapless (hbyway : spot.highway = false) (hlt : gapless.spacing < spot.length)
    (fuel : Nat) : Site.walk spot fuel gapless.spacing (hutSite gapless) =
      (hutSite gapless, some (.fault .endless)) := by
  have hdensities : (hutSite gapless).placement.densities.HasCell := by decide
  refine Site.walk_endless hlt (Site.step_idle hdensities (Nat.le_refl 1) ?_ ?_ hbyway ?_) fuel
  · change ∀ threshold ∈ gapless.thresholds, 0 ≤ 1 - threshold
    decide +kernel
  · change gapless.maxIncrease ≤ 0
    decide +kernel
  · change gapless.spacing + (gapless.spacing + gapless.spacing) = gapless.spacing
    decide +kernel

/-- Without an upper bound a walk along a byway does not begin. -/
theorem walk_unbounded (hbyway : spot.highway = false) (hlt : unbounded.spacing < spot.length)
    {fuel : Nat} (hfuel : 0 < fuel) : Site.walk spot fuel unbounded.spacing (hutSite unbounded) =
      (hutSite unbounded, some (.fault .badInterval)) := by
  have hdensities : (hutSite unbounded).placement.densities.HasCell := by decide
  have hdraws : ¬ (hutSite unbounded).placement.settings.Draws spot.highway := by
    rw [hbyway]
    decide +kernel
  exact Site.walk_of_step hlt (Site.step_badInterval hdensities hdraws _) hfuel

/-- Settings without gaps leave a walk where it is, when they have a threshold for every model; and
settings without an upper bound of the factors cannot be used at all. -/
theorem place_stops :
    (∀ settings ∈ [gapless, unbounded], hutWorkshop.IsFaultless settings) ∧
      LotSettings.decode? (.object [("models", .array [.object [("rule_set", .string "hut"),
          ("lot", .array [.number (.natural 4), .number (.natural 4)])]]),
        ("density_thresholds", .array [.number (.natural 0)]),
        ("building_spacing", .number (.natural 0)), ("max_increase", .number (.natural 0))]) =
          some gapless ∧
      (hutSite gapless).placement.place roadOnLand (hutSite gapless).obstacles hutWorkshop =
        (hutSite gapless, some (.fault .endless)) ∧
      (∃ spot, Borders gapless roadOnLand spot ∧ ∀ fuel,
        Site.walk spot fuel gapless.spacing (hutSite gapless) =
          (hutSite gapless, some (.fault .endless))) ∧
      (hutSite unbounded).placement.place roadOnLand (hutSite unbounded).obstacles hutWorkshop =
        (hutSite unbounded, some (.fault .badInterval)) := by
  obtain ⟨id, road, hroads, hroad, hends, hbyway⟩ : ∃ id road, roadOnLand.roads = [(id, road)] ∧
      roadOnLand.road? id = some road ∧ roadOnLand.segment? id = some ⟨⟨1, 4⟩, ⟨4, 4⟩⟩ ∧
      road.highway = false := ⟨_, _, rfl, rfl, rfl, rfl⟩
  let start : Vec2 Float32 := ⟨1, 4⟩
  let finish : Vec2 Float32 := ⟨4, 4⟩
  have hlength : ¬ start.distance finish ≤ 0 := by decide +kernel
  have hgapless : gapless.spacing < start.distance finish := by decide +kernel
  have hunbounded : unbounded.spacing < start.distance finish := by decide +kernel
  refine ⟨fun settings _ => isFaultless_hutWorkshop settings, rfl, ?_, ?_, ?_⟩
  · exact Site.place_of_walk (List.cons_ne_nil _ _) hroads hends hlength
      (walk_gapless (sideSpot gapless id road.highway start finish) hbyway hgapless _)
  · exact ⟨_, ⟨road, start, finish, hroad, .inl hends, rfl⟩,
      walk_gapless (sideSpot gapless id road.highway start finish) hbyway hgapless⟩
  · exact Site.place_of_walk (List.cons_ne_nil _ _) hroads hends hlength
      (walk_unbounded (sideSpot unbounded id road.highway start finish) hbyway hunbounded
        (by norm_num [Site.walkLimit]))

end Placement

end Cityscape
