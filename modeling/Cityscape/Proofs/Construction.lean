import Cityscape.Construction
import Cityscape.Proofs.Lots.Along

/-!
# Cities through their construction

Roads can be asked for at any time, and every answer gives the city a new network; the roads are
lined with buildings once only. So the buildings of a city are those of the network that it had at
one moment, which an answer after that moment takes away from under them.

## Main definitions

* `Construction.Act`, `Construction.actAll` — what can happen to a city from outside, in any order.
* `Construction.Step`, `Construction.stepAll` — the same with each phase of an update on its own.
* `Construction.Keeps` — what is left as it was while something was reported.
* `Construction.Lining` — the step at which the roads of a city were lined.

## Main statements

* `Construction.actAll_eq_stepAll` — acts one step at a time.
* `Construction.Keeps.step`, `Construction.Keeps.stepAll` — once lined, a city keeps its buildings.
* `Construction.placeBuildings_spec` — the buildings that are put up lie along roads.
* `Construction.lined_of_actAll` — the buildings of a city through anything that happens to it.
-/

namespace Cityscape

namespace Progress

variable {α : Type} {p : Progress α} {next : Construction α → Progress α}

theorem andThen_eq_ok {log : List (Notice α)} {c' : Construction α} :
    p.andThen next = ⟨log, .ok c'⟩ ↔
      ∃ c first rest, p = ⟨first, .ok c⟩ ∧ next c = ⟨rest, .ok c'⟩ ∧ log = first ++ rest := by
  obtain ⟨first, result⟩ := p
  cases result with
  | error fault => simp [andThen]
  | ok c =>
    constructor
    · intro h
      obtain ⟨rfl, hresult⟩ := Progress.mk.inj h
      exact ⟨c, first, (next c).notices, rfl, by rw [← hresult], rfl⟩
    · rintro ⟨_, _, rest, hp, hnext, rfl⟩
      cases hp
      simp [andThen, hnext]

theorem andThen_assoc (p : Progress α) (next last : Construction α → Progress α) :
    (p.andThen next).andThen last = p.andThen fun c => (next c).andThen last := by
  obtain ⟨first, result⟩ := p
  cases result with
  | error fault => rfl
  | ok c =>
    simp only [andThen]
    generalize next c = q
    obtain ⟨second, result⟩ := q
    cases result with
    | error fault => rfl
    | ok c => simp

@[simp] theorem andThen_ok (p : Progress α) : (p.andThen fun c => ⟨[], .ok c⟩) = p := by
  obtain ⟨first, result⟩ := p
  cases result with
  | error fault => rfl
  | ok c => simp [andThen]

end Progress

namespace Construction

open Placement

variable {α : Type}

/-! ## What happens to a city -/

/-- What can happen to a city from outside. -/
inductive Act (α : Type)
  | request (direction : Option (Vec2 α))
  | settle (site : CitySite α)
  | update (roadsFirst : Bool)

/-- What happens to a city, with each phase of an update on its own. -/
inductive Step (α : Type)
  | request (direction : Option (Vec2 α))
  | settle (site : CitySite α)
  | roads
  | buildings

def Act.steps : Act α → List (Step α)
  | .request direction => [.request direction]
  | .settle site => [.settle site]
  | .update true => [.roads, .buildings]
  | .update false => [.buildings, .roads]

section

variable [Scalar α] [Trigonometry α]

def act (c : Construction α) : Act α → Progress α
  | .request direction => ⟨[], .ok (c.request direction)⟩
  | .settle site => ⟨[], .ok (c.settle site)⟩
  | .update roadsFirst => c.update roadsFirst

def actAll : List (Act α) → Construction α → Progress α
  | [], c => ⟨[], .ok c⟩
  | a :: rest, c => (c.act a).andThen (actAll rest)

def step (c : Construction α) : Step α → Progress α
  | .request direction => ⟨[], .ok (c.request direction)⟩
  | .settle site => ⟨[], .ok (c.settle site)⟩
  | .roads => c.growRoads
  | .buildings => c.placeBuildings

def stepAll : List (Step α) → Construction α → Progress α
  | [], c => ⟨[], .ok c⟩
  | s :: rest, c => (c.step s).andThen (stepAll rest)

theorem stepAll_append (steps more : List (Step α)) (c : Construction α) :
    stepAll (steps ++ more) c = (stepAll steps c).andThen (stepAll more) := by
  induction steps generalizing c with
  | nil => simp [stepAll, Progress.andThen]
  | cons s steps ih =>
    have hrest : stepAll (steps ++ more) = fun c => (stepAll steps c).andThen (stepAll more) :=
      funext ih
    rw [List.cons_append, stepAll, stepAll, hrest, Progress.andThen_assoc]

theorem act_eq_stepAll (c : Construction α) (a : Act α) : c.act a = stepAll a.steps c := by
  have hdone : stepAll [] = fun c : Construction α => ⟨[], .ok c⟩ := rfl
  have hlast (s : Step α) : stepAll [s] = fun c => c.step s := by
    funext c
    rw [stepAll, hdone, Progress.andThen_ok]
  cases a with
  | request direction => rw [Act.steps, hlast]; rfl
  | settle site => rw [Act.steps, hlast]; rfl
  | update roadsFirst => cases roadsFirst <;> rw [Act.steps, stepAll, hlast] <;> rfl

/-- An update is its phases, one after the other. -/
theorem actAll_eq_stepAll (acts : List (Act α)) (c : Construction α) :
    actAll acts c = stepAll (acts.flatMap Act.steps) c := by
  induction acts generalizing c with
  | nil => rfl
  | cons a acts ih =>
    rw [List.flatMap_cons, stepAll_append, ← act_eq_stepAll, ← funext ih, actAll]

/-! ## What is kept -/

/-- What is left as it was while something was reported: the settings and the buildings, and the
network too if no roads were reported to be done. -/
structure Keeps (c : Construction α) (log : List (Notice α)) (c' : Construction α) : Prop where
  lots : c'.lots = c.lots
  buildings : c'.buildings = c.buildings
  buildingsTried : c'.buildingsTried = c.buildingsTried
  network : (∀ size stats, .roadsDone size stats ∉ log) → c'.network = c.network

namespace Keeps

variable {c c' c'' : Construction α} {log more : List (Notice α)}

omit [Scalar α] [Trigonometry α] in
theorem refl (c : Construction α) (log : List (Notice α)) : Keeps c log c :=
  ⟨rfl, rfl, rfl, fun _ => rfl⟩

omit [Scalar α] [Trigonometry α] in
theorem trans (h : Keeps c log c') (h' : Keeps c' more c'') : Keeps c (log ++ more) c'' where
  lots := h'.lots.trans h.lots
  buildings := h'.buildings.trans h.buildings
  buildingsTried := h'.buildingsTried.trans h.buildingsTried
  network hnone := by
    simp only [List.mem_append, not_or] at hnone
    exact (h'.network fun size stats => (hnone size stats).2).trans
      (h.network fun size stats => (hnone size stats).1)

theorem answer {direction : Option (Vec2 α)} (h : c.answer direction = ⟨log, .ok c'⟩) :
    Keeps c log c' := by
  unfold Construction.answer at h
  split at h
  · cases h
    exact refl _ _
  · split at h
    · cases h
    · cases h
      exact ⟨rfl, rfl, rfl, fun hnone => by simp at hnone⟩

theorem answerAll {directions : List (Option (Vec2 α))}
    (h : Construction.answerAll directions c = ⟨log, .ok c'⟩) : Keeps c log c' := by
  induction directions generalizing c log with
  | nil =>
    cases h
    exact refl _ _
  | cons direction rest ih =>
    obtain ⟨d, first, more, hfirst, hrest, rfl⟩ := Progress.andThen_eq_ok.1 h
    exact (answer hfirst).trans (ih hrest)

/-- A step keeps all but what it grows, unless it is the one that lines the roads. -/
theorem step {s : Step α} (h : c.step s = ⟨log, .ok c'⟩)
    (hs : s = .buildings → (c.roadsGrown && !c.buildingsTried) = false) : Keeps c log c' := by
  cases s with
  | request direction | settle site =>
    cases h
    exact ⟨rfl, rfl, rfl, fun _ => rfl⟩
  | roads =>
    obtain ⟨hlots, hbuildings, htried, hnetwork⟩ := answerAll h
    exact ⟨hlots, hbuildings, htried, hnetwork⟩
  | buildings =>
    unfold Construction.step placeBuildings at h
    rw [hs rfl] at h
    cases h
    exact refl _ _

/-- When it was tried to line the roads, nothing that happens changes the buildings. -/
theorem stepAll {steps : List (Step α)} (htried : c.buildingsTried = true)
    (h : Construction.stepAll steps c = ⟨log, .ok c'⟩) : Keeps c log c' := by
  induction steps generalizing c log with
  | nil =>
    cases h
    exact refl _ _
  | cons s steps ih =>
    obtain ⟨d, first, rest, hfirst, hrest, rfl⟩ := Progress.andThen_eq_ok.1 h
    have hstep : Keeps c first d := step hfirst fun _ => by simp [htried]
    exact hstep.trans (ih (hstep.buildingsTried.trans htried) hrest)

end Keeps

end

/-! ## Lining the roads -/

section

variable [Trigonometry Float32] {c c' : Construction Float32} {log : List (Notice Float32)}

theorem buildOn_spec {site : CitySite Float32} (hbare : c.buildings = #[])
    (h : c.buildOn site = ⟨log, .ok c'⟩) :
    c'.lots = c.lots ∧ c'.network = c.network ∧ c'.buildingsTried = c.buildingsTried ∧
      ∀ b ∈ c'.buildings, LiesAlong c.lots c.network b := by
  have hnone : ∀ b ∈ c.buildings, LiesAlong c.lots c.network b := by simp [hbare]
  unfold buildOn at h
  simp only at h
  split at h
  · cases h
  next after hplace =>
    cases h
    cases hbounds : site.bounds with
    | error fault => simp [hbounds, Except.map] at hplace
    | ok bounds =>
      rw [hbounds] at hplace
      exact ⟨rfl, rfl, rfl, liesAlong_of_place (Except.ok.inj hplace)⟩
  · cases h
    exact ⟨rfl, rfl, rfl, hnone⟩
  · cases h

/-- The step that lines the roads marks that it was tried, and the buildings lie along the roads of
the network. -/
theorem placeBuildings_spec (hready : (c.roadsGrown && !c.buildingsTried) = true)
    (hbare : c.buildings = #[]) (h : c.placeBuildings = ⟨log, .ok c'⟩) :
    c'.lots = c.lots ∧ c'.network = c.network ∧ c'.buildingsTried = true ∧
      ∀ b ∈ c'.buildings, LiesAlong c.lots c.network b := by
  unfold placeBuildings at h
  rw [if_pos hready] at h
  simp only at h
  split at h
  · cases h
    exact ⟨rfl, rfl, rfl, by simp [hbare]⟩
  next site hsite =>
    let marked : Construction Float32 := { c with buildingsTried := true }
    exact buildOn_spec (show marked.buildings = #[] from hbare) h

/-- How a city came to its buildings: at one of the steps since a beginning it was tried to line the
roads, and the buildings that this brought, which it has still, lie along roads of the network that
it had then. It has that network still unless roads were reported to be done since. -/
structure Lining (first : Construction Float32) (steps : List (Step Float32))
    (c : Construction Float32) where
  earlier : List (Step Float32)
  later : List (Step Float32)
  /-- The city before its roads were lined. -/
  held : Construction Float32
  /-- The city when that was done. -/
  lined : Construction Float32
  /-- What was reported since. -/
  since : List (Notice Float32)
  steps_eq : steps = earlier ++ .buildings :: later
  reached : (stepAll earlier first).result = .ok held
  grown : held.roadsGrown = true
  untried : held.buildingsTried = false
  lines : held.placeBuildings.result = .ok lined
  rest : stepAll later lined = ⟨since, .ok c⟩
  kept : c.buildings = lined.buildings
  along : ∀ b ∈ c.buildings, LiesAlong first.lots held.network b
  current : (∀ size stats, .roadsDone size stats ∉ since) → c.network = held.network

namespace Lining

/-- The step that lines the roads, with whatever follows it. -/
def now {d : Construction Float32} {steps : List (Step Float32)} {since : List (Notice Float32)}
    (hready : (c.roadsGrown && !c.buildingsTried) = true) (hbare : c.buildings = #[])
    (hlines : c.placeBuildings = ⟨log, .ok d⟩) (hrest : stepAll steps d = ⟨since, .ok c'⟩) :
    Lining c (.buildings :: steps) c' :=
  have hspec := placeBuildings_spec hready hbare hlines
  have hkeeps : Keeps d since c' := .stepAll hspec.2.2.1 hrest
  have hflags := Bool.and_eq_true_iff.1 hready
  { earlier := []
    later := steps
    held := c
    lined := d
    since := since
    steps_eq := rfl
    reached := rfl
    grown := hflags.1
    untried := by simpa using hflags.2
    lines := congrArg Progress.result hlines
    rest := hrest
    kept := hkeeps.buildings
    along := by
      rw [hkeeps.buildings]
      exact hspec.2.2.2
    current := fun hnone => (hkeeps.network hnone).trans hspec.2.1 }

/-- One more step before. -/
def cons {d : Construction Float32} {steps : List (Step Float32)} (l : Lining d steps c')
    {s : Step Float32} (hstep : c.step s = ⟨log, .ok d⟩) (hlots : d.lots = c.lots) :
    Lining c (s :: steps) c' where
  earlier := s :: l.earlier
  later := l.later
  held := l.held
  lined := l.lined
  since := l.since
  steps_eq := congrArg (s :: ·) l.steps_eq
  reached := by
    rw [stepAll, hstep]
    exact l.reached
  grown := l.grown
  untried := l.untried
  lines := l.lines
  rest := l.rest
  kept := l.kept
  along := by
    rw [← hlots]
    exact l.along
  current := l.current

end Lining

/-- When in the end it was tried to line the roads, there was one step at which it was. -/
theorem exists_lining {steps : List (Step Float32)} (hbare : c.buildings = #[])
    (hnot : c.buildingsTried = false) (h : stepAll steps c = ⟨log, .ok c'⟩)
    (htried : c'.buildingsTried = true) : Nonempty (Lining c steps c') := by
  induction steps generalizing c log with
  | nil =>
    cases h
    cases hnot.symm.trans htried
  | cons s steps ih =>
    obtain ⟨d, first, rest, hfirst, hrest, rfl⟩ := Progress.andThen_eq_ok.1 h
    -- roads are lined at the first step of that kind that finds them grown
    by_cases hready : s = .buildings ∧ (c.roadsGrown && !c.buildingsTried) = true
    · obtain ⟨rfl, hready⟩ := hready
      exact ⟨.now hready hbare hfirst hrest⟩
    · have hkeeps : Keeps c first d :=
        .step hfirst fun hs => eq_false_of_ne_true fun hr => hready ⟨hs, hr⟩
      obtain ⟨l⟩ := ih (hkeeps.buildings.trans hbare) (hkeeps.buildingsTried.trans hnot) hrest
      exact ⟨l.cons hfirst hkeeps.lots⟩

/-! ## Through everything that happens -/

/-- However roads are asked for, land is given and the city is updated, in any order and with the
phases of each update in either: when it was tried to line the roads, there was one step at which
it was, and the buildings lie along roads of the network of that moment, which is still the network
of the city unless roads were reported to be done since. -/
theorem lined_of_actAll {site : Option (CitySite Float32)} {growth : GrowthSettings Float32}
    {lots : LotSettings Float32} {workshop : Workshop Float32} {acts : List (Act Float32)}
    (h : actAll acts (start site growth lots workshop) = ⟨log, .ok c⟩)
    (htried : c.buildingsTried = true) :
    Nonempty (Lining (start site growth lots workshop) (acts.flatMap Act.steps) c) := by
  rw [actAll_eq_stepAll] at h
  exact exists_lining rfl rfl h htried

end

/-! ## A town on a shore -/

/-- Land with the sea to the north. -/
def shore : CitySite Float32 where
  heights := ⟨8, 8, .ofFn fun k => if k.val < 40 then 1 else 0⟩
  densities := ⟨8, 8, .replicate _ 1⟩
  centre := ⟨4, 4⟩
  radius := 4

/-- A town before anything happens to it; it grows one straight road at a time and is lined with
huts, between which a gap is left. -/
def town (gap : Float32) : Construction Float32 :=
  .start none
    { GrowthSettings.standard with roadLength := 3, largestTurn := 0, rounds := 1, rule := .grid }
    { huts.settings with spacing := gap } hutWorkshop

/-- What is found when everything went well was found in the city that came of it. -/
theorem exists_of_result {p : Progress Float32} {found : Construction Float32 → Bool}
    (h : p.result.map found = .ok true) : ∃ log c, p = ⟨log, .ok c⟩ ∧ found c = true := by
  obtain ⟨log, result⟩ := p
  cases result with
  | error fault => cases h
  | ok c => exact ⟨log, c, rfl, Except.ok.inj h⟩

/-- Roads that are asked for before there is land are not grown. Before the update in which a road
is lined at last, roads to the sea are asked for; the buildings are those along the road that was
there before the answer. -/
theorem lined_of_actAll_town :
    letI := rightAngles
    let acts : List (Act Float32) := [.request none, .update true, .settle shore,
      .request (some ⟨1, 0⟩), .update false, .request (some ⟨0, 1⟩), .update false]
    ∃ log c, actAll acts (town 1) = ⟨log, .ok c⟩ ∧ c.buildingsTried = true ∧
      c.buildings.size = 1 ∧ c.network.roadCount = 0 ∧
      Nonempty (Lining (town 1) (acts.flatMap Act.steps) c) := by
  let := rightAngles
  intro acts
  have hresult : ((actAll acts (town 1)).result.map fun c =>
      c.buildingsTried && c.buildings.size == 1 && c.network.roadCount == 0) = .ok true := by
    decide +kernel
  obtain ⟨log, c, hacts, hc⟩ := exists_of_result hresult
  simp only [Bool.and_eq_true, beq_iff_eq] at hc
  obtain ⟨⟨htried, hsize⟩, hcount⟩ := hc
  exact ⟨log, c, hacts, htried, hsize, hcount, lined_of_actAll hacts htried⟩

/-- When roads are asked for again after a road to the east was lined with huts, the city is left
with a network that has no such road. And when the gap between huts is negative, the first of them
begins west of both ends of the road. -/
theorem not_liesAlong_town :
    letI := rightAngles
    (∃ log c, actAll [.settle shore, .request (some ⟨1, 0⟩), .update true, .request (some ⟨0, 1⟩),
        .update true] (town 1) = ⟨log, .ok c⟩ ∧ c.buildingsTried = true ∧
      ∃ b ∈ c.buildings, c.network.road? b.road = none) ∧
    ∃ log c, actAll [.settle shore, .request (some ⟨1, 0⟩), .update true] (town (-0.125)) =
        ⟨log, .ok c⟩ ∧ c.buildingsTried = true ∧
      ∃ b ∈ c.buildings, ∃ ends, c.network.segment? b.road = some ends ∧
        b.origin.x < ends.start.x ∧ b.origin.x < ends.finish.x := by
  let := rightAngles
  constructor
  · have hresult : ((actAll [.settle shore, .request (some ⟨1, 0⟩), .update true,
        .request (some ⟨0, 1⟩), .update true] (town 1)).result.map fun c =>
        c.buildingsTried && c.buildings.any fun b => (c.network.road? b.road).isNone) =
        .ok true := by
      decide +kernel
    obtain ⟨log, c, hacts, hc⟩ := exists_of_result hresult
    simp only [Bool.and_eq_true, Array.any_eq_true', Option.isNone_iff_eq_none] at hc
    exact ⟨log, c, hacts, hc⟩
  · have hresult : ((actAll [.settle shore, .request (some ⟨1, 0⟩), .update true]
        (town (-0.125))).result.map fun c =>
        c.buildingsTried && c.buildings.any fun b => (c.network.segment? b.road).any fun ends =>
          b.origin.x < ends.start.x && b.origin.x < ends.finish.x) = .ok true := by
      decide +kernel
    obtain ⟨log, c, hacts, hc⟩ := exists_of_result hresult
    simp only [Bool.and_eq_true, Array.any_eq_true', Option.any_eq_true, decide_eq_true_eq] at hc
    exact ⟨log, c, hacts, hc⟩

end Construction

end Cityscape
