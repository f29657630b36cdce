import Cityscape.Proofs.Growth.Shortening

/-!
# The roads that are tried

When a planned road does not fit, others are tried in order: first shorter ones in the same
direction, down to the pruning limit, and then turns of the first one that is not above the limit,
by one degree more at a time and to the one side before the other. The search gives the first that
fits, and nothing only when none fits.

## Main definitions

* `Search` — what looking for the first of some candidates may answer.
* `GrowthSettings.candidate` — the roads that are tried, in order.

## Main statements

* `Search.eq_some_iff` — the first candidate that passes is found.
* `Land.adjust_search` — fitting a road into the terrain is such a search.
* `Land.adjust_firstFit` — which road is found, if shortening ends.
-/

namespace Cityscape

open Single Scalar

/-! ## Ordered searches -/

section

variable {β : Type} {test : β → Except Fault Bool} {candidates : ℕ → Option β}
  {answer : Except Fault (Option β)}

/-- What looking for the first candidate that passes a test may answer. -/
inductive Search (test : β → Except Fault Bool) (candidates : ℕ → Option β) :
    Except Fault (Option β) → Prop
  /-- A candidate passes and none before it does. -/
  | found {k : ℕ} {b : β} (hk : candidates k = some b) (hpass : test b = .ok true)
      (hbefore : ∀ j < k, ∀ c, candidates j = some c → test c = .ok false) :
      Search test candidates (.ok (some b))
  | none (hfail : ∀ k b, candidates k = some b → test b = .ok false) :
      Search test candidates (.ok none)
  /-- Of some candidate it is not decided whether it passes. -/
  | fault {k : ℕ} {b : β} {fault : Fault} (hk : candidates k = some b)
      (hfault : test b = .error fault) : Search test candidates (.error fault)

namespace Search

/-- A first candidate that does not pass is left out. -/
theorem cons {first : β} (hfirst : candidates 0 = some first) (hfail : test first = .ok false)
    (h : Search test (fun k => candidates (k + 1)) answer) : Search test candidates answer := by
  cases h with
  | found hk hpass hbefore =>
    refine .found hk hpass fun j hj c hc => ?_
    cases j with
    | zero => cases hfirst.symm.trans hc; exact hfail
    | succ j => exact hbefore j (Nat.lt_of_succ_lt_succ hj) c hc
  | none hnone =>
    refine .none fun k b hk => ?_
    cases k with
    | zero => cases hfirst.symm.trans hk; exact hfail
    | succ k => exact hnone k b hk
  | fault hk hfault => exact .fault hk hfault

/-- The first candidate is tested, and the search goes on behind it if it does not pass. -/
theorem step {first : β} {next : Except Fault (Option β)} (hfirst : candidates 0 = some first)
    (h : test first = .ok false → Search test (fun k => candidates (k + 1)) next) :
    Search test candidates (do if ← test first then return some first else next) := by
  cases htest : test first with
  | error fault => exact .fault hfirst htest
  | ok passes =>
    cases passes with
    | true => exact .found hfirst htest fun j hj => absurd hj j.not_lt_zero
    | false => exact (h htest).cons hfirst htest

/-- Where some candidate passes and each test is decided, a candidate is found. -/
theorem exists_some_iff (h : Search test candidates answer)
    (hdecided : ∀ b c fault, test b = .ok true → test c ≠ .error fault) :
    (∃ b, answer = .ok (some b)) ↔ ∃ k b, candidates k = some b ∧ test b = .ok true := by
  cases h with
  | found hk hpass => exact ⟨fun _ => ⟨_, _, hk, hpass⟩, fun _ => ⟨_, rfl⟩⟩
  | none hfail =>
    refine iff_of_false (by simp) ?_
    rintro ⟨k, b, hk, hpass⟩
    cases (hfail k b hk).symm.trans hpass
  | fault hk hfault =>
    refine iff_of_false (by simp) ?_
    rintro ⟨k, b, -, hpass⟩
    exact hdecided _ _ _ hpass hfault

/-- What is found is the first candidate that passes. -/
theorem eq_some_iff {b : β} (h : Search test candidates answer)
    (hdecided : ∀ b c fault, test b = .ok true → test c ≠ .error fault) :
    answer = .ok (some b) ↔ ∃ k, candidates k = some b ∧ test b = .ok true ∧
      ∀ j < k, ∀ c, candidates j = some c → test c ≠ .ok true := by
  constructor
  · rintro rfl
    cases h with
    | found hk hpass hbefore =>
      refine ⟨_, hk, hpass, fun j hj c hc hlater => ?_⟩
      cases (hbefore j hj c hc).symm.trans hlater
  · rintro ⟨k, hk, hpass, hbefore⟩
    obtain ⟨c, rfl⟩ := (h.exists_some_iff hdecided).2 ⟨k, b, hk, hpass⟩
    cases h with
    | @found i _ hi hpass' hbefore' =>
      obtain hlt | rfl | hlt := lt_trichotomy k i
      · cases (hbefore' k hlt b hk).symm.trans hpass
      · rw [← hi, hk]
      · exact absurd hpass' (hbefore i hlt c hi)

end Search

end

/-! ## Candidates -/

section

variable {α : Type} [Scalar α] [Trigonometry α]

namespace RoadPlan

/-- The plan turned to one side by some degrees. -/
def turn (plan : RoadPlan α) (degrees : ℕ) (side : α) : RoadPlan α :=
  { plan with direction := plan.direction.rotate (Scalar.ofNat degrees * side) }

/-- The plan turned by one degree after the other, each time first to the one side and then to the
other. -/
def turnsFrom (plan : RoadPlan α) (degrees count : ℕ) : List (RoadPlan α) :=
  (List.range' degrees count).flatMap fun d => [plan.turn d 1, plan.turn d (-1)]

theorem turnsFrom_succ (plan : RoadPlan α) (degrees count : ℕ) :
    plan.turnsFrom degrees (count + 1) =
      plan.turn degrees 1 :: plan.turn degrees (-1) :: plan.turnsFrom (degrees + 1) count := rfl

end RoadPlan

namespace GrowthSettings

/-- The roads that are tried from some length on: those above the limit, each shorter by one than
the one before, and then the turns of the first that is not above it, if it has a length. -/
def candidateFrom (settings : GrowthSettings α) (plan : RoadPlan α) : ℕ → α → Option (RoadPlan α)
  | k, length =>
    if settings.shortest plan < length then
      match k with
      | 0 => some { plan with length }
      | k + 1 => candidateFrom settings plan k (length - 1)
    else if 0 < length then
      (RoadPlan.turnsFrom { plan with length } 1 settings.largestTurn)[k]?
    else none

variable {settings : GrowthSettings α} {plan : RoadPlan α} {length : α}

theorem candidateFrom_zero (h : settings.shortest plan < length) :
    settings.candidateFrom plan 0 length = some { plan with length } := if_pos h

theorem candidateFrom_succ (h : settings.shortest plan < length) (k : ℕ) :
    settings.candidateFrom plan (k + 1) length = settings.candidateFrom plan k (length - 1) :=
  if_pos h

theorem candidateFrom_turned (h : ¬ settings.shortest plan < length) (hpos : 0 < length) (k : ℕ) :
    settings.candidateFrom plan k length =
      (RoadPlan.turnsFrom { plan with length } 1 settings.largestTurn)[k]? := by
  cases k <;> exact (if_neg h).trans (if_pos hpos)

theorem candidateFrom_none (h : ¬ settings.shortest plan < length) (hpos : ¬ 0 < length) (k : ℕ) :
    settings.candidateFrom plan k length = none := by
  cases k <;> exact (if_neg h).trans (if_neg hpos)

/-- While the lengths are above the limit, they count down. -/
theorem candidateFrom_of_lt {k : ℕ} (h : ∀ j ≤ k, settings.shortest plan < countdown length j) :
    settings.candidateFrom plan k length = some { plan with length := countdown length k } := by
  induction k generalizing length with
  | zero => exact candidateFrom_zero (h 0 le_rfl)
  | succ k ih =>
    have hlt : settings.shortest plan < length := h 0 (Nat.zero_le _)
    rw [candidateFrom_succ hlt, countdown_succ]
    exact ih fun j hj => h (j + 1) (Nat.succ_le_succ hj)

/-- The roads that are tried in place of a planned one. -/
def candidate (settings : GrowthSettings α) (plan : RoadPlan α) (k : ℕ) : Option (RoadPlan α) :=
  settings.candidateFrom plan k plan.length

end GrowthSettings

namespace Land

variable {land : Land α} {settings : GrowthSettings α} {start : Vec2 α} {plan : RoadPlan α}

/-- Whether a planned road fits the terrain. -/
def admits (land : Land α) (settings : GrowthSettings α) (start : Vec2 α) (plan : RoadPlan α) :
    Except Fault Bool :=
  land.isBuildable settings start (planEnd plan start) plan.highway

theorem swing_search (left angle : ℕ) :
    Search (land.admits settings start) (fun k => (plan.turnsFrom angle left)[k]?)
      (swing land settings plan start left angle) := by
  induction left generalizing angle with
  | zero => exact .none fun k b hk => by cases hk
  | succ left ih =>
    rw [RoadPlan.turnsFrom_succ]
    exact .step rfl fun _ => .step rfl fun _ => ih (angle + 1)

/-- What the search for a road that fits does when shortening ended. -/
def swingBelow (land : Land α) (settings : GrowthSettings α) (plan : RoadPlan α) (start : Vec2 α) :
    Shortening α → Except Fault (Option (RoadPlan α))
  | .fits length => .ok (some { plan with length })
  | .exhausted length =>
    if length ≤ 0 then .ok none
    else swing land settings { plan with length } start settings.largestTurn 1

theorem adjust_eq : land.adjust settings plan start =
    shorten land settings plan start (settings.shortest plan) shorteningLimit plan.length >>=
      land.swingBelow settings plan start := rfl

theorem shorten_bind_swingBelow {fuel : ℕ} {length : α} (h : settings.shortest plan < length) :
    shorten land settings plan start (settings.shortest plan) (fuel + 1) length >>=
        land.swingBelow settings plan start =
      (do
        if ← land.admits settings start { plan with length } then return some { plan with length }
        else
          shorten land settings plan start (settings.shortest plan) fuel (length - 1) >>=
            land.swingBelow settings plan start) := by
  rw [shorten, if_pos h, bind_assoc]
  refine congrArg _ (funext fun admitted => ?_)
  cases admitted <;> rfl

end Land

end

/-! ## Single-precision lengths -/

namespace Land

variable {land : Land Float32} {settings : GrowthSettings Float32} {start : Vec2 Float32}
  {plan : RoadPlan Float32}

/-- Only over maps with a cell does a road fit. -/
theorem hasCells_of_isBuildable {finish : Vec2 Float32} {highway : Bool}
    (h : land.isBuildable settings start finish highway = .ok true) : land.HasCells := by
  obtain ⟨height, hheight, h⟩ := bind_eq_ok.1 h
  split at h
  · cases h
  split at h
  · cases h
  obtain ⟨density, hdensity, h⟩ := bind_eq_ok.1 h
  split at h
  · cases h
  · exact ⟨Grid.hasCell_of_valueAt hheight, Grid.hasCell_of_valueAt hdensity⟩

/-- Where some road fits, it is decided of each whether it does. -/
theorem admits_decided (p q : RoadPlan Float32) (fault : Fault)
    (h : land.admits settings start p = .ok true) :
    land.admits settings start q ≠ .error fault :=
  fun hfault => not_hasCells_of_fault hfault (hasCells_of_isBuildable h)

section

variable [Trigonometry Float32]

/-- Below the limit, the turns are tried. -/
theorem swingBelow_search {length : Float32} (hlength : Finite length)
    (h : ¬ settings.shortest plan < length) :
    Search (land.admits settings start) (fun k => settings.candidateFrom plan k length)
      (land.swingBelow settings plan start (.exhausted length)) := by
  rw [swingBelow]
  by_cases hpos : 0 < length
  · simp only [GrowthSettings.candidateFrom_turned h hpos]
    rw [if_neg fun hle => Total.not_lt_of_le hle hpos]
    exact swing_search settings.largestTurn 1
  · simp only [GrowthSettings.candidateFrom_none h hpos]
    rw [if_pos (Total.le_of_not_lt isNumber_zero (isNumber_of_isDefined hlength.isDefined) hpos)]
    exact .none fun k b hk => by cases hk

/-- Shortening a road and then turning it is a search among the candidates, if shortening ends. -/
theorem shorten_search {fuel : ℕ} {length : Float32} (hlength : Finite length)
    (hends : shorten land settings plan start (settings.shortest plan) fuel length ≠
      .error .endless) :
    Search (land.admits settings start) (fun k => settings.candidateFrom plan k length)
      (shorten land settings plan start (settings.shortest plan) fuel length >>=
        land.swingBelow settings plan start) := by
  induction fuel generalizing length with
  | zero => exact absurd rfl hends
  | succ fuel ih =>
    by_cases hlt : settings.shortest plan < length
    · rw [shorten_bind_swingBelow hlt]
      refine .step (GrowthSettings.candidateFrom_zero hlt) fun hfail => ?_
      rw [shorten_of_skips ⟨hlt, hfail⟩] at hends
      simp only [GrowthSettings.candidateFrom_succ hlt]
      exact ih hlength.sub_one hends
    · rw [shorten, if_neg hlt]
      exact swingBelow_search hlength hlt

/-- Fitting a road into the terrain is a search among the candidates, if shortening ends. -/
theorem adjust_search (hlength : Finite plan.length)
    (hends : ∃ fuel, shorten land settings plan start (settings.shortest plan) fuel plan.length ≠
      .error .endless) :
    Search (land.admits settings start) (settings.candidate plan)
      (land.adjust settings plan start) := by
  obtain ⟨fuel, hfuel⟩ := hends
  rw [adjust_eq]
  refine shorten_search hlength fun hendless => hfuel ?_
  exact ((shorten_eq_endless_iff_sticks hlength).1 hendless).shorten_eq_endless fuel

/-- If shortening ends, the search for a road that fits is exact: it finds the first candidate that
fits, and something exactly when some candidate fits. What is found has the class of the plan and
fits the terrain. The search is decided over maps with a cell. -/
theorem adjust_firstFit (hlength : Finite plan.length)
    (hends : ∃ fuel, shorten land settings plan start (settings.shortest plan) fuel plan.length ≠
      .error .endless) :
    (∀ fitted, land.adjust settings plan start = .ok (some fitted) ↔
      ∃ k, settings.candidate plan k = some fitted ∧ land.admits settings start fitted = .ok true ∧
        ∀ j < k, ∀ tried, settings.candidate plan j = some tried →
          land.admits settings start tried ≠ .ok true) ∧
    ((∃ fitted, land.adjust settings plan start = .ok (some fitted)) ↔
      ∃ k tried, settings.candidate plan k = some tried ∧
        land.admits settings start tried = .ok true) ∧
    (∀ fitted, land.adjust settings plan start = .ok (some fitted) →
      fitted.highway = plan.highway ∧ land.isBuildable settings start
        (start + fitted.direction.scale fitted.length) plan.highway = .ok true) ∧
    ((∃ settled, land.adjust settings plan start = .ok settled) ∨
      ¬ land.HasCells ∧ land.adjust settings plan start = .error .outOfRange) := by
  have hsearch := adjust_search hlength hends
  refine ⟨fun fitted => hsearch.eq_some_iff admits_decided,
    hsearch.exists_some_iff admits_decided, fun fitted => adjust_spec, ?_⟩
  cases h : land.adjust settings plan start with
  | ok settled => exact .inl ⟨settled, rfl⟩
  | error fault =>
    rw [h] at hsearch
    cases hsearch with
    | fault hk hfault =>
      cases fault_of_isBuildable hfault
      exact .inr ⟨not_hasCells_of_fault hfault, rfl⟩

end

/-- The settings that hold by default, but with a limit of zero. -/
def unpruned : GrowthSettings Float32 := { GrowthSettings.standard with pruning := 0 }

/-- A plan of three cells to the east. -/
def eastward : RoadPlan Float32 := ⟨3, ⟨1, 0⟩, false⟩

/-- A road that is proposed across the river is shortened by two cells, to end on the near bank. -/
theorem adjust_firstFit_westOfRiver :
    Finite eastward.length ∧
      (∃ fuel, shorten (Growth.westOfRiver unpruned).land unpruned eastward ⟨2, 2⟩
        (unpruned.shortest eastward) fuel eastward.length ≠ .error .endless) ∧
      (Growth.westOfRiver unpruned).land.adjust unpruned eastward ⟨2, 2⟩ =
        .ok (some { eastward with length := 1 }) := by
  have hlength : Finite eastward.length := by decide +kernel
  have hends : ∃ fuel, shorten (Growth.westOfRiver unpruned).land unpruned eastward ⟨2, 2⟩
      (unpruned.shortest eastward) fuel eastward.length ≠ .error .endless :=
    ⟨shorteningLimit, fun hendless => not_sticks_of_le hlength (by decide +kernel)
      (by decide +kernel) ((shorten_eq_endless_iff_sticks hlength).1 hendless)⟩
  have habove : ∀ j ≤ 2, unpruned.shortest eastward < countdown eastward.length j := by
    decide +kernel
  have hcandidate {k : ℕ} (hk : k ≤ 2) : unpruned.candidate eastward k =
      some { eastward with length := countdown eastward.length k } :=
    GrowthSettings.candidateFrom_of_lt fun j hj => habove j (hj.trans hk)
  have hone : countdown eastward.length 2 = 1 := by decide +kernel
  have hbefore : ∀ j < 2, (Growth.westOfRiver unpruned).land.admits unpruned ⟨2, 2⟩
      { eastward with length := countdown eastward.length j } ≠ .ok true := by decide +kernel
  refine ⟨hlength, hends, ((adjust_firstFit hlength hends).1 _).2 ⟨2, ?_, by decide +kernel, ?_⟩⟩
  · rw [hcandidate le_rfl, hone]
  · intro j hj tried htried
    cases (hcandidate hj.le).symm.trans htried
    exact hbefore j hj

end Land

end Cityscape
