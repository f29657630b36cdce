import Cityscape.Growth
import Cityscape.Proofs.RoadMap.Build
import Cityscape.Scalar.Single

/-!
# Runs of growth

Growth goes on task by task. A property that holds at the beginning, survives each task and does
not depend on the count of rounds or on what is waiting holds in every state that growth passes.

## Main definitions

* `Growth.Passes` — the states between two tasks.
* `GrowthStats.count` — what is counted of a proposed road.
* `Growth.onPlain` — growth over six by six cells that are equally high and equally populated.
* `Growth.quarterTurns` — trigonometry for roads that branch off at right angles.

## Main statements

* `Growth.step_cases` — a task leaves the map alone or builds a road, and counts it.
* `Growth.holds_of_passes`, `Growth.holds_of_generate` — induction over the tasks of a run.
-/

namespace Cityscape

/-- The counts after one more proposed road. -/
def GrowthStats.count (stats : GrowthStats) : Verdict → GrowthStats
  | .succeeded => { stats with built := stats.built + 1 }
  | .merged => { stats with built := stats.built + 1, merged := stats.merged + 1 }
  | .failed => { stats with failed := stats.failed + 1 }

namespace Growth

variable {α : Type}

/-! ## Tasks -/

@[simp] theorem map_push (g : Growth α) (task : Task α) : (g.push task).map = g.map := rfl

@[simp] theorem stats_push (g : Growth α) (task : Task α) : (g.push task).stats = g.stats := rfl

variable [Scalar α] [Trigonometry α] {g g' : Growth α}

@[simp] theorem map_branchOff (g : Growth α) (plan : RoadPlan α) (start : CrossroadId)
    (chance angle : α) : (g.branchOff plan start chance angle).map = g.map := rfl

@[simp] theorem stats_branchOff (g : Growth α) (plan : RoadPlan α) (start : CrossroadId)
    (chance angle : α) : (g.branchOff plan start chance angle).stats = g.stats := rfl

theorem build_eq_ok {plan : RoadPlan α} {start : CrossroadId} {outcome : Outcome α}
    (h : g.build plan start = .ok (outcome, g')) :
    ∃ map, g.map.build g.land g.settings plan start = .ok (outcome, map) ∧
      g' = { g with map } := by
  obtain ⟨⟨_, map⟩, hbuild, h⟩ := bind_eq_ok.1 h
  cases h
  exact ⟨map, hbuild, rfl⟩

/-- Going on from a road leaves the roads and the counts as they are. -/
theorem extend_frame {plan : RoadPlan α} {start finish : CrossroadId}
    (h : g.extend plan start finish = .ok g') : g'.map = g.map ∧ g'.stats = g.stats := by
  unfold extend at h
  split at h
  · obtain ⟨forward, -, h⟩ := bind_eq_ok.1 h
    obtain ⟨density, -, h⟩ := bind_eq_ok.1 h
    cases h
    simp
  · cases h
    exact ⟨rfl, rfl⟩

/-- A proposed road is built or not, and counted by its verdict. -/
theorem resolve_cases {plan : RoadPlan α} {start : CrossroadId}
    (h : g.resolve plan start = .ok g') :
    ∃ outcome, g.map.build g.land g.settings plan start = .ok (outcome, g'.map) ∧
      g'.stats = g.stats.count outcome.verdict := by
  obtain ⟨⟨outcome, built⟩, hbuild, h⟩ := bind_eq_ok.1 h
  obtain ⟨map, hmap, rfl⟩ := build_eq_ok hbuild
  refine ⟨outcome, ?_⟩
  obtain ⟨hfailed, rfl⟩ | ⟨-, fitted, e, finish, id, -, -, rfl, -⟩ := RoadMap.build_extends hmap
  · obtain ⟨verdict, finish, id, fitted⟩ := outcome
    cases hfailed
    cases h
    exact ⟨hmap, rfl⟩
  · cases e <;> cases h <;> exact ⟨hmap, rfl⟩

/-- A task leaves the roads and the counts as they are, or it proposes a road. -/
theorem handle_cases {task : Task α} (h : g.handle task = .ok g') :
    (g'.map = g.map ∧ g'.stats = g.stats) ∨
      ∃ plan start outcome, g.map.build g.land g.settings plan start = .ok (outcome, g'.map) ∧
        g'.stats = g.stats.count outcome.verdict := by
  cases task with
  | propose plan start => exact .inr ⟨plan, start, resolve_cases h⟩
  | extend plan start finish merged =>
    simp only [handle] at h
    split at h
    · cases h
      exact .inl ⟨rfl, rfl⟩
    · exact .inl (extend_frame h)
  | branch delay plan start =>
    simp only [handle] at h
    split at h
    · cases h
      exact .inl ⟨rfl, rfl⟩
    · split at h <;> cases h <;> exact .inl ⟨rfl, rfl⟩

/-- The next task leaves the roads and the counts as they are, or it proposes a road. -/
theorem step_cases (h : g.step = .ok g') :
    (g'.map = g.map ∧ g'.stats = g.stats) ∨
      ∃ plan start outcome, g.map.build g.land g.settings plan start = .ok (outcome, g'.map) ∧
        g'.stats = g.stats.count outcome.verdict := by
  unfold step at h
  split at h
  next task queue _ =>
    have hcases := handle_cases h
    exact hcases
  · cases h
    exact .inl ⟨rfl, rfl⟩

/-- Growth begins with nothing but the centre. -/
theorem plant_cases {centre : Vec2 α} {direction : Option (Vec2 α)}
    (h : g.plant centre direction = .ok g') :
    g'.map = (g.map.clear.addCrossroad centre).2 ∧ g'.stats = .zero := by
  obtain ⟨⟨direction, stream⟩, -, h⟩ := bind_eq_ok.1 h
  cases h
  exact ⟨rfl, rfl⟩

/-! ## Runs -/

/-- The last of the tasks is handled where the others led. -/
theorem handleFirst_succ (count : Nat) (g : Growth α) :
    handleFirst (count + 1) g = handleFirst count g >>= step := by
  induction count generalizing g with
  | zero => exact bind_pure g.step
  | succ count ih =>
    have hfirst (left : Nat) : handleFirst (left + 1) g = g.step >>= handleFirst left := rfl
    rw [hfirst, hfirst, bind_assoc]
    exact bind_congr fun g => ih g

/-- The last of the rounds begins where the others led. -/
theorem run_succ (rounds : Nat) (g : Growth α) :
    run (rounds + 1) g = run rounds g >>= run 1 := by
  induction rounds generalizing g with
  | zero => rfl
  | succ rounds ih =>
    have hfirst (left : Nat) :
        run (left + 1) g = if g.queue.isEmpty then .ok g else g.round >>= run left := rfl
    rw [hfirst, hfirst]
    split
    next hempty =>
      change .ok g = run 1 g
      rw [hfirst 0, if_pos hempty]
    · rw [bind_assoc]
      exact bind_congr fun g => ih g

theorem run_one_cases (h : run 1 g = .ok g') :
    g' = g ∨ ∃ v, handleFirst g.queue.size g = .ok v ∧
      g' = { v with stats.iterations := v.stats.iterations + 1 } := by
  unfold run at h
  split at h
  · cases h
    exact .inl rfl
  · obtain ⟨v, hround, h⟩ := bind_eq_ok.1 h
    obtain ⟨w, hw, hround⟩ := bind_eq_ok.1 hround
    cases hround
    cases h
    exact .inr ⟨w, hw, rfl⟩

/-- The states that growth passes: those after some of the tasks of a round, in a round that is
begun before the limit is reached. -/
def Passes (g : Growth α) (centre : Vec2 α) (direction : Option (Vec2 α)) (v : Growth α) : Prop :=
  ∃ planted rounds begun count, g.plant centre direction = .ok planted ∧ rounds < g.roundLimit ∧
    run rounds planted = .ok begun ∧ count ≤ begun.queue.size ∧ handleFirst count begun = .ok v

section Induction

variable {centre : Vec2 α} {direction : Option (Vec2 α)} {P : Growth α → Prop}
  (hplant : ∀ v, g.plant centre direction = .ok v → P v)
  (hstep : ∀ v v', g.Passes centre direction v → P v → v.step = .ok v' → P v')
  (hcount : ∀ v : Growth α, P v → P { v with stats.iterations := v.stats.iterations + 1 })

include hstep

/-- The tasks of a round keep what holds when the round begins. -/
theorem holds_of_handleFirst {planted begun v : Growth α} {rounds count : Nat}
    (hplanted : g.plant centre direction = .ok planted) (hrounds : rounds < g.roundLimit)
    (hrun : run rounds planted = .ok begun) (hbegun : P begun) (hle : count ≤ begun.queue.size)
    (h : handleFirst count begun = .ok v) : P v := by
  induction count generalizing v with
  | zero =>
    cases h
    exact hbegun
  | succ count ih =>
    rw [handleFirst_succ] at h
    obtain ⟨w, hw, hlast⟩ := bind_eq_ok.1 h
    have hpass : g.Passes centre direction w :=
      ⟨planted, rounds, begun, count, hplanted, hrounds, hrun, by omega, hw⟩
    exact hstep w v hpass (ih (by omega) hw) hlast

include hplant hcount

theorem holds_of_run {planted v : Growth α} {rounds : Nat}
    (hplanted : g.plant centre direction = .ok planted) (hrounds : rounds ≤ g.roundLimit)
    (h : run rounds planted = .ok v) : P v := by
  induction rounds generalizing v with
  | zero =>
    cases h
    exact hplant _ hplanted
  | succ rounds ih =>
    rw [run_succ] at h
    obtain ⟨begun, hbegun, h⟩ := bind_eq_ok.1 h
    have hP := ih (by omega) hbegun
    obtain rfl | ⟨w, hw, rfl⟩ := run_one_cases h
    · exact hP
    · exact hcount w (holds_of_handleFirst hstep hplanted (by omega) hbegun hP
        (Nat.le_refl _) hw)

/-- Induction over the states that growth passes. -/
theorem holds_of_passes {v : Growth α} (h : g.Passes centre direction v) : P v := by
  obtain ⟨planted, rounds, begun, count, hplanted, hrounds, hbegun, hle, hv⟩ := h
  have hP := holds_of_run hplant hstep hcount hplanted (Nat.le_of_lt hrounds) hbegun
  exact holds_of_handleFirst hstep hplanted hrounds hbegun hP hle hv

/-- What holds in every state that growth passes holds when growth is done. -/
theorem holds_of_generate (hqueue : ∀ v : Growth α, P v → P { v with queue := .empty })
    (h : g.generate centre direction = .ok g') : P g' := by
  obtain ⟨planted, hplanted, h⟩ := bind_eq_ok.1 h
  obtain ⟨grown, hgrown, h⟩ := bind_eq_ok.1 h
  have hP := holds_of_run hplant hstep hcount hplanted (Nat.le_refl _) hgrown
  split at h
  · cases h
  · cases h
    exact hqueue grown hP

end Induction

/-! ## A plain -/

/-- Growth that has not begun, over six by six cells of the same height and density. -/
def onPlain (settings : GrowthSettings Float32) : Growth Float32 :=
  start ⟨⟨6, 6, .replicate _ 1⟩, ⟨6, 6, .replicate _ 1⟩⟩ ⟨⟨0, 0⟩, ⟨5, 5⟩⟩ settings

/-- Trigonometry with the sine and cosine of a right angle to either side in place of those of any
angle; no other turns are made where roads go straight on. -/
@[reducible]
def quarterTurns : Trigonometry Float32 where
  degree := Float32.ofBits 0x3c8efa35
  turn := Float32.ofBits 0x40c90fdb
  sin a := if a < 0 then -1 else 1
  cos _ := Float32.ofBits 0xb33bbd2e
  tan := Float32.tan
  atan2 := Float32.atan2
  pow := Float32.pow

end Growth

end Cityscape
