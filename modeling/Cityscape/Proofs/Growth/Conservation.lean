import Cityscape.Proofs.Growth.Runs
import Mathlib.Algebra.BigOperators.Group.List.Basic

/-!
# Growth loses no task

Every road that is gone on from sends out three tasks, each of which leads to one proposed road.
What the waiting tasks still owe and what was counted so far therefore add up to the same number
after every task: one road for the beginning and three for each road that was built, but for the
merged ones if growth does not continue behind them.

## Main definitions

* `Task.owes`, `Growth.owed` — the proposed roads that waiting tasks are yet to lead to.
* `Growth.lost` — the proposed roads that no count and no waiting task accounts for.
* `Growth.Kept` — no task was handled twice, and none was lost.

## Main statements

* `Growth.Kept.step` — a task resolves what it owes.
* `Growth.iterations_of_run` — a run takes all its rounds or ends with nothing to do.
* `Growth.lost_of_generate` — nothing is lost, so the counts of a growth that came to its end
  determine each other.
-/

namespace Cityscape

variable {α : Type}

/-- The number of proposed roads that a waiting task leads to before any of them is gone on from. A
branch and a proposal are one; a road that was built sends out three unless it merged and growth
stops there. -/
def Task.owes (continues : Bool) : Task α → Nat
  | .propose _ _ => 1
  | .branch _ _ _ => 1
  | .extend _ _ _ merged => if merged && !continues then 0 else 3

namespace Growth

/-- The proposed roads that the waiting tasks are yet to lead to. -/
def owed (g : Growth α) : Nat :=
  (g.queue.toList.map (Task.owes g.settings.continueAfterMerge)).sum

/-- The merged roads that growth does not go on from. -/
def stalled (g : Growth α) : Nat :=
  if g.settings.continueAfterMerge then 0 else g.stats.merged

/-- The proposed roads that neither a count nor a waiting task accounts for: the first road and the
three behind each road that is gone on from, less those that were resolved and those still owed. A
task that was handled twice would make the number negative. -/
def lost (g : Growth α) : Int :=
  (1 + 3 * ((g.stats.built : Int) - g.stalled)) - (g.stats.built + g.stats.failed) - g.owed

/-- No task was handled twice; and unless branches wait for a negative time, none was lost. -/
structure Kept (g : Growth α) : Prop where
  /-- A road that is to be gone on from lies between two crossroads. -/
  ends : ∀ plan start finish merged, .extend plan start finish merged ∈ g.queue.toList →
    (g.map.network.position? start).isSome ∧ (g.map.network.position? finish).isSome
  nonneg : 0 ≤ g.lost
  /-- Unless it is settled that branches are dropped, none is. -/
  none_lost : 0 ≤ g.settings.delay → g.lost = 0
  waits : 0 ≤ g.settings.delay →
    ∀ delay plan start, .branch delay plan start ∈ g.queue.toList → 0 ≤ delay

@[simp] theorem toList_push_queue (g : Growth α) (task : Task α) :
    (g.push task).queue.toList = g.queue.toList ++ [task] := Fifo.toList_push g.queue task

@[simp] theorem settings_push (g : Growth α) (task : Task α) :
    (g.push task).settings = g.settings := rfl

variable [Scalar α] [Trigonometry α] {g g' v v' : Growth α}

/-! ## The tasks that a task sends out -/

@[simp] theorem settings_branchOff (g : Growth α) (plan : RoadPlan α) (start : CrossroadId)
    (chance angle : α) : (g.branchOff plan start chance angle).settings = g.settings := rfl

/-- A branch waits for no time or for the settled one. -/
theorem toList_branchOff (g : Growth α) (plan : RoadPlan α) (start : CrossroadId)
    (chance angle : α) : ∃ delay branch, (delay = 0 ∨ delay = g.settings.delay) ∧
      (g.branchOff plan start chance angle).queue.toList =
        g.queue.toList ++ [.branch delay branch start] := by
  unfold branchOff
  exact ⟨_, _, ite_eq_or_eq _ _ _, toList_push_queue _ _⟩

theorem settings_of_extend {plan : RoadPlan α} {start finish : CrossroadId}
    (h : g.extend plan start finish = .ok g') : g'.settings = g.settings := by
  unfold extend at h
  split at h
  · obtain ⟨forward, -, h⟩ := bind_eq_ok.1 h
    obtain ⟨density, -, h⟩ := bind_eq_ok.1 h
    cases h
    rfl
  · cases h
    rfl

/-- Going on from a road between two crossroads sends out a road and two branches. -/
theorem toList_of_extend {plan : RoadPlan α} {start finish : CrossroadId}
    (hstart : (g.map.network.position? start).isSome)
    (hfinish : (g.map.network.position? finish).isSome)
    (h : g.extend plan start finish = .ok g') : ∃ forward left right delay delay',
      (delay = 0 ∨ delay = g.settings.delay) ∧ (delay' = 0 ∨ delay' = g.settings.delay) ∧
      g'.queue.toList = g.queue.toList ++
        [.propose forward finish, .branch delay left start, .branch delay' right start] := by
  obtain ⟨a, ha⟩ := Option.isSome_iff_exists.1 hstart
  obtain ⟨b, hb⟩ := Option.isSome_iff_exists.1 hfinish
  simp only [extend, ha, hb] at h
  obtain ⟨forward, -, h⟩ := bind_eq_ok.1 h
  obtain ⟨density, -, h⟩ := bind_eq_ok.1 h
  cases h
  obtain ⟨delay, left, hdelay, hleft⟩ := toList_branchOff (g.push (.propose forward finish)) plan
    start (g.settings.highwayChance * density) 90.0
  obtain ⟨delay', right, hdelay', hright⟩ := toList_branchOff
    ((g.push (.propose forward finish)).branchOff plan start
      (g.settings.highwayChance * density) 90.0) plan start
    (g.settings.highwayChance * density) (-90.0)
  refine ⟨forward, left, right, delay, delay', hdelay, hdelay', ?_⟩
  rw [hright, hleft, toList_push_queue]
  simp

/-- A proposed road fails and sends out nothing, or it is built and is to be gone on from. -/
theorem toList_of_resolve {plan : RoadPlan α} {start : CrossroadId}
    (h : g.resolve plan start = .ok g') :
    g'.settings = g.settings ∧
      ((g'.stats = g.stats.count .failed ∧ g'.queue.toList = g.queue.toList) ∨
        ∃ finish merged, g'.stats = g.stats.count (if merged then .merged else .succeeded) ∧
          g'.queue.toList = g.queue.toList ++ [.extend plan start finish merged] ∧
          (g'.map.network.position? start).isSome ∧
          (g'.map.network.position? finish).isSome) := by
  obtain ⟨⟨outcome, built⟩, hbuild, h⟩ := bind_eq_ok.1 h
  obtain ⟨map, hmap, rfl⟩ := build_eq_ok hbuild
  obtain ⟨hfailed, rfl⟩ | ⟨-, fitted, e, finish, id, -, -, rfl, hextends⟩ :=
    RoadMap.build_extends hmap
  · obtain ⟨verdict, finish, id, fitted⟩ := outcome
    cases hfailed
    cases h
    exact ⟨rfl, .inl ⟨rfl, rfl⟩⟩
  · obtain ⟨midpoint, hroad⟩ := hextends.road?_self
    have hends := RoadNetwork.isSome_ends hroad
    cases e <;> cases h
    · exact ⟨rfl, .inr ⟨finish, false, rfl, toList_push_queue _ _, hends⟩⟩
    · exact ⟨rfl, .inr ⟨finish, true, rfl, toList_push_queue _ _, hends⟩⟩
    · exact ⟨rfl, .inr ⟨finish, true, rfl, toList_push_queue _ _, hends⟩⟩

/-- The crossroads of growth stay. -/
theorem isSome_position?_of_step (h : v.step = .ok v') {c : CrossroadId}
    (hc : (v.map.network.position? c).isSome) : (v'.map.network.position? c).isSome := by
  obtain ⟨hmap, -⟩ | ⟨plan, start, outcome, hbuild, -⟩ := step_cases h
  · rwa [hmap]
  obtain ⟨-, hmap⟩ | ⟨-, fitted, e, finish, id, -, -, -, hextends⟩ :=
    RoadMap.build_extends hbuild
  · rwa [hmap]
  · obtain ⟨p, hp⟩ := Option.isSome_iff_exists.1 hc
    rw [hextends.position?_eq hp]
    rfl

/-! ## What a task does to the sums -/

omit [Scalar α] [Trigonometry α] in
/-- A task that is taken from the queue owes nothing any more, and those that it sends out do. -/
theorem owed_of_queue {task : Task α} {rest new : List (Task α)}
    (hqueue : v.queue.toList = task :: rest) (hnew : v'.queue.toList = rest ++ new)
    (hsettings : v'.settings = v.settings) :
    v'.owed + task.owes v.settings.continueAfterMerge =
      v.owed + (new.map (Task.owes v.settings.continueAfterMerge)).sum := by
  simp only [owed, hqueue, hnew, hsettings, List.map_append, List.sum_append, List.map_cons,
    List.sum_cons]
  omega

omit [Scalar α] [Trigonometry α] in
/-- Nothing is lost as long as the tasks that are sent out are fit to be handled and the sums stay
as they are. -/
theorem Kept.of_queue (hv : v.Kept) {task : Task α} {rest new : List (Task α)}
    (hqueue : v.queue.toList = task :: rest) (hnew : v'.queue.toList = rest ++ new)
    (hsettings : v'.settings = v.settings)
    (hpositions : ∀ c, (v.map.network.position? c).isSome → (v'.map.network.position? c).isSome)
    (hends : ∀ plan start finish merged, .extend plan start finish merged ∈ new →
      (v'.map.network.position? start).isSome ∧ (v'.map.network.position? finish).isSome)
    (hwaits : 0 ≤ v.settings.delay → ∀ delay plan start, .branch delay plan start ∈ new → 0 ≤ delay)
    (hlost : v.lost ≤ v'.lost) (hnone : 0 ≤ v.settings.delay → v'.lost = v.lost) : v'.Kept := by
  have hrest {other : Task α} (h : other ∈ v'.queue.toList) :
      other ∈ v.queue.toList ∨ other ∈ new := by
    rw [hnew, List.mem_append] at h
    rw [hqueue]
    exact h.imp_left (List.mem_cons_of_mem task)
  refine ⟨fun plan start finish merged h => ?_, hv.nonneg.trans hlost, fun h => ?_,
    fun h delay plan start hbranch => ?_⟩
  · obtain hold | h := hrest h
    · exact (hv.ends plan start finish merged hold).imp (hpositions start) (hpositions finish)
    · exact hends plan start finish merged h
  · rw [hsettings] at h
    rw [hnone h, hv.none_lost h]
  · rw [hsettings] at h
    obtain hold | hbranch := hrest hbranch
    · exact hv.waits h delay plan start hold
    · exact hwaits h delay plan start hbranch

theorem Kept.resolve (hv : v.Kept) {queue : Fifo (Task α)} {plan : RoadPlan α}
    {start : CrossroadId} (hqueue : v.queue.toList = .propose plan start :: queue.toList)
    (hpositions : ∀ c, (v.map.network.position? c).isSome → (v'.map.network.position? c).isSome)
    (h : { v with queue }.resolve plan start = .ok v') : v'.Kept := by
  obtain ⟨hsettings, ⟨hstats, hnew⟩ | ⟨finish, merged, hstats, hnew, hends⟩⟩ := toList_of_resolve h
  · rw [← List.append_nil queue.toList] at hnew
    have howed := owed_of_queue hqueue hnew hsettings
    have hlost : v'.lost = v.lost := by
      simp only [Task.owes, List.map_nil, List.sum_nil] at howed
      simp only [lost, stalled, hstats, hsettings, GrowthStats.count]
      omega
    exact hv.of_queue hqueue hnew hsettings hpositions (by simp) (by simp) hlost.ge fun _ => hlost
  · have howed := owed_of_queue hqueue hnew hsettings
    have hlost : v'.lost = v.lost := by
      simp only [Task.owes, List.map_cons, List.map_nil, List.sum_cons, List.sum_nil] at howed
      simp only [lost, stalled, hstats, hsettings]
      -- a road that is not gone on from owes nothing, and counts as stalled instead
      cases merged <;> cases hc : v.settings.continueAfterMerge <;>
        simp [hc, GrowthStats.count] at howed ⊢ <;> omega
    refine hv.of_queue hqueue hnew hsettings hpositions ?_ (by simp) hlost.ge fun _ => hlost
    intro plan' start' finish' merged' hmem
    cases List.mem_singleton.1 hmem
    exact hends

theorem Kept.extend (hv : v.Kept) {queue : Fifo (Task α)} {plan : RoadPlan α}
    {start finish : CrossroadId} {merged : Bool}
    (hqueue : v.queue.toList = .extend plan start finish merged :: queue.toList)
    (hgoes : (merged && !v.settings.continueAfterMerge) = false)
    (h : { v with queue }.extend plan start finish = .ok v') : v'.Kept := by
  obtain ⟨hstart, hfinish⟩ := hv.ends plan start finish merged (by simp [hqueue])
  obtain ⟨hmap, hstats⟩ := extend_frame h
  have hsettings := settings_of_extend h
  obtain ⟨forward, left, right, delay, delay', hdelay, hdelay', hnew⟩ :=
    toList_of_extend (g := { v with queue }) hstart hfinish h
  have howed := owed_of_queue hqueue hnew hsettings
  have hlost : v'.lost = v.lost := by
    simp only [Task.owes, hgoes, Bool.false_eq_true, if_false, List.map_cons, List.map_nil,
      List.sum_cons, List.sum_nil] at howed
    simp only [lost, stalled, hstats, hsettings]
    omega
  refine hv.of_queue hqueue hnew hsettings (by simp [hmap]) (by simp) (fun hsettled => ?_)
    hlost.ge fun _ => hlost
  intro wait plan' start' hmem
  have hwaits {d : Int} (hd : d = 0 ∨ d = v.settings.delay) : 0 ≤ d := by omega
  have hwait : wait = delay ∨ wait = delay' := by
    simp only [List.mem_cons, reduceCtorEq, Task.branch.injEq, List.not_mem_nil, or_false,
      false_or] at hmem
    exact hmem.imp (·.1) (·.1)
  rcases hwait with rfl | rfl
  · exact hwaits hdelay
  · exact hwaits hdelay'

omit [Scalar α] [Trigonometry α] in
/-- A task may be dropped if it owes nothing, or if branches need not be kept. -/
theorem Kept.drop (hv : v.Kept) {queue : Fifo (Task α)} {task : Task α}
    (hqueue : v.queue.toList = task :: queue.toList)
    (howes : 0 ≤ v.settings.delay → task.owes v.settings.continueAfterMerge = 0) :
    Kept { v with queue } := by
  have hnew : (Growth.queue { v with queue }).toList = queue.toList ++ [] :=
    (List.append_nil _).symm
  have howed := owed_of_queue hqueue hnew rfl
  have hlost : Growth.lost { v with queue } =
      v.lost + task.owes v.settings.continueAfterMerge := by
    simp only [List.map_nil, List.sum_nil] at howed
    simp only [lost, stalled]
    omega
  refine hv.of_queue hqueue hnew rfl (fun _ h => h) (by simp) (by simp) (by omega)
    fun hsettled => ?_
  rw [hlost, howes hsettled]
  simp

/-- A branch that waits is kept, and a branch that does not is proposed. Only one with a negative
time to wait is lost. -/
theorem Kept.branch (hv : v.Kept) {queue : Fifo (Task α)} {delay : Int} {plan : RoadPlan α}
    {start : CrossroadId} (hqueue : v.queue.toList = .branch delay plan start :: queue.toList)
    (h : { v with queue }.handle (.branch delay plan start) = .ok v') : v'.Kept := by
  have hwait (hsettled : 0 ≤ v.settings.delay) : 0 ≤ delay :=
    hv.waits hsettled delay plan start (by simp [hqueue])
  -- what is put into the queue for the branch owes as much as the branch itself
  have hkept {task : Task α} (howes : task.owes v.settings.continueAfterMerge = 1)
      (hends : ∀ plan start finish merged, task ≠ .extend plan start finish merged)
      (hdelay : ∀ delay plan start, task = .branch delay plan start → 0 ≤ delay) :
      (Growth.push { v with queue } task).Kept := by
    have hnew := toList_push_queue { v with queue } task
    have howed := owed_of_queue hqueue hnew rfl
    have hlost : (Growth.push { v with queue } task).lost = v.lost := by
      simp only [List.map_cons, List.map_nil, List.sum_cons, List.sum_nil, howes] at howed
      simp only [Task.owes] at howed
      have hstalled : (Growth.push { v with queue } task).stalled = v.stalled := rfl
      simp only [lost, hstalled, stats_push]
      omega
    refine hv.of_queue hqueue hnew rfl (fun _ h => h) (fun plan start finish merged hmem => ?_)
      (fun _ wait plan start hmem => ?_) hlost.ge fun _ => hlost
    · exact absurd (List.mem_singleton.1 hmem).symm (hends plan start finish merged)
    · exact hdelay wait plan start (List.mem_singleton.1 hmem).symm
  simp only [handle] at h
  split at h
  next hnegative =>
    cases h
    exact hv.drop hqueue fun hsettled => absurd (hwait hsettled) (by omega)
  next hnonneg =>
    split at h
    next hpositive =>
      cases h
      exact hkept rfl (by simp) (by simp; omega)
    next =>
      cases h
      exact hkept rfl (by simp) (by simp)

/-- Every task resolves what it owes, by a count or by the tasks that it sends out. -/
theorem Kept.step (hv : v.Kept) (h : v.step = .ok v') : v'.Kept := by
  have hpositions := fun c => isSome_position?_of_step h (c := c)
  unfold Growth.step at h
  split at h
  next task queue hpop =>
    have hqueue := Fifo.toList_of_pop? hpop
    cases task with
    | propose plan start => exact hv.resolve hqueue hpositions h
    | extend plan start finish merged =>
      simp only [handle] at h
      split at h
      next hstays =>
        cases h
        exact hv.drop hqueue fun _ => by simp only [Task.owes, hstays, if_true]
      next hgoes => exact hv.extend hqueue (Bool.eq_false_of_not_eq_true hgoes) h
    | branch delay plan start => exact hv.branch hqueue h
  · cases h
    exact hv

/-! ## Whole runs -/

/-- Growth begins with a single proposed road. -/
theorem toList_of_plant {centre : Vec2 α} {direction : Option (Vec2 α)}
    (h : g.plant centre direction = .ok v) :
    v.settings = g.settings ∧ ∃ plan start, v.queue.toList = [.propose plan start] := by
  obtain ⟨⟨heading, stream⟩, -, h⟩ := bind_eq_ok.1 h
  cases h
  exact ⟨rfl, _, _, rfl⟩

theorem kept_of_plant {centre : Vec2 α} {direction : Option (Vec2 α)}
    (h : g.plant centre direction = .ok v) : v.Kept := by
  obtain ⟨-, hstats⟩ := plant_cases h
  obtain ⟨-, plan, start, hqueue⟩ := toList_of_plant h
  have hlost : v.lost = 0 := by
    simp [lost, stalled, owed, hqueue, hstats, Task.owes, GrowthStats.zero]
  exact ⟨by simp [hqueue], hlost.ge, fun _ => hlost, by simp [hqueue]⟩

omit [Scalar α] [Trigonometry α] in
theorem Kept.count_round (hv : v.Kept) :
    Kept { v with stats.iterations := v.stats.iterations + 1 } :=
  ⟨hv.ends, hv.nonneg, hv.none_lost, hv.waits⟩

theorem settings_of_step (h : v.step = .ok v') : v'.settings = v.settings := by
  unfold Growth.step at h
  split at h
  next task queue hpop =>
    cases task with
    | propose plan start => exact (toList_of_resolve h).1
    | extend plan start finish merged =>
      simp only [handle] at h
      split at h
      · cases h
        rfl
      · exact settings_of_extend (g := { v with queue }) h
    | branch delay plan start =>
      simp only [handle] at h
      split at h
      · cases h
        rfl
      · split at h <;> cases h <;> rfl
  · cases h
    rfl

/-- The tasks of a round do not count as a round. -/
theorem iterations_of_handleFirst {count : Nat} (h : handleFirst count g = .ok v) :
    v.stats.iterations = g.stats.iterations := by
  induction count generalizing v with
  | zero =>
    cases h
    rfl
  | succ count ih =>
    rw [handleFirst_succ] at h
    obtain ⟨w, hw, hlast⟩ := bind_eq_ok.1 h
    obtain ⟨-, hstats⟩ | ⟨plan, start, outcome, -, hstats⟩ := step_cases hlast
    · rw [hstats, ih hw]
    · rw [hstats, ← ih hw]
      cases outcome.verdict <;> rfl

/-- A run takes all its rounds, unless it ends with nothing to do. -/
theorem iterations_of_run {rounds : Nat} (h : run rounds g = .ok v) :
    v.queue.toList = [] ∨ v.stats.iterations = g.stats.iterations + rounds := by
  induction rounds generalizing g with
  | zero =>
    cases h
    exact .inr rfl
  | succ rounds ih =>
    unfold run at h
    split at h
    next hempty =>
      cases h
      left
      rw [← List.length_eq_zero_iff, Fifo.length_toList]
      simpa [Fifo.isEmpty] using hempty
    · obtain ⟨begun, hround, h⟩ := bind_eq_ok.1 h
      obtain ⟨w, hw, hround⟩ := bind_eq_ok.1 hround
      cases hround
      have hbegun := iterations_of_handleFirst hw
      refine (ih h).imp_right fun hcount => ?_
      simp only [hcount, hbegun]
      omega

/-- Between its tasks growth accounts for every proposed road, as long as no branch waits for a
negative time. So the roads that failed are determined by those that were built and merged once
nothing is left to do; and they are never more than the roads that were built and the first one
brought about. -/
theorem lost_of_generate (g : Growth α) (centre : Vec2 α) (direction : Option (Vec2 α)) :
    (∀ v, g.Passes centre direction v → 0 ≤ v.lost ∧ (0 ≤ g.settings.delay → v.lost = 0)) ∧
    ∀ g', g.generate centre direction = .ok g' →
      g'.stats.built + g'.stats.failed ≤ 1 + 3 * g'.stats.built ∧
      (0 ≤ g.settings.delay → g.settings.rounds = 0 ∨ g'.stats.iterations < g.settings.rounds →
        (g'.stats.failed : Int) = 2 * g'.stats.built + 1 -
          if g.settings.continueAfterMerge then 0 else 3 * (g'.stats.merged : Int)) := by
  have hplant (v : Growth α) (h : g.plant centre direction = .ok v) :
      v.Kept ∧ v.settings = g.settings := ⟨kept_of_plant h, (toList_of_plant h).1⟩
  have hstep (v v' : Growth α) (_ : g.Passes centre direction v)
      (hv : v.Kept ∧ v.settings = g.settings) (h : v.step = .ok v') :
      v'.Kept ∧ v'.settings = g.settings := ⟨hv.1.step h, (settings_of_step h).trans hv.2⟩
  have hcount (v : Growth α) (hv : v.Kept ∧ v.settings = g.settings) :
      Kept { v with stats.iterations := v.stats.iterations + 1 } ∧ v.settings = g.settings :=
    ⟨hv.1.count_round, hv.2⟩
  constructor
  · intro v hpass
    obtain ⟨hv, hsettings⟩ := holds_of_passes hplant hstep hcount hpass
    exact ⟨hv.nonneg, fun hdelay => hv.none_lost (hsettings ▸ hdelay)⟩
  intro g' h
  obtain ⟨planted, hplanted, h⟩ := bind_eq_ok.1 h
  obtain ⟨grown, hgrown, h⟩ := bind_eq_ok.1 h
  obtain ⟨hkept, hsettings⟩ :=
    holds_of_run hplant hstep hcount hplanted (Nat.le_refl _) hgrown
  have hrounds := iterations_of_run hgrown
  have hnone : planted.stats.iterations = 0 := by
    rw [(plant_cases hplanted).2]
    rfl
  split at h
  · cases h
  next hcounted =>
    cases h
    change grown.stats.built + grown.stats.failed ≤ 1 + 3 * grown.stats.built ∧
      (0 ≤ g.settings.delay → g.settings.rounds = 0 ∨ grown.stats.iterations < g.settings.rounds →
        (grown.stats.failed : Int) = 2 * grown.stats.built + 1 -
          if g.settings.continueAfterMerge then 0 else 3 * (grown.stats.merged : Int))
    constructor
    · have hlost := hkept.nonneg
      simp only [lost] at hlost
      omega
    · intro hdelay hend
      have hempty : grown.queue.toList = [] := by
        refine hrounds.resolve_right fun hlimit => ?_
        unfold roundLimit at hlimit
        split at hlimit <;> omega
      have hlost := hkept.none_lost (hsettings ▸ hdelay)
      simp only [lost, owed, hempty, List.map_nil, List.sum_nil, stalled, hsettings] at hlost
      cases hc : g.settings.continueAfterMerge <;> simp [hc] at hlost ⊢ <;> omega

/-- Settings with which growth goes around a square until nothing is left to do; its fourth side
joins the first crossroad. -/
def aroundSquare (continueAfterMerge : Bool) : GrowthSettings Float32 :=
  { GrowthSettings.standard with
    roadLength := 2.25, pruning := 1, largestTurn := 0, reach := 1.25, delay := 0, rounds := 0,
    continueAfterMerge, rule := .grid }

/-- Three rounds over a plain, at whose end a road still waits; and growth around a square that
comes to its end, where nine proposed roads fail if it goes on behind the road that joined the
network, and six if it does not. -/
theorem lost_of_generate_onPlain :
    let limited : GrowthSettings Float32 :=
      { GrowthSettings.standard with rounds := 3, roadLength := 2, rule := .grid }
    (∃ g', (onPlain limited).generate ⟨0, 2⟩ (some ⟨1, 0⟩) = .ok g' ∧ g'.stats.built = 2 ∧
      g'.stats.built + g'.stats.failed ≤ 1 + 3 * g'.stats.built) ∧
    letI := quarterTurns
    (∃ g', (onPlain (aroundSquare true)).generate ⟨0, 1⟩ (some ⟨1, 0⟩) = .ok g' ∧
      g'.stats.built = 4 ∧ g'.stats.merged = 1 ∧
      (g'.stats.failed : Int) = 2 * g'.stats.built + 1) ∧
    ∃ g', (onPlain (aroundSquare false)).generate ⟨0, 1⟩ (some ⟨1, 0⟩) = .ok g' ∧
      g'.stats.built = 4 ∧ g'.stats.merged = 1 ∧
      (g'.stats.failed : Int) = 2 * g'.stats.built + 1 - 3 * g'.stats.merged := by
  intro limited
  refine ⟨?_, ?_⟩
  · have hok : (do
        let g ← (onPlain limited).generate ⟨0, 2⟩ (some ⟨1, 0⟩)
        return g.stats.built) = .ok 2 := by decide +kernel
    obtain ⟨g', h, hbuilt⟩ := bind_eq_ok.1 hok
    have hbound := ((lost_of_generate (onPlain limited) ⟨0, 2⟩ (some ⟨1, 0⟩)).2 g' h).1
    exact ⟨g', h, Except.ok.inj hbuilt, hbound⟩
  · let := quarterTurns
    have hok (continueAfterMerge : Bool) : (do
        let g ← (onPlain (aroundSquare continueAfterMerge)).generate ⟨0, 1⟩ (some ⟨1, 0⟩)
        return (g.stats.built, g.stats.merged)) = .ok (4, 1) := by
      cases continueAfterMerge <;> decide +kernel
    have hend (continueAfterMerge : Bool) : ∃ g' : Growth Float32,
        (onPlain (aroundSquare continueAfterMerge)).generate ⟨0, 1⟩ (some ⟨1, 0⟩) = .ok g' ∧
          g'.stats.built = 4 ∧ g'.stats.merged = 1 ∧
          (g'.stats.failed : Int) = 2 * g'.stats.built + 1 -
            if continueAfterMerge then 0 else 3 * (g'.stats.merged : Int) := by
      obtain ⟨g', h, hcounts⟩ := bind_eq_ok.1 (hok continueAfterMerge)
      obtain ⟨hbuilt, hmerged⟩ := Prod.mk.inj (Except.ok.inj hcounts)
      exact ⟨g', h, hbuilt, hmerged,
        ((lost_of_generate _ ⟨0, 1⟩ (some ⟨1, 0⟩)).2 g' h).2 (Int.le_refl 0) (.inl rfl)⟩
    exact ⟨by simpa using hend true, by simpa using hend false⟩

end Growth

end Cityscape
