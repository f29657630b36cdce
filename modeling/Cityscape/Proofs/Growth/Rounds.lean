import Cityscape.Proofs.Growth.Conservation

/-!
# The rounds of growth

A round handles the tasks that are waiting when it begins, in their order, and what they send out is
handled in the next round. So the tasks of a growth are a forest whose generations are the rounds:
what a task sends out stands one generation below it. A branch sends out itself with a shorter
delay, until it sends out the road that it is to propose; the generation of that road is the round
in which the road is proposed.

## Main definitions

* `Task.Sends` — what a task sends out.
* `TaskTree`, `TaskTree.generation` — tasks with everything that comes of them.
* `Growth.Handles`, `Growth.Unrolls` — a round, and a run of rounds.
* `TaskTree.ProposesIn`, `TaskTree.GoesOn` — in which round a road is proposed.

## Main statements

* `Growth.sends_of_step` — what the oldest task of the queue sends out.
* `Growth.exists_unrolls` — a run of rounds is a forest of tasks.
* `Growth.proposed_of_passes` — the road ahead is proposed in the next round, a highway to a side in
  the round after that, and a byway to a side once the delay is over.
-/

namespace Cityscape

variable {α : Type}

/-! ## What a task sends out -/

/-- How long a branch waits before it proposes its road: a byway for the settled delay, and a
highway not at all. -/
def GrowthSettings.wait (settings : GrowthSettings α) (branch : RoadPlan α) : Int :=
  if branch.highway then 0 else settings.delay

section Sends

variable [Scalar α] [Trigonometry α]

/-- A branch at an angle to a road: as long as the road, and of any class. -/
def RoadPlan.Turns (plan : RoadPlan α) (angle : α) (branch : RoadPlan α) : Prop :=
  branch.length = plan.length ∧ branch.direction = plan.direction.rotate angle

/-- The tasks that a task puts into the queue when it is handled. -/
inductive Task.Sends (settings : GrowthSettings α) : Task α → List (Task α) → Prop
  /-- The proposed road is not built. -/
  | refuse (plan : RoadPlan α) (start : CrossroadId) : Sends settings (.propose plan start) []
  | build (plan : RoadPlan α) (start finish : CrossroadId) (merged : Bool) :
      Sends settings (.propose plan start) [.extend plan start finish merged]
  /-- Growth does not continue behind a merged road. -/
  | stop (plan : RoadPlan α) (start finish : CrossroadId) (merged : Bool)
      (hstops : (merged && !settings.continueAfterMerge) = true) :
      Sends settings (.extend plan start finish merged) []
  | extend {plan left right : RoadPlan α} (forward : RoadPlan α) (start finish : CrossroadId)
      (merged : Bool) (hgoes : (merged && !settings.continueAfterMerge) = false)
      (hleft : plan.Turns 90.0 left) (hright : plan.Turns (-90.0) right) :
      Sends settings (.extend plan start finish merged)
        [.propose forward finish, .branch (settings.wait left) left start,
          .branch (settings.wait right) right start]
  /-- A branch with a negative delay is forgotten. -/
  | forget {delay : Int} (plan : RoadPlan α) (start : CrossroadId) (hdelay : delay < 0) :
      Sends settings (.branch delay plan start) []
  | wait {delay : Int} (plan : RoadPlan α) (start : CrossroadId) (hdelay : 0 < delay) :
      Sends settings (.branch delay plan start) [.branch (delay - 1) plan start]
  | propose (plan : RoadPlan α) (start : CrossroadId) :
      Sends settings (.branch 0 plan start) [.propose plan start]

namespace Task.Sends

variable {settings : GrowthSettings α} {sent : List (Task α)} {plan : RoadPlan α}
  {start finish : CrossroadId}

/-- A road that is gone on from sends out nothing, or the road ahead and a branch to either side. -/
theorem extend_cases {merged : Bool}
    (h : (Task.extend plan start finish merged).Sends settings sent) :
    sent = [] ∨ ∃ left right forward, plan.Turns 90.0 left ∧ plan.Turns (-90.0) right ∧
      sent = [.propose forward finish, .branch (settings.wait left) left start,
        .branch (settings.wait right) right start] := by
  cases h with
  | stop => exact .inl rfl
  | extend forward _ _ _ _ hleft hright => exact .inr ⟨_, _, forward, hleft, hright, rfl⟩

/-- A branch sends out itself with a shorter delay, or the proposal of its road. -/
theorem branch {wait : Nat} (h : (Task.branch wait plan start).Sends settings sent) :
    sent = [if wait = 0 then .propose plan start else .branch (wait - 1 : Nat) plan start] := by
  generalize hdelay : (wait : Int) = delay at h
  cases h with
  | forget _ _ hnegative => omega
  | wait _ _ hpositive =>
    rw [if_neg (by omega), ← hdelay, Int.natCast_pred_of_pos (by omega)]
  | propose => rw [if_pos (by omega)]

theorem branch_negative {delay : Int} (hdelay : delay < 0)
    (h : (Task.branch delay plan start).Sends settings sent) : sent = [] := by
  cases h with
  | forget => rfl
  | wait _ _ hpositive => omega
  | propose => omega

end Task.Sends

end Sends

namespace Growth

variable [Scalar α] [Trigonometry α] {g g' v w : Growth α}

theorem toList_branchOff_turns (g : Growth α) (plan : RoadPlan α) (start : CrossroadId)
    (chance angle : α) : ∃ branch, plan.Turns angle branch ∧
      (g.branchOff plan start chance angle).queue.toList =
        g.queue.toList ++ [.branch (g.settings.wait branch) branch start] := by
  unfold branchOff
  exact ⟨⟨plan.length, plan.direction.rotate angle, _⟩, ⟨rfl, rfl⟩, toList_push_queue _ _⟩

theorem sends_of_extend {plan : RoadPlan α} {start finish : CrossroadId} {merged : Bool}
    (hgoes : (merged && !g.settings.continueAfterMerge) = false)
    (hstart : (g.map.network.position? start).isSome)
    (hfinish : (g.map.network.position? finish).isSome)
    (h : g.extend plan start finish = .ok g') : ∃ sent,
      g'.queue.toList = g.queue.toList ++ sent ∧
        (Task.extend plan start finish merged).Sends g.settings sent := by
  obtain ⟨a, ha⟩ := Option.isSome_iff_exists.1 hstart
  obtain ⟨b, hb⟩ := Option.isSome_iff_exists.1 hfinish
  simp only [extend, ha, hb] at h
  obtain ⟨forward, -, h⟩ := bind_eq_ok.1 h
  obtain ⟨density, -, h⟩ := bind_eq_ok.1 h
  cases h
  obtain ⟨left, hleft, hqueue⟩ := toList_branchOff_turns (g.push (.propose forward finish)) plan
    start (g.settings.highwayChance * density) 90.0
  obtain ⟨right, hright, hqueue'⟩ := toList_branchOff_turns
    ((g.push (.propose forward finish)).branchOff plan start
      (g.settings.highwayChance * density) 90.0) plan start
    (g.settings.highwayChance * density) (-90.0)
  refine ⟨_, ?_, .extend forward start finish merged hgoes hleft hright⟩
  rw [hqueue', hqueue, toList_push_queue]
  simp

/-- The oldest task is taken from the queue, and what it sends out is put behind all others. -/
theorem sends_of_step (hv : v.Kept) {task : Task α} {rest : List (Task α)}
    (hqueue : v.queue.toList = task :: rest) (h : v.step = .ok w) :
    ∃ sent, w.queue.toList = rest ++ sent ∧ task.Sends v.settings sent := by
  unfold step at h
  split at h
  next head queue hpop =>
    obtain ⟨rfl, hrest⟩ := List.cons.inj ((Fifo.toList_of_pop? hpop).symm.trans hqueue)
    rw [← hrest]
    cases head with
    | propose plan start =>
      obtain ⟨-, ⟨-, hnew⟩ | ⟨finish, merged, -, hnew, -⟩⟩ := toList_of_resolve h
      · exact ⟨[], by simpa using hnew, .refuse plan start⟩
      · exact ⟨_, hnew, .build plan start finish merged⟩
    | extend plan start finish merged =>
      obtain ⟨hstart, hfinish⟩ := hv.ends plan start finish merged (by simp [hqueue])
      simp only [handle] at h
      split at h
      next hstops =>
        cases h
        exact ⟨[], by simp, .stop plan start finish merged hstops⟩
      next hgoes =>
        exact sends_of_extend (g := { v with queue }) (Bool.eq_false_of_not_eq_true hgoes)
          hstart hfinish h
    | branch delay plan start =>
      simp only [handle] at h
      split at h
      next hnegative =>
        cases h
        exact ⟨[], by simp, .forget plan start hnegative⟩
      next hnonneg =>
        split at h
        next hpositive =>
          cases h
          exact ⟨_, toList_push_queue _ _, .wait plan start hpositive⟩
        next hzero =>
          obtain rfl : delay = 0 := by omega
          cases h
          exact ⟨_, toList_push_queue _ _, .propose plan start⟩
  next hempty =>
    rw [(Fifo.pop?_eq_none_iff v.queue).1 hempty] at hqueue
    cases hqueue

end Growth

/-! ## Forests of tasks -/

/-- A task with the tasks that it sent out, and with everything that came of these. -/
inductive TaskTree (α : Type)
  | node (task : Task α) (sent : List (TaskTree α))

namespace TaskTree

def task : TaskTree α → Task α
  | node task _ => task

def sent : TaskTree α → List (TaskTree α)
  | node _ sent => sent

/-- A task and what it sent out. -/
def record (t : TaskTree α) : Task α × List (Task α) := (t.task, t.sent.map task)

theorem map_fst_record (forest : List (TaskTree α)) :
    (forest.map record).map (·.1) = forest.map task := by
  rw [List.map_map]
  rfl

/-- A task that has sent out nothing. -/
def leaf (task : Task α) : TaskTree α := node task []

/-- The tasks that stand a number of generations below the roots of a forest, in order. -/
def generation : Nat → List (TaskTree α) → List (TaskTree α)
  | 0, forest => forest
  | n + 1, forest => generation n (forest.flatMap sent)

theorem generation_append (n : Nat) (xs ys : List (TaskTree α)) :
    generation n (xs ++ ys) = generation n xs ++ generation n ys := by
  induction n generalizing xs ys with
  | zero => rfl
  | succ n ih => simp only [generation, List.flatMap_append, ih]

theorem generation_nil (n : Nat) : generation n ([] : List (TaskTree α)) = [] := by
  induction n with
  | zero => rfl
  | succ n ih => exact ih

theorem generation_add (m n : Nat) (forest : List (TaskTree α)) :
    generation (m + n) forest = generation n (generation m forest) := by
  induction m generalizing forest with
  | zero => simp [generation]
  | succ m ih =>
    rw [Nat.succ_add]
    exact ih _

theorem generation_succ (n : Nat) (forest : List (TaskTree α)) :
    generation (n + 1) forest = (generation n forest).flatMap sent :=
  generation_add n 1 forest

/-- What comes of a task of a generation stands in the generations below. -/
theorem mem_generation_add {m n : Nat} {forest : List (TaskTree α)} {t s : TaskTree α}
    (ht : t ∈ generation m forest) (hs : s ∈ generation n [t]) : s ∈ generation (m + n) forest := by
  obtain ⟨before, after, hsplit⟩ := List.append_of_mem ht
  rw [generation_add, hsplit, ← List.singleton_append, generation_append, generation_append]
  exact List.mem_append_right _ (List.mem_append_left _ hs)

theorem map_task_leaf (tasks : List (Task α)) : (tasks.map leaf).map task = tasks := by
  simp [leaf, task, Function.comp_def]

theorem flatMap_sent_leaf (tasks : List (Task α)) : (tasks.map leaf).flatMap sent = [] := by
  simp [leaf, sent, List.flatMap_map]

theorem sent_of_mem_generation_leaf {tasks : List (Task α)} {n : Nat} {t : TaskTree α}
    (h : t ∈ generation n (tasks.map leaf)) : t.sent = [] := by
  cases n with
  | zero =>
    obtain ⟨task, -, rfl⟩ := List.mem_map.1 h
    rfl
  | succ n =>
    rw [generation, flatMap_sent_leaf, generation_nil] at h
    cases h

/-- Forests whose roots are what some tasks sent out are grafted onto these tasks. -/
theorem exists_graft {log : List (Task α × List (Task α))} {below : List (TaskTree α)}
    (h : below.map task = log.flatMap (·.2)) :
    ∃ forest : List (TaskTree α), forest.map record = log ∧ forest.flatMap sent = below := by
  induction log generalizing below with
  | nil => exact ⟨[], rfl, (List.map_eq_nil_iff.1 h).symm⟩
  | cons entry log ih =>
    rw [List.flatMap_cons] at h
    obtain ⟨first, later, rfl, hfirst, hlater⟩ := List.map_eq_append_iff.1 h
    obtain ⟨forest, rfl, rfl⟩ := ih hlater
    exact ⟨.node entry.1 first :: forest, by simp [record, task, sent, hfirst], by simp [sent]⟩

end TaskTree

/-! ## Rounds -/

namespace Growth

open TaskTree

variable [Scalar α] [Trigonometry α] {g v v' w : Growth α}

/-- Some tasks are handled one after the other: each is the oldest one in the queue, and what it
sends out is put behind all others. -/
inductive Handles : Growth α → List (Task α × List (Task α)) → Growth α → Prop
  | nil (v : Growth α) : Handles v [] v
  | cons {v w v' : Growth α} {task : Task α} {rest sent : List (Task α)}
      {log : List (Task α × List (Task α))} (hqueue : v.queue.toList = task :: rest)
      (hstep : v.step = .ok w) (hsent : w.queue.toList = rest ++ sent) (hlog : Handles w log v') :
      Handles v ((task, sent) :: log) v'

/-- Growth went on for some rounds, and it is now in the middle of the next one: each round handled
the tasks of a generation of a forest, in order, which were the tasks that were waiting when it
began; and of the generation of the last round, the first tasks are handled by now. -/
structure Unrolls (begun : Growth α) (forest : List (TaskTree α)) (rounds : Nat)
    (v : Growth α) : Prop where
  earlier : ∀ r < rounds, ∃ b a, run r begun = .ok b ∧
    b.queue.toList = (generation r forest).map task ∧
    b.Handles ((generation r forest).map record) a ∧
    run (r + 1) begun = .ok { a with stats.iterations := a.stats.iterations + 1 }
  current : ∃ b done waiting, run rounds begun = .ok b ∧
    b.queue.toList = (generation rounds forest).map task ∧
    generation rounds forest = done ++ waiting ∧ b.Handles (done.map record) v
  /-- Tasks that were handled sent out what they had to, and others nothing. -/
  sends : ∀ n, ∀ t ∈ generation n forest,
    t.task.Sends begun.settings (t.sent.map task) ∨ rounds ≤ n ∧ t.sent = []

/-- The first tasks of the queue are handled, and what they send out is put behind the others. -/
theorem exists_handles {count : Nat} {tasks : List (Task α)} (hv : v.Kept)
    (hqueue : v.queue.toList = tasks) (hle : count ≤ tasks.length)
    (h : handleFirst count v = .ok w) :
    w.Kept ∧ w.settings = v.settings ∧ ∃ log, v.Handles log w ∧
      log.map (·.1) = tasks.take count ∧
      w.queue.toList = tasks.drop count ++ log.flatMap (·.2) ∧
      ∀ x ∈ log, x.1.Sends v.settings x.2 := by
  induction count generalizing v tasks with
  | zero =>
    cases h
    exact ⟨hv, rfl, [], .nil _, rfl, by simpa using hqueue, by simp⟩
  | succ count ih =>
    obtain ⟨u, hstep, h⟩ := bind_eq_ok.1 h
    cases tasks with
    | nil => simp at hle
    | cons task rest =>
      obtain ⟨sent, hsent, hsends⟩ := sends_of_step hv hqueue hstep
      have hcount : count ≤ rest.length := by simpa using hle
      obtain ⟨hkept, hsettings, log, hhandles, htasks, hnew, hlog⟩ :=
        ih (hv.step hstep) hsent (by simp; omega) h
      have hsame := settings_of_step hstep
      refine ⟨hkept, hsettings.trans hsame, (task, sent) :: log, .cons hqueue hstep hsent hhandles,
        ?_, ?_, ?_⟩
      · simp [htasks, List.take_append_of_le_length hcount]
      · simp [hnew, List.drop_append_of_le_length hcount]
      · intro x hx
        obtain rfl | hx := List.mem_cons.1 hx
        · exact hsends
        · exact hsame ▸ hlog x hx

theorem run_of_isEmpty (hempty : v.queue.isEmpty) (rounds : Nat) : run rounds v = .ok v := by
  cases rounds with
  | zero => rfl
  | succ rounds => simp [run, hempty]

theorem run_of_round (hwaits : v.queue.isEmpty = false) (hround : v.round = .ok w) (rounds : Nat) :
    run (rounds + 1) v = run rounds w := by
  simp [run, hwaits, hround, bind, Except.bind]

/-- A run that has something to do begins with all the tasks that are waiting. -/
theorem exists_first_round {rounds : Nat} (hwaits : v.queue.isEmpty = false)
    (h : run (rounds + 1) v = .ok w) : ∃ after, handleFirst v.queue.size v = .ok after ∧
      run rounds { after with stats.iterations := after.stats.iterations + 1 } = .ok w := by
  simp only [run, hwaits] at h
  obtain ⟨next, hround, h⟩ := bind_eq_ok.1 h
  obtain ⟨after, hfirst, hround⟩ := bind_eq_ok.1 hround
  cases hround
  exact ⟨after, hfirst, h⟩

/-- A round that is over, before the rounds that are. -/
theorem Unrolls.of_round {after : Growth α} {forest : List (TaskTree α)} {rounds : Nat}
    (h : Unrolls { after with stats.iterations := after.stats.iterations + 1 }
      (forest.flatMap sent) rounds v)
    (hwaits : v'.queue.isEmpty = false) (hfirst : handleFirst v'.queue.size v' = .ok after)
    (hsettings : after.settings = v'.settings)
    (hqueue : v'.queue.toList = forest.map task) (hhandles : v'.Handles (forest.map record) after)
    (hsends : ∀ t ∈ forest, t.task.Sends v'.settings (t.sent.map task)) :
    v'.Unrolls forest (rounds + 1) v := by
  have hround : v'.round = .ok { after with stats.iterations := after.stats.iterations + 1 } :=
    bind_eq_ok.2 ⟨after, hfirst, rfl⟩
  have hrun := run_of_round hwaits hround
  constructor
  · intro r hr
    cases r with
    | zero => exact ⟨v', after, rfl, hqueue, hhandles, hrun 0⟩
    | succ r =>
      obtain ⟨b, a, hb, hbegun, hlog, ha⟩ := h.earlier r (by omega)
      exact ⟨b, a, (hrun r).trans hb, hbegun, hlog, (hrun (r + 1)).trans ha⟩
  · obtain ⟨b, done, waiting, hb, hbegun, hsplit, hlog⟩ := h.current
    exact ⟨b, done, waiting, (hrun rounds).trans hb, hbegun, hsplit, hlog⟩
  · intro n t ht
    cases n with
    | zero => exact .inl (hsends t ht)
    | succ n =>
      rw [← hsettings]
      exact (h.sends n t ht).imp_right fun hlast => ⟨by omega, hlast.2⟩

/-- In the middle of a round, what was sent out in it has not been handled yet. -/
theorem unrolls_of_handleFirst {count : Nat} {begun : Growth α} (hbegun : begun.Kept)
    (hle : count ≤ begun.queue.size) (h : handleFirst count begun = .ok v) :
    ∃ forest, forest.map task = begun.queue.toList ∧ begun.Unrolls forest 0 v := by
  obtain ⟨-, -, log, hhandles, htasks, -, hlog⟩ :=
    exists_handles hbegun rfl (by simpa using hle) h
  obtain ⟨done, hdone, hbelow⟩ := exists_graft (map_task_leaf (log.flatMap (·.2)))
  let waiting := (begun.queue.toList.drop count).map leaf
  have hroots : (done ++ waiting).map task = begun.queue.toList := by
    rw [List.map_append, ← map_fst_record, hdone, htasks, map_task_leaf, List.take_append_drop]
  refine ⟨done ++ waiting, hroots, fun r hr => absurd hr r.not_lt_zero,
    ⟨begun, done, waiting, rfl, hroots.symm, rfl, hdone ▸ hhandles⟩, fun n t ht => ?_⟩
  cases n with
  | zero =>
    obtain ht | ht := List.mem_append.1 ht
    · have hmem : t.record ∈ log := hdone ▸ List.mem_map_of_mem ht
      exact .inl (hlog _ hmem)
    · exact .inr ⟨Nat.zero_le _, sent_of_mem_generation_leaf (n := 0) ht⟩
  | succ n =>
    rw [generation, List.flatMap_append, hbelow, flatMap_sent_leaf, List.append_nil] at ht
    exact .inr ⟨Nat.zero_le _, sent_of_mem_generation_leaf ht⟩

/-- A run of rounds with some tasks of the next round is a forest of tasks, whose roots are the
tasks that were waiting at the beginning. -/
theorem exists_unrolls {rounds count : Nat} {begun last : Growth α} (hbegun : begun.Kept)
    (hrun : run rounds begun = .ok last) (hle : count ≤ last.queue.size)
    (h : handleFirst count last = .ok v) :
    ∃ forest r, begun.stats.iterations + r = v.stats.iterations ∧
      forest.map task = begun.queue.toList ∧ begun.Unrolls forest r v := by
  induction rounds generalizing begun with
  | zero =>
    cases hrun
    obtain ⟨forest, hroots, hunrolls⟩ := unrolls_of_handleFirst hbegun hle h
    exact ⟨forest, 0, (iterations_of_handleFirst h).symm, hroots, hunrolls⟩
  | succ rounds ih =>
    cases hwaits : begun.queue.isEmpty with
    | true =>
      rw [run_of_isEmpty hwaits] at hrun
      exact ih hbegun ((run_of_isEmpty hwaits rounds).trans hrun)
    | false =>
      obtain ⟨after, hfirst, hrun⟩ := exists_first_round hwaits hrun
      obtain ⟨hkept, hsettings, log, hhandles, htasks, hnew, hlog⟩ :=
        exists_handles hbegun rfl (by simp) hfirst
      simp only [← Fifo.length_toList, List.take_length, List.drop_length, List.nil_append]
        at htasks hnew
      obtain ⟨below, r, hr, hroots, hunrolls⟩ := ih hkept.count_round hrun
      obtain ⟨forest, rfl, rfl⟩ := exists_graft (hroots.trans hnew)
      rw [map_fst_record] at htasks
      have hiterations := iterations_of_handleFirst hfirst
      refine ⟨forest, r + 1, by simp only [hiterations] at hr; omega, htasks, ?_⟩
      exact hunrolls.of_round hwaits hfirst hsettings htasks.symm hhandles fun t ht =>
        hlog _ (List.mem_map_of_mem ht)

end Growth

/-! ## When roads are proposed -/

namespace TaskTree

/-- A task that is handled in the round `first` leads to the proposal of a road in the round `due`,
if that round is reached: in each round up to then exactly one task comes of it, and that one
proposes a road in no round but `due`. -/
def ProposesIn (t : TaskTree α) (rounds first due : Nat) (plan : RoadPlan α)
    (start : CrossroadId) : Prop :=
  ∀ r ≤ rounds, first ≤ r → r ≤ due → ∃ s, generation (r - first) [t] = [s] ∧
    ∀ other c, s.task = .propose other c ↔ r = due ∧ other = plan ∧ c = start

/-- A branch that is first handled in the round `first` proposes its road in the next round if it is
a highway, and once the delay is over if it is a byway; with a negative delay, no byway is
proposed. -/
structure BranchesOff (t : TaskTree α) (rounds first : Nat) (delay : Int) (plan : RoadPlan α)
    (start : CrossroadId) : Prop where
  highway : plan.highway = true → t.ProposesIn rounds first (first + 1) plan start
  byway : plan.highway = false → 0 ≤ delay →
    t.ProposesIn rounds first (first + delay.toNat + 1) plan start
  never : plan.highway = false → delay < 0 →
    ∀ n, ∀ s ∈ generation n [t], ∀ other c, s.task ≠ .propose other c

/-- A road that is gone on from in the round `k` leads to a proposal of the road ahead in the next
round, and to a branch on either side. -/
def GoesOn [Scalar α] [Trigonometry α] (t : TaskTree α) (rounds k : Nat) (delay : Int)
    (plan : RoadPlan α) (start finish : CrossroadId) : Prop :=
  ∃ ahead left right forward leftPlan rightPlan, t.sent = [ahead, left, right] ∧
    plan.Turns 90.0 leftPlan ∧ plan.Turns (-90.0) rightPlan ∧
    ahead.ProposesIn rounds (k + 1) (k + 1) forward finish ∧
    left.BranchesOff rounds (k + 1) delay leftPlan start ∧
    right.BranchesOff rounds (k + 1) delay rightPlan start

end TaskTree

namespace Growth

open TaskTree

variable [Scalar α] [Trigonometry α] {g v begun : Growth α} {forest : List (TaskTree α)}
  {rounds k : Nat} {t : TaskTree α} {plan : RoadPlan α} {start : CrossroadId}

/-- Of a waiting branch comes, for each round that it waits, one branch with a shorter delay, and
then the proposal of its road. -/
theorem Unrolls.generation_branch (h : begun.Unrolls forest rounds v)
    (ht : t ∈ generation k forest) {wait : Nat} (htask : t.task = .branch wait plan start)
    {age : Nat} (hage : age ≤ wait + 1) (hreached : k + age ≤ rounds) :
    ∃ s, generation age [t] = [s] ∧
      s.task =
        if age ≤ wait then .branch (wait - age : Nat) plan start else .propose plan start := by
  induction age with
  | zero => exact ⟨t, rfl, by simpa using htask⟩
  | succ age ih =>
    obtain ⟨s, hs, hstask⟩ := ih (by omega) (by omega)
    rw [if_pos (by omega)] at hstask
    have hmem : s ∈ generation (k + age) forest := mem_generation_add ht (by simp [hs])
    obtain hsends | ⟨hlast, -⟩ := h.sends _ s hmem
    · rw [hstask] at hsends
      obtain ⟨u, hsent, hu⟩ := List.map_eq_singleton_iff.1 hsends.branch
      refine ⟨u, by rw [generation_succ, hs, List.flatMap_singleton, hsent], hu.trans ?_⟩
      grind
    · omega

theorem Unrolls.proposesIn_branch (h : begun.Unrolls forest rounds v)
    (ht : t ∈ generation k forest) {wait : Nat} (htask : t.task = .branch wait plan start) :
    t.ProposesIn rounds k (k + wait + 1) plan start := by
  intro r hr hfirst hdue
  obtain ⟨s, hs, hstask⟩ := h.generation_branch ht htask (show r - k ≤ wait + 1 by omega) (by omega)
  refine ⟨s, hs, fun other c => ?_⟩
  rw [hstask]
  grind

/-- Of a branch with a negative delay comes nothing. -/
theorem Unrolls.generation_negative (h : begun.Unrolls forest rounds v)
    (ht : t ∈ generation k forest) {delay : Int} (htask : t.task = .branch delay plan start)
    (hdelay : delay < 0) (n : Nat) : generation (n + 1) [t] = [] := by
  have hsent : t.sent = [] := by
    obtain hsends | ⟨-, hsent⟩ := h.sends k t ht
    · rw [htask] at hsends
      exact List.map_eq_nil_iff.1 (hsends.branch_negative hdelay)
    · exact hsent
  rw [generation, List.flatMap_singleton, hsent, generation_nil]

theorem Unrolls.branchesOff (h : begun.Unrolls forest rounds v) (ht : t ∈ generation k forest)
    (htask : t.task = .branch (begun.settings.wait plan) plan start) :
    t.BranchesOff rounds k begun.settings.delay plan start := by
  unfold GrowthSettings.wait at htask
  constructor
  · intro hhighway
    rw [if_pos hhighway] at htask
    exact h.proposesIn_branch ht (show t.task = .branch (0 : Nat) plan start from htask)
  · intro hbyway hdelay
    rw [if_neg (by simp [hbyway]), ← Int.toNat_of_nonneg hdelay] at htask
    exact h.proposesIn_branch ht htask
  · intro hbyway hdelay n s hs other c
    rw [if_neg (by simp [hbyway])] at htask
    cases n with
    | zero =>
      obtain rfl := List.mem_singleton.1 hs
      simp [htask]
    | succ n => simp [h.generation_negative ht htask hdelay n] at hs

/-- What a road that is gone on from in a round leads to in the later ones. -/
theorem Unrolls.goesOn (h : begun.Unrolls forest rounds v) (ht : t ∈ generation k forest)
    {finish : CrossroadId} {merged : Bool} (htask : t.task = .extend plan start finish merged)
    (hsent : t.sent ≠ []) : t.GoesOn rounds k begun.settings.delay plan start finish := by
  obtain hsends | ⟨-, hnone⟩ := h.sends k t ht
  swap
  · exact absurd hnone hsent
  rw [htask] at hsends
  obtain hstops | ⟨leftPlan, rightPlan, forward, hleft, hright, htasks⟩ := hsends.extend_cases
  · exact absurd (List.map_eq_nil_iff.1 hstops) hsent
  obtain ⟨ahead, branches, hchildren, hahead, htasks⟩ := List.map_eq_cons_iff.1 htasks
  obtain ⟨l, others, rfl, hl, htasks⟩ := List.map_eq_cons_iff.1 htasks
  obtain ⟨r, rfl, hr⟩ := List.map_eq_singleton_iff.1 htasks
  have hbelow : ∀ s ∈ t.sent, s ∈ generation (k + 1) forest := fun s hs =>
    mem_generation_add ht (by simpa [generation] using hs)
  refine ⟨ahead, l, r, forward, leftPlan, rightPlan, hchildren, hleft, hright, ?_, ?_, ?_⟩
  · intro round _ hfirst hdue
    obtain rfl : round = k + 1 := by omega
    exact ⟨ahead, by simp [generation], by simp [hahead, eq_comm]⟩
  · exact h.branchesOff (hbelow l (by simp [hchildren])) hl
  · exact h.branchesOff (hbelow r (by simp [hchildren])) hr

/-- In every state that growth passes, its tasks so far are a forest whose generations are the
rounds: each round handles exactly the tasks that are waiting when it begins, in their order. When a
road is gone on from in a round, then the road ahead is proposed in the next round, a highway to a
side in the round after that, and a byway to a side after the delay and two more rounds, each
exactly once if that round is reached, and not before; with a negative delay, no byway is
proposed. -/
theorem proposed_of_passes {centre : Vec2 α} {direction : Option (Vec2 α)}
    (h : g.Passes centre direction v) :
    ∃ planted forest, g.plant centre direction = .ok planted ∧
      forest.map task = planted.queue.toList ∧ planted.Unrolls forest v.stats.iterations v ∧
      ∀ k, ∀ t ∈ generation k forest, ∀ plan start finish merged,
        t.task = .extend plan start finish merged → t.sent ≠ [] →
        t.GoesOn v.stats.iterations k g.settings.delay plan start finish := by
  obtain ⟨planted, rounds, last, count, hplanted, -, hrun, hle, hv⟩ := h
  obtain ⟨forest, r, hr, hroots, hunrolls⟩ := exists_unrolls (kept_of_plant hplanted) hrun hle hv
  have hbegins : planted.stats.iterations = 0 := by
    rw [(plant_cases hplanted).2]
    rfl
  have hsettings := (toList_of_plant hplanted).1
  obtain rfl : r = v.stats.iterations := by omega
  refine ⟨planted, forest, hplanted, hroots, hunrolls, ?_⟩
  intro k t ht plan start finish merged htask hsent
  rw [← hsettings]
  exact hunrolls.goesOn ht htask hsent

/-- Three rounds over a plain: a road, what it sends out, and the next road. -/
theorem proposed_of_passes_onPlain :
    let settings : GrowthSettings Float32 :=
      { GrowthSettings.standard with rounds := 3, roadLength := 2, rule := .grid }
    ∃ v, (onPlain settings).Passes ⟨0, 2⟩ (some ⟨1, 0⟩) v ∧ v.stats.iterations = 2 ∧
      v.stats.built = 2 ∧ ∃ planted forest,
        (onPlain settings).plant ⟨0, 2⟩ (some ⟨1, 0⟩) = .ok planted ∧
        forest.map task = planted.queue.toList ∧ planted.Unrolls forest v.stats.iterations v ∧
        ∀ k, ∀ t ∈ generation k forest, ∀ plan start finish merged,
          t.task = .extend plan start finish merged → t.sent ≠ [] →
          t.GoesOn v.stats.iterations k settings.delay plan start finish := by
  intro settings
  have hok : (do
      let planted ← (onPlain settings).plant ⟨0, 2⟩ (some ⟨1, 0⟩)
      let last ← run 2 planted
      let v ← handleFirst last.queue.size last
      return (v.stats.iterations, v.stats.built)) = .ok (2, 2) := by decide +kernel
  obtain ⟨planted, hplanted, hok⟩ := bind_eq_ok.1 hok
  obtain ⟨last, hlast, hok⟩ := bind_eq_ok.1 hok
  obtain ⟨v, hv, hok⟩ := bind_eq_ok.1 hok
  obtain ⟨hrounds, hbuilt⟩ := Prod.mk.inj (Except.ok.inj hok)
  have hpasses : (onPlain settings).Passes ⟨0, 2⟩ (some ⟨1, 0⟩) v :=
    ⟨planted, 2, last, _, hplanted, by decide, hlast, Nat.le_refl _, hv⟩
  exact ⟨v, hpasses, hrounds, hbuilt, proposed_of_passes hpasses⟩

end Growth

end Cityscape
