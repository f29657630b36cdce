import Cityscape.Grammar.Rule
import Cityscape.Proofs.Scalar.Sums

/-!
# The action that a draw selects

The actions of a rule divide the numbers from zero on into bins, whose bounds are running sums of
the probabilities. A draw selects the first action whose bound lies above it, whatever the sums are
rounded to. The running sums begin at the slack, not at zero, so they do not fall short of the sum
that is checked before a draw; but the bin of the first action reaches up to the slack even when the
action is impossible.

## Main definitions

* `Grammar.Rule.bound` — the bound of an action.

## Main statements

* `Grammar.Rule.selectFrom_eq_some_iff`, `Grammar.Rule.selectFrom_eq_none_iff` — the first bound
  that lies above the draw decides.
* `Grammar.Rule.select_first_above` — which action is selected, and that one is when the
  probabilities add up to one.
* `Grammar.Rule.select_possible_iff` — when no impossible action is selected.
-/

namespace Cityscape.Grammar.Rule

open Single

section

variable {α : Type} [Scalar α]

/-- The sum of the probabilities up to that of the `k`-th action, added up from `start`. -/
def boundFrom (start : α) (actions : List (Action α)) (k : ℕ) : α :=
  ((actions.take (k + 1)).map (·.probability)).foldl (· + ·) start

/-- The bound of the `k`-th action. -/
def bound (r : Rule α) (k : ℕ) : α := boundFrom slack r.actions k

variable [Scalar.Total α] {u low start : α} {actions : List (Action α)} {action : Action α}

/-- A bin begins where the one before ends, so a draw that lies below no earlier bound is not below
the beginning of the bin. -/
theorem selectFrom_eq_some_iff (hlow : low ≤ u)
    (hnumber : ∀ k, Scalar.IsNumber (boundFrom start actions k)) :
    selectFrom u actions low start = some action ↔
      ∃ k, actions[k]? = some action ∧ u < boundFrom start actions k ∧
        ∀ j < k, ¬ u < boundFrom start actions j := by
  induction actions generalizing low start with
  | nil => simp [selectFrom]
  | cons first rest ih =>
    have hsucc (k : ℕ) : boundFrom start (first :: rest) (k + 1) =
        boundFrom (start + first.probability) rest k := rfl
    unfold selectFrom
    dsimp only
    by_cases hlt : u < start + first.probability
    · rw [if_pos ⟨hlow, hlt⟩]
      constructor
      · intro h
        exact ⟨0, h, hlt, fun j hj => absurd hj j.not_lt_zero⟩
      · rintro ⟨k, hk, -, hbefore⟩
        cases k with
        | zero => exact hk
        | succ k => exact absurd hlt (hbefore 0 k.succ_pos)
    · have hu : Scalar.IsNumber u := (Scalar.Total.isNumber_of_le hlow).2
      have hnext : start + first.probability ≤ u := Scalar.Total.le_of_not_lt hu (hnumber 0) hlt
      rw [if_neg fun h => hlt h.2, ih hnext fun k => hnumber (k + 1)]
      constructor
      · rintro ⟨k, hk, habove, hbefore⟩
        refine ⟨k + 1, hk, habove, fun j hj => ?_⟩
        cases j with
        | zero => exact hlt
        | succ j => exact hbefore j (Nat.lt_of_succ_lt_succ hj)
      · rintro ⟨k, hk, habove, hbefore⟩
        cases k with
        | zero => exact absurd habove hlt
        | succ k => exact ⟨k, hk, habove, fun j hj => hbefore (j + 1) (Nat.succ_lt_succ hj)⟩

/-- Nothing is selected only when no bound lies above the draw. -/
theorem selectFrom_eq_none_iff (hlow : low ≤ u)
    (hnumber : ∀ k, Scalar.IsNumber (boundFrom start actions k)) :
    selectFrom u actions low start = none ↔
      ∀ k < actions.length, ¬ u < boundFrom start actions k := by
  constructor
  · intro hnone k
    induction k using Nat.strong_induction_on with
    | _ k ih =>
      intro hk habove
      have hsome := (selectFrom_eq_some_iff hlow hnumber).2
        ⟨k, List.getElem?_eq_getElem hk, habove, fun j hj => ih j hj (hj.trans hk)⟩
      rw [hnone] at hsome
      cases hsome
  · intro hbelow
    cases hselect : selectFrom u actions low start with
    | none => rfl
    | some action =>
      obtain ⟨k, hk, habove, -⟩ := (selectFrom_eq_some_iff hlow hnumber).1 hselect
      obtain ⟨hlt, -⟩ := List.getElem?_eq_some_iff.1 hk
      exact absurd habove (hbelow k hlt)

end

/-! ## Single-precision probabilities -/

variable {r : Rule Float32} {u : Float32}

theorem isDefined_slack : IsDefined (parts (slack : Float32)) :=
  Finite.isDefined (by decide +kernel)

/-- What holds of the probabilities of all actions holds of those up to some action. -/
theorem forall_mem_take {p : Float32 → Prop} (h : ∀ action ∈ r.actions, p action.probability)
    (k : ℕ) : ∀ c ∈ (r.actions.take k).map (·.probability), p c := by
  intro c hc
  obtain ⟨action, hmem, rfl⟩ := List.mem_map.1 hc
  exact h action (List.mem_of_mem_take hmem)

theorem isNumber_bound (h : ∀ action ∈ r.actions, Finite action.probability) (k : ℕ) :
    Scalar.IsNumber (r.bound k) :=
  isNumber_of_isDefined (isDefined_foldl_add isDefined_slack (forall_mem_take h (k + 1)))

/-- The last bound is not below the sum of the probabilities. -/
theorem probabilitySum_le_bound (h : ∀ action ∈ r.actions, Finite action.probability) {k : ℕ}
    (hk : r.actions.length = k + 1) : r.probabilitySum ≤ r.bound k := by
  have hall : r.actions.take (k + 1) = r.actions := List.take_of_length_le hk.le
  have hslack : (-0 : Float32) ≤ slack := by decide +kernel
  rw [bound, boundFrom, hall]
  refine foldl_add_le hslack ?_
  rw [← hall]
  exact forall_mem_take h (k + 1)

/-- Which action a draw selects, if all bounds are numbers. -/
theorem select_eq_some_iff {action : Action Float32} (hu : 0 ≤ u)
    (hnumber : ∀ k, Scalar.IsNumber (r.bound k)) :
    r.select u = some action ↔
      ∃ k, r.actions[k]? = some action ∧ u < r.bound k ∧ ∀ j < k, ¬ u < r.bound j :=
  selectFrom_eq_some_iff hu hnumber

/-- A draw selects the first action whose bound lies above it, and no action when there is none; and
when the probabilities add up to at least one, every draw selects an action. -/
theorem select_first_above (hfinite : ∀ action ∈ r.actions, Finite action.probability)
    (hu : 0 ≤ u ∧ u < 1) :
    (∀ action, r.select u = some action ↔
      ∃ k, r.actions[k]? = some action ∧ u < r.bound k ∧ ∀ j < k, ¬ u < r.bound j) ∧
    (r.select u = none ↔ ∀ k < r.actions.length, ¬ u < r.bound k) ∧
    (1 ≤ r.probabilitySum → ∃ action, r.select u = some action) := by
  have hnumber := isNumber_bound hfinite
  have hnone := selectFrom_eq_none_iff hu.1 hnumber
  refine ⟨fun action => select_eq_some_iff hu.1 hnumber, hnone, fun hsum => ?_⟩
  obtain ⟨k, hk⟩ : ∃ k, r.actions.length = k + 1 := by
    refine Nat.exists_eq_add_one.2 (List.length_pos_iff.2 fun hnil => ?_)
    rw [probabilitySum, hnil] at hsum
    exact absurd hsum (by decide +kernel)
  have hbound : 1 ≤ r.bound k := Scalar.Ordered.le_trans hsum (probabilitySum_le_bound hfinite hk)
  have habove : u < r.bound k := Scalar.Total.lt_of_lt_of_le hu.2 hbound
  exact Option.ne_none_iff_exists'.1 fun hselect => hnone.1 hselect k (by omega) habove

/-- Three actions, of which the second is impossible. -/
def threeActions : Rule Float32 :=
  ⟨"A", [], [⟨0.25, [⟨[], some "B"⟩]⟩, ⟨0, [⟨[], some "C"⟩]⟩, ⟨0.75, [⟨[], some "D"⟩]⟩]⟩

/-- A draw at the end of the first bin selects the third of three actions. -/
theorem select_first_above_threeActions :
    (∀ action ∈ threeActions.actions, Finite action.probability) ∧
      ((0 : Float32) ≤ 0.5 ∧ (0.5 : Float32) < 1) ∧ 1 ≤ threeActions.probabilitySum ∧
      threeActions.select 0.5 = some ⟨0.75, [⟨[], some "D"⟩]⟩ := by
  have hfinite : ∀ action ∈ threeActions.actions, Finite action.probability := by
    intro action hmem
    simp only [threeActions, List.mem_cons, List.not_mem_nil, or_false] at hmem
    rcases hmem with rfl | rfl | rfl <;> decide +kernel
  have hdraw : (0 : Float32) ≤ 0.5 ∧ (0.5 : Float32) < 1 := by decide +kernel
  have hbelow : ∀ j < 2, ¬ (0.5 : Float32) < threeActions.bound j := by decide +kernel
  refine ⟨hfinite, hdraw, by decide +kernel, ?_⟩
  exact ((select_first_above hfinite hdraw).1 _).2 ⟨2, rfl, by decide +kernel, hbelow⟩

/-! ## Impossible actions -/

theorem boundFrom_succ {α : Type} [Scalar α] {start : α} {actions : List (Action α)}
    {action : Action α} {k : ℕ} (h : actions[k + 1]? = some action) :
    boundFrom start actions (k + 1) = boundFrom start actions k + action.probability := by
  simp [boundFrom, List.take_add_one (i := k + 1), h]

theorem zero_le_bound (h : ∀ action ∈ r.actions, 0 ≤ action.probability) (k : ℕ) :
    0 ≤ r.bound k :=
  zero_le_foldl_add (by decide +kernel) (forall_mem_take h (k + 1))

/-- An impossible action behind another one has the bound of the one before. -/
theorem bound_succ_le {action : Action Float32} {k : ℕ}
    (h : ∀ action ∈ r.actions, 0 ≤ action.probability) (hk : r.actions[k + 1]? = some action)
    (himpossible : (action.probability == 0) = true) : r.bound (k + 1) ≤ r.bound k := by
  obtain ⟨hnull, hfinite⟩ := null_of_beq_zero himpossible
  rw [bound, boundFrom_succ hk]
  exact Scalar.Ordered.le_of_beq
    (add_null_beq (isMagnitude_iff.2 (zero_le_bound h k)).isDefined hnull hfinite)

/-- The bin of an impossible first action ends at the slack. -/
theorem bound_zero_beq {first : Action Float32} (hhead : r.actions.head? = some first)
    (himpossible : (first.probability == 0) = true) : (r.bound 0 == slack) = true := by
  obtain ⟨hnull, hfinite⟩ := null_of_beq_zero himpossible
  obtain ⟨rest, hactions⟩ := List.head?_eq_some_iff.1 hhead
  rw [bound, hactions]
  exact add_null_beq isDefined_slack hnull hfinite

/-- No impossible action is selected, unless the first action is impossible and the draw lies below
the slack: the bin of the first action begins at zero and ends at the slack. -/
theorem select_possible_iff (hprobability : ∀ action ∈ r.actions, 0 ≤ action.probability)
    (hu : 0 ≤ u) :
    (∀ action, r.select u = some action → ¬ (action.probability == 0) = true) ↔
      ¬ ∃ first, r.actions.head? = some first ∧ (first.probability == 0) = true ∧ u < slack := by
  have hnumber (k : ℕ) : Scalar.IsNumber (r.bound k) :=
    (Scalar.Total.isNumber_of_le (zero_le_bound hprobability k)).2
  constructor
  · rintro hpossible ⟨first, hhead, himpossible, hlt⟩
    have habove : u < r.bound 0 := Scalar.Total.lt_of_lt_of_le hlt
      (Scalar.Ordered.ge_of_beq (bound_zero_beq hhead himpossible))
    refine hpossible first ((select_eq_some_iff hu hnumber).2 ⟨0, ?_, habove, ?_⟩) himpossible
    · rwa [← List.head?_eq_getElem?]
    · exact fun j hj => absurd hj j.not_lt_zero
  · intro hnone action hselected himpossible
    obtain ⟨k, hk, habove, hbefore⟩ := (select_eq_some_iff hu hnumber).1 hselected
    cases k with
    | zero =>
      rw [← List.head?_eq_getElem?] at hk
      have hlt : u < slack := Scalar.Total.lt_of_lt_of_le habove
        (Scalar.Ordered.le_of_beq (bound_zero_beq hk himpossible))
      exact hnone ⟨action, hk, himpossible, hlt⟩
    | succ k =>
      exact hbefore k k.lt_succ_self
        (Scalar.Total.lt_of_lt_of_le habove (bound_succ_le hprobability hk himpossible))

/-- An impossible action behind another one is not selected by a draw at the beginning of its
bin. -/
theorem select_possible_iff_threeActions :
    (∀ action ∈ threeActions.actions, 0 ≤ action.probability) ∧ (0 : Float32) ≤ 0.25 ∧
      ∀ action, threeActions.select 0.25 = some action → ¬ (action.probability == 0) = true := by
  have hprobability : ∀ action ∈ threeActions.actions, 0 ≤ action.probability := by
    intro action hmem
    simp only [threeActions, List.mem_cons, List.not_mem_nil, or_false] at hmem
    rcases hmem with rfl | rfl | rfl <;> decide +kernel
  have hdraw : (0 : Float32) ≤ 0.25 := by decide +kernel
  refine ⟨hprobability, hdraw, (select_possible_iff hprobability hdraw).2 ?_⟩
  rintro ⟨first, hhead, himpossible, -⟩
  cases hhead
  revert himpossible
  decide +kernel

/-- An impossible action in front of a certain one. -/
def impossibleFirst : Rule Float32 :=
  ⟨"A", [], [⟨0, [⟨[], some "B"⟩]⟩, ⟨1, [⟨[], some "C"⟩]⟩]⟩

/-- The smallest draw selects the impossible action. -/
theorem select_impossibleFirst :
    (∀ action ∈ impossibleFirst.actions, 0 ≤ action.probability) ∧
      ¬ (impossibleFirst.probabilitySum ≤ 0 ∨ 1 + 1e-5 < impossibleFirst.probabilitySum) ∧
      ((0 : Float32) ≤ 0 ∧ (0 : Float32) < 1) ∧
      ∃ action, impossibleFirst.select 0 = some action ∧ (action.probability == 0) = true := by
  have himpossible : ((0 : Float32) == 0) = true := by decide +kernel
  have hbin : (0 : Float32) ≤ 0 ∧ (0 : Float32) < slack + 0 := by decide +kernel
  refine ⟨?_, by decide +kernel, by decide +kernel, ⟨0, [⟨[], some "B"⟩]⟩, ?_, himpossible⟩
  · intro action hmem
    simp only [impossibleFirst, List.mem_cons, List.not_mem_nil, or_false] at hmem
    rcases hmem with rfl | rfl <;> decide +kernel
  · rw [select, impossibleFirst, selectFrom]
    exact if_pos hbin

end Cityscape.Grammar.Rule
