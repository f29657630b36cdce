import Cityscape.Proofs.Grammar.Rewriting
import Cityscape.Scalar.Single

/-!
# The history of a derivation

A derivation numbers its shapes in the order in which they come up and takes them in the same
order. The shapes that wait are therefore the last ones of the history, and as every new shape is a
child of the one under evaluation, the numbers of the parents never decrease along the history.

## Main definitions

* `Derivation.Ordered` — the shapes, the queue and the parents are in order.
* `RuleSet.Evaluates`, `RuleSet.Passes`, `RuleSet.Ends` — one evaluation, the states between two of
  them, and how the last one leads to the outcome.

## Main statements

* `Derivation.Ordered.spawn`, `Derivation.Ordered.next`, `Derivation.Ordered.finish` — each stage in
  the life of a shape keeps a derivation in order.
* `RuleSet.exists_ends_of_derive` — a derivation passes from evaluation to evaluation until it ends.
* `RuleSet.ordered_of_derive` — a derivation is in order all the time.
-/

namespace Cityscape.Grammar

variable {α : Type}

/-! ## Derivations in order -/

namespace Derivation

/-- The number below which shapes are done with: that of the shape under evaluation, or else of the
one that is next. -/
def frontier (d : Derivation α) : Nat := d.current.getD d.evaluations

/-- The shapes, the queue and the parents are in the order in which shapes are evaluated. -/
structure Ordered (d : Derivation α) : Prop where
  id : ∀ (i : ShapeId) (s : Shape α), d.shapes[i]? = some s → s.id = some i
  /-- The shapes that wait are those that were not taken yet. -/
  queue : d.queue.toList = List.range' d.evaluations (d.shapes.size - d.evaluations)
  evaluations_le : d.evaluations ≤ d.shapes.size
  /-- The shape under evaluation is the one that was taken last. -/
  current : ∀ c, d.current = some c → d.evaluations = c + 1
  named : ∀ (i : ShapeId) (s : Shape α), 0 < i → d.shapes[i]? = some s →
    s.symbol.isSome ∧ s.parent.isSome
  parent_lt : ParentsFirst d.shapes
  /-- Only shapes that were taken are parents. -/
  parent_lt_evaluations : ∀ i p, HasParent d.shapes i p → p < d.evaluations
  parent_mono : ∀ i j p q, i ≤ j → HasParent d.shapes i p → HasParent d.shapes j q → p ≤ q
  /-- What is done with is evaluated or terminal, and everything else is active. -/
  status : ∀ (i : ShapeId) (s : Shape α), d.shapes[i]? = some s →
    (s.status = .active ↔ d.frontier ≤ i)

variable {d d' w : Derivation α} {s t : Shape α} {i p c : ShapeId} {l : List (Shape α)}

theorem lt_size_of_hasParent {shapes : Array (Shape α)} (h : HasParent shapes i p) :
    i < shapes.size := by
  obtain ⟨s, hs, -⟩ := h
  exact (Array.getElem?_eq_some_iff.1 hs).1

/-! ### Entering a shape -/

theorem getElem?_spawn (d : Derivation α) (s : Shape α) (i : Nat) :
    (d.spawn s).shapes[i]? =
      if i = d.shapes.size then some { s with id := some i, status := .active }
      else d.shapes[i]? := by
  simp only [spawn, Array.getElem?_push]
  split
  next h => rw [h]
  next => rfl

theorem hasParent_spawn :
    HasParent (d.spawn s).shapes i p ↔
      HasParent d.shapes i p ∨ i = d.shapes.size ∧ s.parent = some p := by
  by_cases hi : i = d.shapes.size
  · have hnone : d.shapes[i]? = none := by simp [hi]
    simp [HasParent, getElem?_spawn, hi]
  · simp [HasParent, getElem?_spawn, hi]

theorem Ordered.frontier_le (h : d.Ordered) : d.frontier ≤ d.shapes.size := by
  have hle := h.evaluations_le
  cases hc : d.current with
  | none => simpa [frontier, hc] using hle
  | some c =>
    have hcurrent := h.current c hc
    simp only [frontier, hc, Option.getD_some]
    omega

/-- A first shape without parent, or a child of the shape under evaluation that has a symbol, goes
behind the others. -/
theorem Ordered.spawn (h : d.Ordered)
    (hnamed : 0 < d.shapes.size → s.symbol.isSome ∧ s.parent.isSome)
    (hparent : ∀ p, s.parent = some p → d.current = some p) : (d.spawn s).Ordered := by
  have hsize : (d.spawn s).shapes.size = d.shapes.size + 1 := by simp [Derivation.spawn]
  have hle := h.evaluations_le
  have hlast {p : ShapeId} (hp : s.parent = some p) : d.evaluations = p + 1 :=
    h.current p (hparent p hp)
  have hbelow {p : ShapeId} (hp : s.parent = some p) : p < d.evaluations :=
    Nat.lt_of_lt_of_eq (Nat.lt_succ_self p) (hlast hp).symm
  constructor
  case id =>
    intro i t ht
    rw [getElem?_spawn] at ht
    split at ht
    · cases ht
      rfl
    · exact h.id i t ht
  case queue =>
    have hqueue : (d.spawn s).queue.toList = d.queue.toList ++ [d.shapes.size] := by
      simp [Derivation.spawn]
    have hrange : d.shapes.size + 1 - d.evaluations = d.shapes.size - d.evaluations + 1 := by
      omega
    have hend : d.evaluations + (d.shapes.size - d.evaluations) = d.shapes.size := by omega
    rw [hqueue, h.queue, hsize]
    change _ = List.range' d.evaluations (d.shapes.size + 1 - d.evaluations)
    rw [hrange, List.range'_1_concat, hend]
  case evaluations_le =>
    rw [hsize]
    exact Nat.le_succ_of_le hle
  case current => exact h.current
  case named =>
    intro i t hi ht
    rw [getElem?_spawn] at ht
    split at ht
    next hsize =>
      cases ht
      exact hnamed (hsize ▸ hi)
    next => exact h.named i t hi ht
  case parent_lt =>
    intro i p hp
    obtain hold | ⟨rfl, hnew⟩ := hasParent_spawn.1 hp
    · exact h.parent_lt i p hold
    · exact Nat.lt_of_lt_of_le (hbelow hnew) hle
  case parent_lt_evaluations =>
    intro i p hp
    obtain hold | ⟨-, hnew⟩ := hasParent_spawn.1 hp
    · exact h.parent_lt_evaluations i p hold
    · exact hbelow hnew
  case parent_mono =>
    intro i j p q hij hp hq
    obtain holdp | ⟨rfl, hnewp⟩ := hasParent_spawn.1 hp <;>
      obtain holdq | ⟨rfl, hnewq⟩ := hasParent_spawn.1 hq
    · exact h.parent_mono i j p q hij holdp holdq
    · have hp := h.parent_lt_evaluations i p holdp
      exact Nat.le_of_lt_succ (Nat.lt_of_lt_of_eq hp (hlast hnewq))
    · exact absurd (lt_size_of_hasParent holdq) (Nat.not_lt.2 hij)
    · exact Nat.le_of_eq (Option.some.inj (hnewp.symm.trans hnewq))
  case status =>
    intro i t ht
    rw [getElem?_spawn] at ht
    split at ht
    next hi =>
      cases ht
      exact iff_of_true rfl (hi ▸ h.frontier_le)
    next => exact h.status i t ht

theorem ordered_clear [Scalar α] (d : Derivation α) : d.clear.Ordered where
  id _ _ hs := by simp [clear] at hs
  queue := rfl
  evaluations_le := Nat.le_refl 0
  current := nofun
  named _ _ _ hs := by simp [clear] at hs
  parent_lt _ _ hp := by simp [HasParent, clear] at hp
  parent_lt_evaluations _ _ hp := by simp [HasParent, clear] at hp
  parent_mono _ _ _ _ _ hp := by simp [HasParent, clear] at hp
  status _ _ hs := by simp [clear] at hs

/-- Children of the shape under evaluation go behind the others one after the other. -/
theorem Ordered.spawnAll (h : d.Ordered) (hcurrent : d.current.isSome)
    (hl : ∀ s ∈ l, s.symbol.isSome ∧ s.parent = d.current) : (d.spawnAll l).Ordered := by
  induction l generalizing d with
  | nil => exact h
  | cons s l ih =>
    obtain ⟨hsymbol, hparent⟩ := hl s List.mem_cons_self
    have hs : (d.spawn s).Ordered :=
      h.spawn (fun _ => ⟨hsymbol, hparent ▸ hcurrent⟩) fun p hp => hparent.symm.trans hp
    exact ih hs hcurrent fun t ht => hl t (List.mem_cons_of_mem s ht)

/-- Order depends on the history, the queue, the shape under evaluation and the count only. -/
theorem Ordered.congr (h : d.Ordered) (hshapes : d'.shapes = d.shapes) (hqueue : d'.queue = d.queue)
    (hcurrent : d'.current = d.current) (hevaluations : d'.evaluations = d.evaluations) :
    d'.Ordered := by
  obtain ⟨shapes, queue, current, scope, stream, names, parts, evaluations⟩ := d
  cases hshapes
  cases hqueue
  cases hcurrent
  cases hevaluations
  exact ⟨h.id, h.queue, h.evaluations_le, h.current, h.named, h.parent_lt,
    h.parent_lt_evaluations, h.parent_mono, h.status⟩

theorem Ordered.of_enters (h : (d.spawnAll l).Ordered) (he : Enters l d d') : d'.Ordered :=
  h.congr he.shapes he.queue (by simp [he.current]) (by simp [he.evaluations])

/-- A part of a rule that enters children of the shape under evaluation keeps the order, whether it
stops among them or not. -/
theorem Ordered.of_spawns {e : Effect α} (h : d.Ordered) (hcurrent : d.current.isSome)
    (he : e.Spawns d.current d) : e.derivation.Ordered := by
  obtain ⟨l, hl, henters⟩ := he.gains
  exact (h.spawnAll hcurrent hl).of_enters henters

/-! ### Taking a shape -/

/-- Either all shapes were taken, or the first one that was not is the first one that waits. -/
theorem Ordered.pop?_cases (h : d.Ordered) :
    (d.queue.pop? = none ∧ d.evaluations = d.shapes.size) ∨
      ∃ queue, d.queue.pop? = some (d.evaluations, queue) ∧ d.evaluations < d.shapes.size ∧
        queue.toList = List.range' (d.evaluations + 1) (d.shapes.size - (d.evaluations + 1)) := by
  have hle := h.evaluations_le
  have hqueue := h.queue
  obtain heq | hlt := Nat.eq_or_lt_of_le hle
  · refine .inl ⟨(Fifo.pop?_eq_none_iff d.queue).2 ?_, heq⟩
    rw [hqueue, heq, Nat.sub_self, List.range'_zero]
  · have hsub : d.shapes.size - d.evaluations = d.shapes.size - (d.evaluations + 1) + 1 := by omega
    rw [hsub, List.range'_succ] at hqueue
    cases hpop : d.queue.pop? with
    | none => simp [(Fifo.pop?_eq_none_iff d.queue).1 hpop] at hqueue
    | some taken =>
      obtain ⟨id, queue⟩ := taken
      rw [Fifo.toList_of_pop? hpop] at hqueue
      obtain ⟨rfl, hrest⟩ := List.cons.inj hqueue
      exact .inr ⟨queue, rfl, hlt, hrest⟩

theorem Ordered.evaluations_eq_of_next? (h : d.Ordered) (hnext : d.next? = none) :
    d.evaluations = d.shapes.size := by
  obtain ⟨-, heq⟩ | ⟨queue, hpop, hlt, -⟩ := h.pop?_cases
  · exact heq
  · simp [next?, hpop, hlt] at hnext

/-- The shape that is taken is the first one that is not done with. -/
theorem Ordered.next (h : d.Ordered) (hcurrent : d.current = none)
    (hnext : d.next? = some (s, w)) :
    w.Ordered ∧ w.current = some d.evaluations ∧ w.shapes = d.shapes ∧
      w.evaluations = d.evaluations + 1 ∧ d.shapes[d.evaluations]? = some s := by
  obtain ⟨hpop, -⟩ | ⟨queue, hpop, hlt, hqueue⟩ := h.pop?_cases
  · simp [next?, hpop] at hnext
  · have hs : d.shapes[d.evaluations]? = some d.shapes[d.evaluations] :=
      Array.getElem?_eq_getElem hlt
    simp only [next?, hpop, hs, Option.some.injEq, Prod.mk.injEq] at hnext
    obtain ⟨rfl, rfl⟩ := hnext
    refine ⟨?_, rfl, rfl, rfl, hs⟩
    exact
      { id := h.id
        queue := hqueue
        evaluations_le := hlt
        current := fun c hc => congrArg (· + 1) (Option.some.inj hc)
        named := h.named
        parent_lt := h.parent_lt
        parent_lt_evaluations := fun i p hp => Nat.lt_succ_of_lt (h.parent_lt_evaluations i p hp)
        parent_mono := h.parent_mono
        status := fun i t ht => by simpa [frontier, hcurrent] using h.status i t ht }

/-! ### Storing a shape -/

theorem getElem?_finish (status : Status) (hid : t.id = some c) (hc : c < d.shapes.size)
    (i : Nat) : (d.finish t status).shapes[i]? =
      if i = c then some { t with status } else d.shapes[i]? := by
  have hfinish : (d.finish t status).shapes = d.shapes.setIfInBounds c { t with status } := by
    simp [finish, hid]
  rw [hfinish, Array.getElem?_setIfInBounds]
  by_cases hi : i = c
  · subst hi
    simp [hc]
  · simp [hi, Ne.symm hi]

theorem hasParent_finish {status : Status} (hid : t.id = some c) (hs : d.shapes[c]? = some s)
    (hparent : t.parent = s.parent) :
    HasParent (d.finish t status).shapes i p ↔ HasParent d.shapes i p := by
  have hc : c < d.shapes.size := (Array.getElem?_eq_some_iff.1 hs).1
  by_cases hi : i = c
  · subst hi
    simp [HasParent, getElem?_finish status hid hc, hs, hparent]
  · simp [HasParent, getElem?_finish status hid hc, hi]

/-- The shape under evaluation is stored back in its place and is not active any more. -/
theorem Ordered.finish {status : Status} (h : d.Ordered) (hcurrent : d.current = some c)
    (hs : d.shapes[c]? = some s) (hplace : s.SamePlace t) (hstatus : status ≠ .active) :
    (d.finish t status).Ordered := by
  have hid : t.id = some c := hplace.id.trans (h.id c s hs)
  have hget := getElem?_finish status hid (Array.getElem?_eq_some_iff.1 hs).1
  have hlink {i p : ShapeId} : HasParent (d.finish t status).shapes i p ↔ HasParent d.shapes i p :=
    hasParent_finish hid hs hplace.parent
  have hevaluations : (d.finish t status).evaluations = d.evaluations := by
    simp [Derivation.finish, hid]
  have hsize : (d.finish t status).shapes.size = d.shapes.size := by simp [Derivation.finish, hid]
  have hidle : (d.finish t status).current = none := by simp [Derivation.finish, hid]
  constructor
  case id =>
    intro i u hu
    rw [hget] at hu
    split at hu
    next hi =>
      cases hu
      exact hi ▸ hid
    next => exact h.id i u hu
  case queue =>
    have hqueue : (d.finish t status).queue = d.queue := by simp [Derivation.finish, hid]
    rw [hqueue, hevaluations, hsize]
    exact h.queue
  case evaluations_le =>
    rw [hevaluations, hsize]
    exact h.evaluations_le
  case current => simp [hidle]
  case named =>
    intro i u hi hu
    rw [hget] at hu
    split at hu
    next hic =>
      cases hu
      simpa [hplace.symbol, hplace.parent] using h.named c s (hic ▸ hi) hs
    next => exact h.named i u hi hu
  case parent_lt => exact fun i p hp => h.parent_lt i p (hlink.1 hp)
  case parent_lt_evaluations =>
    intro i p hp
    rw [hevaluations]
    exact h.parent_lt_evaluations i p (hlink.1 hp)
  case parent_mono =>
    exact fun i j p q hij hp hq => h.parent_mono i j p q hij (hlink.1 hp) (hlink.1 hq)
  case status =>
    intro i u hu
    have hlast : d.evaluations = c + 1 := h.current c hcurrent
    have hfrontier : (d.finish t status).frontier = c + 1 := by
      simp [frontier, hidle, hevaluations, hlast]
    rw [hfrontier]
    rw [hget] at hu
    split at hu
    next hi =>
      cases hu
      exact iff_of_false hstatus (hi ▸ Nat.not_succ_le_self c)
    next hi =>
      rw [h.status i u hu]
      simp only [frontier, hcurrent, Option.getD_some]
      exact ⟨fun hle => Nat.lt_of_le_of_ne hle (Ne.symm hi), Nat.le_of_succ_le⟩

/-- A derivation that is in order and between two evaluations, of which there were not too many. -/
structure Idle (d : Derivation α) : Prop extends Ordered d where
  idle : d.current = none
  within_limit : d.evaluations ≤ RuleSet.evaluationLimit

theorem idle_spawn_clear [Scalar α] (d : Derivation α) {start : Shape α}
    (h : start.parent = none) : (d.clear.spawn start).Idle where
  toOrdered := d.ordered_clear.spawn (fun hsize => by simp [clear] at hsize) fun p hp => by
    simp [h] at hp
  idle := rfl
  within_limit := Nat.zero_le _

/-- Taking a shape changes nothing but the queue, the shape under evaluation with the scope that
values read, and the count. -/
theorem eq_of_next? (h : d.next? = some (s, w)) :
    ∃ c queue, d.shapes[c]? = some s ∧
      w = { d with
        queue, current := some c, currentScope := s.scope, evaluations := d.evaluations + 1 } := by
  unfold next? at h
  split at h
  · cases h
  next c queue _ =>
    split at h
    · cases h
    next hshape =>
      cases h
      exact ⟨c, queue, hshape, rfl⟩

@[simp] theorem evaluations_finish (d : Derivation α) (t : Shape α) (status : Status) :
    (d.finish t status).evaluations = d.evaluations := by
  unfold Derivation.finish
  split <;> rfl

theorem getElem?_spawnAll (l : List (Shape α)) (hi : i < d.shapes.size) :
    (d.spawnAll l).shapes[i]? = d.shapes[i]? := by
  induction l generalizing d with
  | nil => rfl
  | cons s l ih =>
    have hsize : i < (d.spawn s).shapes.size := by
      simpa [Derivation.spawn] using Nat.lt_succ_of_lt hi
    exact (ih hsize).trans ((getElem?_spawn d s i).trans (if_neg (Nat.ne_of_lt hi)))

end Derivation

/-! ## Evaluations -/

namespace RuleSet

open Cityscape.Grammar.Derivation (Ordered Idle Enters)

variable [Scalar α] [Trigonometry α] {rules : RuleSet α} {v v' w : Derivation α} {shape : Shape α}

/-- One evaluation: the next shape is taken, rewritten and stored back. -/
inductive Evaluates (rules : RuleSet α) (v : Derivation α) : Derivation α → Prop
  | intro (shape target : Shape α) (w d : Derivation α) (fired : Bool)
    (next : v.next? = some (shape, w)) (within_limit : w.evaluations ≤ evaluationLimit)
    (rewrite : rules.rewrite w shape = (fired, .done d target)) :
    Evaluates rules v (d.finish target (if fired then .evaluated else .terminal))

/-- The states between two evaluations of a derivation that begins with a shape. -/
def Passes (rules : RuleSet α) (d : Derivation α) (start : Shape α) : Derivation α → Prop :=
  Relation.ReflTransGen rules.Evaluates (d.spawn start)

/-- How a derivation goes from its last state between two evaluations to its outcome. -/
inductive Ends (rules : RuleSet α) (v : Derivation α) :
    Derivation α × Option (Stop (GrammarError α)) → Prop
  | drained (next : v.next? = none) : Ends rules v (v, none)
  | limit (shape : Shape α) (w : Derivation α) (next : v.next? = some (shape, w))
    (beyond_limit : evaluationLimit < w.evaluations) :
    Ends rules v (w, some (.refused (.evaluationLimit evaluationLimit)))
  | stopped (shape target : Shape α) (w d : Derivation α) (fired : Bool)
    (stop : Stop (GrammarError α)) (next : v.next? = some (shape, w))
    (within_limit : w.evaluations ≤ evaluationLimit)
    (rewrite : rules.rewrite w shape = (fired, ⟨d, target, some stop⟩)) :
    Ends rules v (d, some stop)

/-- The shape that is taken is rewritten by children of it, and keeps its place. -/
theorem rewrite_of_next (rules : RuleSet α) (h : v.Idle) (hnext : v.next? = some (shape, w)) :
    (rules.rewrite w shape).2.Spawns w.current w ∧
      shape.SamePlace (rules.rewrite w shape).2.target := by
  obtain ⟨hw, hcurrent, hshapes, -, hshape⟩ := h.next h.idle hnext
  have hid : shape.id = some v.evaluations := h.id _ _ hshape
  have hwalk (ancestor : ShapeId) : Halts (w.isLineage shape ancestor) := by
    obtain ⟨b, hb, -⟩ := Derivation.isLineage_eq_ok hw.parent_lt (hshapes ▸ hshape) hid ancestor
    exact hb ▸ .ok b
  rw [hcurrent]
  exact rules.rewrite_spawns w hwalk hid

theorem Evaluates.idle (h : rules.Evaluates v v') (hv : v.Idle) :
    v'.Idle ∧ v'.evaluations = v.evaluations + 1 := by
  obtain ⟨shape, target, w, d, fired, hnext, hlimit, hrewrite⟩ := h
  obtain ⟨hw, hcurrent, hshapes, hevaluations, hshape⟩ := hv.next hv.idle hnext
  obtain ⟨hspawns, hplace⟩ := rules.rewrite_of_next hv hnext
  rw [hrewrite] at hspawns hplace
  have hd : d.Ordered := hw.of_spawns (by simp [hcurrent]) hspawns
  obtain ⟨l, -, henters⟩ := hspawns.gains
  have hd' : d.shapes[v.evaluations]? = some shape := by
    have hlt : v.evaluations < w.shapes.size :=
      hshapes ▸ (Array.getElem?_eq_some_iff.1 hshape).1
    have hstored : d.shapes = (w.spawnAll l).shapes := henters.shapes
    rw [hstored, Derivation.getElem?_spawnAll l hlt, hshapes, hshape]
  have hid : target.id = some v.evaluations := hplace.id.trans (hv.id _ _ hshape)
  have hcount : d.evaluations = v.evaluations + 1 := henters.evaluations.trans hevaluations
  have hstatus : (if fired then Status.evaluated else .terminal) ≠ .active := by
    split <;> nofun
  refine ⟨⟨hd.finish (henters.current.trans hcurrent) hd' hplace hstatus, ?_, ?_⟩, ?_⟩
  · simp [Derivation.finish, hid]
  · simpa [Derivation.finish, hid, hcount, hevaluations] using hlimit
  · simp [Derivation.finish, hid, hcount]

theorem idle_of_passes {d : Derivation α} {start : Shape α} (hstart : start.parent = none)
    (h : rules.Passes d.clear start v) : v.Idle := by
  induction h with
  | refl => exact d.idle_spawn_clear hstart
  | tail _ hstep ih => exact (hstep.idle ih).1

/-- Every evaluation is counted. -/
theorem Evaluates.evaluations_eq (h : rules.Evaluates v v') :
    v'.evaluations = v.evaluations + 1 ∧ v'.evaluations ≤ evaluationLimit := by
  obtain ⟨shape, target, w, d, fired, hnext, hlimit, hrewrite⟩ := h
  obtain ⟨l, henters, -⟩ := rules.rewrite_enters w shape
  rw [hrewrite] at henters
  have hcount : d.evaluations = w.evaluations := henters.evaluations
  obtain ⟨c, queue, -, rfl⟩ := Derivation.eq_of_next? hnext
  rw [Derivation.evaluations_finish, hcount]
  exact ⟨rfl, hlimit⟩

/-- With fuel for one evaluation beyond the limit, a derivation goes on until it ends. -/
theorem exists_ends_of_deriveQueue {fuel : Nat} (hv : v.evaluations ≤ evaluationLimit)
    (hfuel : evaluationLimit < v.evaluations + fuel) :
    ∃ u, Relation.ReflTransGen rules.Evaluates v u ∧ rules.Ends u (rules.deriveQueue fuel v) := by
  induction fuel generalizing v with
  | zero => exact absurd hv (Nat.not_le.2 hfuel)
  | succ fuel ih =>
    unfold deriveQueue
    split
    next hnext => exact ⟨v, .refl, .drained hnext⟩
    next shape w hnext =>
      split
      next hlimit => exact ⟨v, .refl, .limit shape w hnext hlimit⟩
      next hlimit =>
        have hwithin : w.evaluations ≤ evaluationLimit := Nat.not_lt.1 hlimit
        split
        next fired d target hrewrite =>
          have hstep : rules.Evaluates v _ := .intro shape target w d fired hnext hwithin hrewrite
          obtain ⟨hcount, hle⟩ := hstep.evaluations_eq
          obtain ⟨u, hpass, hends⟩ := ih hle (by omega)
          exact ⟨u, .head hstep hpass, hends⟩
        next fired d target stop hrewrite =>
          exact ⟨v, .refl, .stopped shape target w d fired stop hnext hwithin hrewrite⟩

/-- A derivation passes from evaluation to evaluation until it ends. -/
theorem exists_ends_of_derive (rules : RuleSet α) (d : Derivation α) (start : Shape α) :
    ∃ v, rules.Passes d.clear start v ∧ rules.Ends v (rules.derive d.clear start) :=
  exists_ends_of_deriveQueue (Nat.zero_le _) (Nat.lt_add_left _ (by omega))

theorem Ends.ordered {r : Derivation α × Option (Stop (GrammarError α))} (h : rules.Ends v r)
    (hv : v.Idle) : r.1.Ordered := by
  cases h with
  | drained => exact hv.toOrdered
  | limit shape w hnext => exact (hv.next hv.idle hnext).1
  | stopped shape target w d fired stop hnext _ hrewrite =>
    obtain ⟨hw, hcurrent, -⟩ := hv.next hv.idle hnext
    have hspawns := (rules.rewrite_of_next hv hnext).1
    rw [hrewrite] at hspawns
    exact hw.of_spawns (by simp [hcurrent]) hspawns

/-- Where nothing waits, everything was evaluated. -/
theorem Ends.drained_cases {r : Derivation α × Option (Stop (GrammarError α))}
    (h : rules.Ends v r) (hv : v.Idle) (hstop : r.2 = none) :
    r.1 = v ∧ v.evaluations = v.shapes.size := by
  cases h with
  | drained hnext => exact ⟨rfl, hv.evaluations_eq_of_next? hnext⟩
  | limit => cases hstop
  | stopped => cases hstop

/-- A derivation is in order whenever the next shape is looked for, after each of the shapes that
its rewriting enters, all of which are children of it, and in the end. It ends without a stop only
when every shape was evaluated. -/
theorem ordered_of_derive (rules : RuleSet α) (d : Derivation α) (start : Shape α)
    (hstart : start.parent = none) :
    (∀ v, rules.Passes d.clear start v → v.Ordered ∧ v.current = none ∧
      ∀ shape w, v.next? = some (shape, w) → w.current = shape.id ∧
        ∃ l, (∀ s ∈ l, s.symbol.isSome ∧ s.parent = w.current) ∧
          Enters l w (rules.rewrite w shape).2.derivation ∧
          ∀ l', l' <+: l → (w.spawnAll l').Ordered) ∧
    (∃ v, rules.Passes d.clear start v ∧ rules.Ends v (rules.derive d.clear start)) ∧
    ∀ v stop, rules.derive d.clear start = (v, stop) → v.Ordered ∧
      (stop = none → v.queue.toList = [] ∧ (∀ s ∈ v.shapes, s.status ≠ .active) ∧
        v.evaluations = v.shapes.size) := by
  obtain ⟨u, hpass, hends⟩ := rules.exists_ends_of_derive d start
  have hu : u.Idle := idle_of_passes hstart hpass
  refine ⟨fun v hv => ?_, ⟨u, hpass, hends⟩, fun v stop hr => ?_⟩
  · have hidle : v.Idle := idle_of_passes hstart hv
    refine ⟨hidle.toOrdered, hidle.idle, fun shape w hnext => ?_⟩
    obtain ⟨hw, hcurrent, -, -, hshape⟩ := hidle.next hidle.idle hnext
    obtain ⟨l, hl, henters⟩ := (rules.rewrite_of_next hidle hnext).1.gains
    refine ⟨hcurrent.trans (hidle.id _ _ hshape).symm, l, hl, henters, fun l' hl' => ?_⟩
    exact hw.spawnAll (by simp [hcurrent]) fun s hs => hl s (hl'.subset hs)
  · rw [hr] at hends
    refine ⟨hends.ordered hu, fun hstop => ?_⟩
    obtain ⟨rfl, hall⟩ : v = u ∧ u.evaluations = u.shapes.size :=
      hends.drained_cases hu hstop
    refine ⟨?_, fun s hs hactive => ?_, hall⟩
    · rw [hu.queue, hall, Nat.sub_self, List.range'_zero]
    · obtain ⟨i, hi, rfl⟩ := Array.mem_iff_getElem.1 hs
      have hle := (hu.status i _ (Array.getElem?_eq_getElem hi)).1 hactive
      simp only [Derivation.frontier, hu.idle, Option.getD_none, hall] at hle
      exact absurd hi (Nat.not_lt.2 hle)

/-- A block with a yard and two wings. One of the wings comes out of a slot that is cut again, for a
bay that comes before it. -/
theorem ordered_of_derive_block :
    let wing : Item (Operation Float32) :=
      ⟨[.subdivide .y [.number true 1, .number false 2] [some (.put "bay"), none]], some "wing"⟩
    let block : List (Item (Operation Float32)) :=
      [⟨[.subdivide .x [.number true 1, .number true 1] [some (.put "wing"), some wing]],
        some "yard"⟩]
    let rules : RuleSet Float32 :=
      ⟨"block", none, [[.always "block" block, .always "wing" [.put "roof"]]]⟩
    let start : Shape Float32 := .ofBox (some "block") ⟨⟨0, ⟨4, 4, 4⟩⟩, 0⟩
    let v := (rules.derive (Derivation.ofSeed 7).clear start).1
    start.parent = none ∧ v.Ordered ∧ v.evaluations = v.shapes.size ∧
      v.shapes.toList.map (fun s => (s.symbol, s.parent)) =
        [(some "block", none), (some "wing", some 0), (some "bay", some 0), (some "wing", some 0),
          (some "yard", some 0), (some "roof", some 1), (some "roof", some 3)] := by
  intro wing block rules start v
  have hstop : (rules.derive (Derivation.ofSeed 7).clear start).2.isNone := by decide +kernel
  have hr : rules.derive (Derivation.ofSeed 7).clear start = (v, none) :=
    Prod.ext rfl (Option.isNone_iff_eq_none.1 hstop)
  obtain ⟨hordered, hdone⟩ :=
    (rules.ordered_of_derive (.ofSeed 7) start rfl).2.2 v none hr
  exact ⟨rfl, hordered, (hdone rfl).2.2, by decide +kernel⟩

end RuleSet

end Cityscape.Grammar
