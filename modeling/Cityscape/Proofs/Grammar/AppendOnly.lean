import Cityscape.Proofs.Grammar.History

/-!
# The history is append-only

An evaluation works on a copy of the shape that it takes, and stores the copy back into its entry.
All other entries stay as they are, and new ones go behind them. An entry therefore changes at most
once, it never changes its place, and it only becomes terminal as it was entered, since no rule was
applied to it.

## Main definitions

* `Shape.Becomes` — what may become of an entry.
* `Derivation.Stores` — one entry is stored back, and others go behind the last one.
* `Derivation.Keeps` — every entry is still there, with what became of it.

## Main statements

* `RuleSet.Evaluates.stores` — what one evaluation does to the history.
* `RuleSet.appendOnly_of_derive` — the history is append-only in the course of a derivation.
-/

namespace Cityscape.Grammar

variable {α : Type}

/-! ## Entries -/

/-- What may become of an entry of the history. Only an active one changes: it becomes terminal as
it is, or it is evaluated and keeps its place. -/
inductive Shape.Becomes (s : Shape α) : Shape α → Prop
  | same : Becomes s s
  | terminal (active : s.status = .active) : Becomes s { s with status := .terminal }
  | evaluated {t : Shape α} (active : s.status = .active) (place : s.SamePlace t) :
    Becomes s { t with status := .evaluated }

namespace Shape

variable {s t u : Shape α}

theorem Becomes.trans (h : s.Becomes t) (h' : t.Becomes u) : s.Becomes u := by
  cases h with
  | same => exact h'
  | terminal hactive =>
    cases h' with
    | same => exact .terminal hactive
    | terminal h | evaluated h => cases h
  | evaluated hactive hplace =>
    cases h' with
    | same => exact .evaluated hactive hplace
    | terminal h | evaluated h => cases h

end Shape

namespace Derivation

variable {d d' v v' w : Derivation α} {l : List (Shape α)} {s t : Shape α} {k : ShapeId}

/-- One entry is stored back, and others go behind the last one. -/
structure Stores (k : ShapeId) (t : Shape α) (l : List (Shape α)) (v v' : Derivation α) : Prop where
  stored : v'.shapes[k]? = some t
  other : ∀ i < v.shapes.size, i ≠ k → v'.shapes[i]? = v.shapes[i]?
  entered : ∀ j, v'.shapes[v.shapes.size + j]? =
    l[j]?.map fun s => { s with id := some (v.shapes.size + j), status := .active }

/-- No entry changes, and others go behind the last one. -/
structure Appends (l : List (Shape α)) (v v' : Derivation α) : Prop where
  old : ∀ i < v.shapes.size, v'.shapes[i]? = v.shapes[i]?
  entered : ∀ j, v'.shapes[v.shapes.size + j]? =
    l[j]?.map fun s => { s with id := some (v.shapes.size + j), status := .active }

/-- Every entry is still there, with what became of it. -/
def Keeps (v v' : Derivation α) : Prop :=
  ∀ (i : ShapeId) (s : Shape α), v.shapes[i]? = some s → ∃ t, v'.shapes[i]? = some t ∧ s.Becomes t

theorem Keeps.refl (v : Derivation α) : v.Keeps v := fun _ s hs => ⟨s, hs, .same⟩

theorem Keeps.trans (h : v.Keeps v') (h' : v'.Keeps w) : v.Keeps w := by
  intro i s hs
  obtain ⟨t, ht, hst⟩ := h i s hs
  obtain ⟨u, hu, htu⟩ := h' i t ht
  exact ⟨u, hu, hst.trans htu⟩

theorem Appends.keeps (h : Appends l v v') : v.Keeps v' := by
  intro i s hs
  have hi : i < v.shapes.size := (Array.getElem?_eq_some_iff.1 hs).1
  exact ⟨s, (h.old i hi).trans hs, .same⟩

theorem Stores.keeps (h : Stores k t l v v') (hs : v.shapes[k]? = some s) (hst : s.Becomes t) :
    v.Keeps v' := by
  intro i u hu
  by_cases hi : i = k
  · subst hi
    cases hs.symm.trans hu
    exact ⟨t, h.stored, hst⟩
  · have hlt : i < v.shapes.size := (Array.getElem?_eq_some_iff.1 hu).1
    exact ⟨u, (h.other i hlt hi).trans hu, .same⟩

theorem size_spawnAll (d : Derivation α) (l : List (Shape α)) :
    (d.spawnAll l).shapes.size = d.shapes.size + l.length := by
  induction l generalizing d with
  | nil => rfl
  | cons s l ih =>
    have hs : (d.spawn s).shapes.size = d.shapes.size + 1 := by simp [spawn]
    rw [List.length_cons, ← Nat.add_assoc, Nat.add_right_comm, ← hs]
    exact ih (d.spawn s)

/-- The shapes that are entered are active and bear their numbers. -/
theorem getElem?_spawnAll_add (d : Derivation α) (l : List (Shape α)) (j : Nat) :
    (d.spawnAll l).shapes[d.shapes.size + j]? =
      l[j]?.map fun s => { s with id := some (d.shapes.size + j), status := .active } := by
  induction l generalizing d j with
  | nil => simp [spawnAll]
  | cons s l ih =>
    have hsize : (d.spawn s).shapes.size = d.shapes.size + 1 := by simp [spawn]
    change ((d.spawn s).spawnAll l).shapes[d.shapes.size + j]? = _
    cases j with
    | zero =>
      have hlt : d.shapes.size < (d.spawn s).shapes.size := hsize ▸ Nat.lt_succ_self _
      rw [Nat.add_zero, getElem?_spawnAll l hlt, getElem?_spawn, if_pos rfl]
      rfl
    | succ j =>
      have hj := ih (d.spawn s) j
      rw [hsize, Nat.add_right_comm, Nat.add_assoc] at hj
      exact hj

theorem appends_of_spawnAll (hw : w.shapes = v.shapes)
    (henters : d.shapes = (w.spawnAll l).shapes) : Appends l v d := by
  constructor
  case old =>
    intro i hi
    rw [← hw] at hi ⊢
    rw [henters, getElem?_spawnAll l hi]
  case entered =>
    intro j
    rw [← hw, henters, getElem?_spawnAll_add]

/-- Shapes are entered, and then the one under evaluation is stored back. -/
theorem stores_finish {status : Status} (hw : w.shapes = v.shapes) (hk : k < v.shapes.size)
    (hid : t.id = some k) (henters : d.shapes = (w.spawnAll l).shapes) :
    Stores k { t with status } l v (d.finish t status) := by
  obtain ⟨hold, hentered⟩ := appends_of_spawnAll hw henters
  have hd : k < d.shapes.size := by
    rw [henters, size_spawnAll, hw]
    exact Nat.lt_add_right _ hk
  have hget := getElem?_finish status hid hd
  constructor
  case stored => rw [hget, if_pos rfl]
  case other => exact fun i hi hne => by rw [hget, if_neg hne, hold i hi]
  case entered =>
    intro j
    have hne : v.shapes.size + j ≠ k := Nat.ne_of_gt (Nat.lt_add_right j hk)
    rw [hget, if_neg hne, hentered]

end Derivation

/-! ## Evaluations -/

namespace RuleSet

open Cityscape.Grammar.Derivation (Stores Keeps Idle)

variable [Scalar α] [Trigonometry α] {rules : RuleSet α} {v v' w : Derivation α} {shape : Shape α}

/-- Without a rule that applies, rewriting only draws from the random stream. -/
theorem eq_of_rewrite_eq_false {d : Derivation α} {target : Shape α}
    (h : rules.rewrite w shape = (false, .done d target)) :
    (∃ stream, d = { w with stream }) ∧ target = shape := by
  obtain ⟨stream, stop, heq, -⟩ | ⟨r, -, stream, -, heq⟩ :=
    rewriteBy_cases rules.levels.flatten w shape
  · cases heq.symm.trans h
    exact ⟨⟨stream, rfl⟩, rfl⟩
  · cases heq.symm.trans h

/-- An evaluation changes no entry but that of the shape that it takes, and enters shapes behind the
others. If no rule applies, the entry stays as it is but for its status, and neither shapes nor
model parts come up. -/
theorem Evaluates.stores (hv : v.Idle) (h : rules.Evaluates v v') :
    ∃ s w k t l, v.next? = some (s, w) ∧ s.id = some k ∧ v.shapes[k]? = some s ∧
      Stores k t l v v' ∧ s.Becomes t ∧ t.status ≠ .active ∧
      (t.status = .terminal → t = { s with status := .terminal } ∧ l = [] ∧ v'.parts = v.parts ∧
        v'.modelNames = v.modelNames) := by
  obtain ⟨shape, target, w, d, fired, hnext, -, hrewrite⟩ := h
  obtain ⟨-, -, hshapes, -, hshape⟩ := hv.next hv.idle hnext
  have hid : shape.id = some v.evaluations := hv.id _ _ hshape
  have hk : v.evaluations < v.shapes.size := (Array.getElem?_eq_some_iff.1 hshape).1
  have hactive : shape.status = .active := by
    rw [hv.status _ _ hshape]
    simp [Derivation.frontier, hv.idle]
  cases fired with
  | false =>
    obtain ⟨⟨stream, rfl⟩, rfl⟩ := eq_of_rewrite_eq_false hrewrite
    refine ⟨target, w, _, _, [], hnext, hid, hshape, ?_, .terminal hactive, by simp, fun _ => ?_⟩
    · exact Derivation.stores_finish hshapes hk hid rfl
    · obtain ⟨c, queue, -, rfl⟩ := Derivation.eq_of_next? hnext
      simp [Derivation.finish, hid]
  | true =>
    obtain ⟨l, henters, hplace⟩ := rules.rewrite_enters w shape
    rw [hrewrite] at henters hplace
    refine ⟨shape, w, _, _, l, hnext, hid, hshape, ?_, .evaluated hactive hplace, by simp, by simp⟩
    exact Derivation.stores_finish hshapes hk (hplace.id.trans hid) henters.shapes

/-! ## Derivations -/

theorem Evaluates.keeps (hv : v.Idle) (h : rules.Evaluates v v') : v.Keeps v' := by
  obtain ⟨s, w, k, t, l, -, -, hs, hstores, hst, -⟩ := h.stores hv
  exact hstores.keeps hs hst

/-- Evaluations after one another keep every entry, with what became of it. -/
theorem keeps_of_evaluates {d : Derivation α} {start : Shape α} (hstart : start.parent = none)
    (hv : rules.Passes d.clear start v) (h : Relation.ReflTransGen rules.Evaluates v v') :
    v.Keeps v' := by
  induction h with
  | refl => exact .refl v
  | tail hpass hstep ih =>
    exact ih.trans (hstep.keeps (idle_of_passes hstart (hv.trans hpass)))

/-- The last evaluation, which does not finish, changes no entry. -/
theorem Ends.exists_appends {r : Derivation α × Option (Stop (GrammarError α))}
    (h : rules.Ends v r) : ∃ l, Derivation.Appends l v r.1 := by
  cases h with
  | drained => exact ⟨[], Derivation.appends_of_spawnAll rfl rfl⟩
  | limit shape w hnext =>
    obtain ⟨c, queue, -, rfl⟩ := Derivation.eq_of_next? hnext
    exact ⟨[], Derivation.appends_of_spawnAll rfl rfl⟩
  | stopped shape target w d fired stop hnext _ hrewrite =>
    obtain ⟨l, henters, -⟩ := rules.rewrite_enters w shape
    rw [hrewrite] at henters
    obtain ⟨c, queue, -, hw⟩ := Derivation.eq_of_next? hnext
    exact ⟨l, Derivation.appends_of_spawnAll (congrArg (·.shapes) hw) henters.shapes⟩

theorem Evaluates.unique (h : rules.Evaluates v v') (h' : rules.Evaluates v w) : v' = w := by
  obtain ⟨shape, target, u, d, fired, hnext, -, hrewrite⟩ := h
  obtain ⟨shape', target', u', d', fired', hnext', -, hrewrite'⟩ := h'
  cases hnext.symm.trans hnext'
  cases hrewrite.symm.trans hrewrite'
  rfl

/-- Where a derivation ends, no evaluation follows. -/
theorem Ends.not_evaluates {r : Derivation α × Option (Stop (GrammarError α))}
    (h : rules.Ends v r) : ¬ rules.Evaluates v v' := by
  rintro ⟨shape, target, w, d, fired, hnext, hwithin, hrewrite⟩
  cases h with
  | drained hnone => cases hnext.symm.trans hnone
  | limit _ _ hnext' hbeyond =>
    cases hnext.symm.trans hnext'
    exact absurd hwithin (Nat.not_le.2 hbeyond)
  | stopped _ _ _ _ _ _ hnext' _ hrewrite' =>
    cases hnext.symm.trans hnext'
    cases hrewrite.symm.trans hrewrite'

/-- Every state that a derivation passes comes before the one in which it ends. -/
theorem Ends.passes_before {r : Derivation α × Option (Stop (GrammarError α))} {d : Derivation α}
    {start : Shape α} {u : Derivation α} (h : rules.Ends u r) (hu : rules.Passes d start u)
    (hv : rules.Passes d start v) : Relation.ReflTransGen rules.Evaluates v u := by
  have hunique : Relator.RightUnique rules.Evaluates := fun _ _ _ h h' => h.unique h'
  obtain hvu | huv := Relation.ReflTransGen.total_of_right_unique hunique hv hu
  · exact hvu
  · obtain rfl | ⟨w, hstep, -⟩ := huv.cases_head
    · exact .refl
    · exact absurd hstep h.not_evaluates

/-- The history is append-only. An evaluation stores the shape that it takes back into its entry,
changes no other one and enters shapes behind the last one; if the shape is terminal then, it is as
it was, and nothing was entered and no model part placed. From any state that a derivation passes to
any later one, and to its outcome, an entry keeps its place and changes at most once. -/
theorem appendOnly_of_derive (rules : RuleSet α) (d : Derivation α) (start : Shape α)
    (hstart : start.parent = none) :
    (∀ v v', rules.Passes d.clear start v → rules.Evaluates v v' →
      ∃ s w k t l, v.next? = some (s, w) ∧ s.id = some k ∧ v.shapes[k]? = some s ∧
        Stores k t l v v' ∧ s.Becomes t ∧ t.status ≠ .active ∧
        (t.status = .terminal → t = { s with status := .terminal } ∧ l = [] ∧ v'.parts = v.parts ∧
          v'.modelNames = v.modelNames)) ∧
    (∃ u l, rules.Passes d.clear start u ∧ rules.Ends u (rules.derive d.clear start) ∧
      Derivation.Appends l u (rules.derive d.clear start).1) ∧
    (∀ v v', rules.Passes d.clear start v → Relation.ReflTransGen rules.Evaluates v v' →
      v.Keeps v') ∧
    ∀ v, rules.Passes d.clear start v → v.Keeps (rules.derive d.clear start).1 := by
  obtain ⟨u, hu, hends⟩ := rules.exists_ends_of_derive d start
  obtain ⟨l, happends⟩ := hends.exists_appends
  refine ⟨fun v v' hv hstep => hstep.stores (idle_of_passes hstart hv),
    ⟨u, l, hu, hends, happends⟩, fun v v' hv hpass => keeps_of_evaluates hstart hv hpass,
    fun v hv => ?_⟩
  exact (keeps_of_evaluates hstart hv (hends.passes_before hu hv)).trans happends.keeps

/-- A house that is moved before it puts out a door and a roof: its entry is stored with the new
scope, and the two others stay as they were entered. -/
theorem appendOnly_of_derive_house :
    let half : Value Float32 := .number true 0.5
    let house : Item (Operation Float32) := ⟨[.move [half, half, half]], some "door"⟩
    let rules : RuleSet Float32 := ⟨"house", none, [[.always "house" [house, .put "roof"]]]⟩
    let start : Shape Float32 := .ofBox (some "house") ⟨⟨⟨2, 0, 0⟩, ⟨4, 4, 4⟩⟩, 0⟩
    let v := (rules.derive (Derivation.ofSeed 7).clear start).1
    start.parent = none ∧ ((Derivation.ofSeed 7).clear.spawn start).Keeps v ∧
      (v.shapes.map fun s => (s.symbol, s.status, s.scope.position.x == 3)) =
        #[(some "house", .evaluated, true), (some "door", .terminal, true),
          (some "roof", .terminal, true)] := by
  intro half house rules start v
  exact ⟨rfl, (rules.appendOnly_of_derive (.ofSeed 7) start rfl).2.2.2 _ .refl, by decide +kernel⟩

end RuleSet

end Cityscape.Grammar
