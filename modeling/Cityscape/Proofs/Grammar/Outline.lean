import Mathlib
import Cityscape.Proofs.Grammar.AppendOnly
import Cityscape.Proofs.Grammar.Yields

/-!
# Outlines of rule sets

An outline forgets everything about a shape but its kind, and says which kinds a shape of a kind is
rewritten by. A derivation follows its outline step by step. When every kind costs more than what it
produces, the derivation ends within the cost of the start, and what an outline says about the model
parts holds for the parts of the derivation.

## Main definitions

* `Outline` — kinds of shapes, and productions that the rule set follows.
* `Outline.Derives` — a derivation along an outline.

## Main statements

* `Outline.Derives.count_mem` — bounds for how often a model is placed.
* `Outline.Waits.evaluates` — one evaluation is one step along the outline.
* `Outline.exists_derives_of_derive` — a derivation ends, along the outline.
-/

namespace Cityscape.Grammar

open Cityscape.Grammar.Derivation (Places Brings Idle Enters)

variable {α κ : Type} [Scalar α] [Trigonometry α]

namespace Derivation

variable {d : Derivation α} {s : Shape α}

omit [Scalar α] [Trigonometry α] in
/-- While there are shapes that were not taken, the next one is there. -/
theorem Ordered.exists_next (h : d.Ordered) (hlt : d.evaluations < d.shapes.size) :
    ∃ s w, d.next? = some (s, w) := by
  obtain ⟨-, heq⟩ | ⟨queue, hpop, -, -⟩ := h.pop?_cases
  · exact absurd heq (Nat.ne_of_lt hlt)
  · simp [next?, hpop, hlt]

omit [Scalar α] [Trigonometry α] in
theorem Ordered.next?_eq_none (h : d.Ordered) (heq : d.evaluations = d.shapes.size) :
    d.next? = none := by
  obtain ⟨hpop, -⟩ | ⟨queue, hpop, hlt, -⟩ := h.pop?_cases
  · simp [next?, hpop]
  · exact absurd heq (Nat.ne_of_lt hlt)

omit [Scalar α] [Trigonometry α] in
@[simp] theorem modelNames_finish (d : Derivation α) (s : Shape α) (status : Status) :
    (d.finish s status).modelNames = d.modelNames := by
  unfold finish
  split <;> rfl

omit [Scalar α] [Trigonometry α] in
@[simp] theorem parts_finish (d : Derivation α) (s : Shape α) (status : Status) :
    (d.finish s status).parts = d.parts := by
  unfold finish
  split <;> rfl

omit [Scalar α] [Trigonometry α] in
@[simp] theorem size_finish (d : Derivation α) (s : Shape α) (status : Status) :
    (d.finish s status).shapes.size = d.shapes.size := by
  unfold finish
  split <;> simp

end Derivation

/-- An abstract grammar that a rule set follows: kinds of shapes, and what a shape of a kind is
rewritten by. -/
structure Outline (rules : RuleSet α) (κ : Type) where
  is : κ → Shape α → Prop
  /-- A shape of the first kind is rewritten by shapes of a list of kinds, in this order, and model
  parts of a list of names. -/
  produces : κ → List κ → List String → Prop
  is_entered : ∀ {k s} id status, is k s → is k { s with id, status }
  exists_produces : ∀ {k s} d, is k s → (∀ id, ∃ b, d.isLineage s id = .ok b) →
    ∃ kinds names, produces k kinds names ∧ (rules.rewrite d s).2.Yields is kinds names d

namespace Outline

variable {rules : RuleSet α} {o : Outline rules κ}

/-- The abstract derivation: the first of the kinds that wait is taken, and what it produces goes
behind the others. The names are those of the model parts that come up. -/
inductive Derives (o : Outline rules κ) : List κ → List String → Prop
  | nil : Derives o [] []
  | cons {k : κ} {kinds waiting : List κ} {names rest : List String}
    (produces : o.produces k kinds names) (derives : Derives o (waiting ++ kinds) rest) :
    Derives o (k :: waiting) (names ++ rest)

/-- The count of a name lies between the sums of what each kind accounts for, if no production loses
or gains any. -/
theorem Derives.count_mem {waiting : List κ} {names : List String} (h : o.Derives waiting names)
    (name : String) (least most : κ → ℕ)
    (hleast : ∀ k kinds names, o.produces k kinds names →
      least k ≤ names.count name + (kinds.map least).sum)
    (hmost : ∀ k kinds names, o.produces k kinds names →
      names.count name + (kinds.map most).sum ≤ most k) :
    (waiting.map least).sum ≤ names.count name ∧ names.count name ≤ (waiting.map most).sum := by
  induction h with
  | nil => simp
  | cons hproduces _ ih =>
    have hl := hleast _ _ _ hproduces
    have hm := hmost _ _ _ hproduces
    simp only [List.map_append, List.sum_append, List.map_cons, List.sum_cons,
      List.count_append] at ih ⊢
    omega

/-- A name that every production accounts for exactly comes up as often as the kinds say. -/
theorem Derives.count_eq {waiting : List κ} {names : List String} (h : o.Derives waiting names)
    (name : String) (weight : κ → ℕ)
    (hweight : ∀ k kinds names, o.produces k kinds names →
      names.count name + (kinds.map weight).sum = weight k) :
    names.count name = (waiting.map weight).sum := by
  obtain ⟨hleast, hmost⟩ := h.count_mem name weight weight
    (fun k kinds names hk => Nat.le_of_eq (hweight k kinds names hk).symm)
    (fun k kinds names hk => Nat.le_of_eq (hweight k kinds names hk))
  exact Nat.le_antisymm hmost hleast

/-- The shapes that wait are of the given kinds. -/
structure Waits (o : Outline rules κ) (waiting : List κ) (v : Derivation α) : Prop where
  size : v.shapes.size = v.evaluations + waiting.length
  kinds : ∀ i k, waiting[i]? = some k →
    ∃ s, v.shapes[v.evaluations + i]? = some s ∧ o.is k s

variable {v : Derivation α} {k : κ} {waiting : List κ} {names : List String}

omit [Scalar α] [Trigonometry α] in
theorem exists_getElem?_of_forall₂ {is : κ → Shape α → Prop} {kinds : List κ} {l : List (Shape α)}
    (h : List.Forall₂ is kinds l) {j : ℕ} (hk : kinds[j]? = some k) :
    ∃ s, l[j]? = some s ∧ is k s := by
  obtain ⟨hj, rfl⟩ := List.getElem?_eq_some_iff.1 hk
  have hj' : j < l.length := h.length_eq ▸ hj
  exact ⟨l[j], List.getElem?_eq_getElem hj', h.get hj hj'⟩

/-- The first of the shapes that wait is taken, and others wait behind the last one. -/
theorem Waits.after_stores (h : o.Waits (k :: waiting) v) {kinds : List κ} {l : List (Shape α)}
    {t : Shape α} {v' : Derivation α} (hl : List.Forall₂ o.is kinds l)
    (hstores : Derivation.Stores v.evaluations t l v v')
    (hsize : v'.shapes.size = v.shapes.size + l.length)
    (hevaluations : v'.evaluations = v.evaluations + 1) : o.Waits (waiting ++ kinds) v' := by
  have hwaits := h.size
  rw [List.length_cons] at hwaits
  refine ⟨?_, fun i k' hk' => ?_⟩
  · rw [hsize, hevaluations, hwaits, List.length_append, hl.length_eq]
    omega
  rw [hevaluations]
  by_cases hi : i < waiting.length
  · -- The shape waited before.
    rw [List.getElem?_append_left hi] at hk'
    obtain ⟨s, hs, his⟩ := h.kinds (i + 1) k' (by simpa using hk')
    have hindex : v.evaluations + 1 + i = v.evaluations + (i + 1) := by omega
    refine ⟨s, ?_, his⟩
    rw [hindex, hstores.other _ (by omega) (by omega), hs]
  · -- The shape was entered by the evaluation.
    obtain ⟨j, rfl⟩ := Nat.exists_eq_add_of_le (Nat.not_lt.1 hi)
    rw [List.getElem?_append_right (by omega), Nat.add_sub_cancel_left] at hk'
    obtain ⟨s, hs, his⟩ := exists_getElem?_of_forall₂ hl hk'
    have hindex : v.evaluations + 1 + (waiting.length + j) = v.shapes.size + j := by omega
    rw [hindex, hstores.entered, hs]
    exact ⟨_, rfl, o.is_entered _ _ his⟩

/-- One evaluation is one step of the abstract derivation. -/
theorem Waits.evaluates (h : o.Waits (k :: waiting) v) (hv : v.Idle) (hnames : v.Places names)
    (hlimit : v.evaluations + 1 ≤ RuleSet.evaluationLimit) :
    ∃ v' kinds new, rules.Evaluates v v' ∧ o.produces k kinds new ∧ o.Waits (waiting ++ kinds) v' ∧
      v'.Places (names ++ new) := by
  have hlt : v.evaluations < v.shapes.size := by
    have hwaits := h.size
    rw [List.length_cons] at hwaits
    omega
  obtain ⟨shape, w, hnext⟩ := hv.exists_next hlt
  obtain ⟨hw, -, hshapes, hevaluations, hshape⟩ := hv.next hv.idle hnext
  have hid : shape.id = some v.evaluations := hv.id _ _ hshape
  obtain ⟨s, hs, his⟩ := h.kinds 0 k rfl
  cases hshape.symm.trans hs
  have hwalk (id : ShapeId) : ∃ b, w.isLineage shape id = .ok b := by
    obtain ⟨b, hb, -⟩ := Derivation.isLineage_eq_ok hw.parent_lt (hshapes ▸ hshape) hid id
    exact ⟨b, hb⟩
  obtain ⟨kinds, new, hproduces, hstop, hbrings⟩ := o.exists_produces w his hwalk
  have hplace := (rules.rewrite_of_next hv hnext).2
  rcases hrewrite : rules.rewrite w shape with ⟨fired, d, target, stop⟩
  rw [hrewrite] at hstop hbrings hplace
  cases hstop
  obtain ⟨⟨l, hl, henters⟩, hplaces⟩ := hbrings
  refine ⟨_, kinds, new, .intro shape target w d fired hnext (by omega) hrewrite, hproduces,
    h.after_stores hl (Derivation.stores_finish hshapes hlt (hplace.id.trans hid) henters.shapes)
      ?_ ?_, ?_⟩
  · rw [Derivation.size_finish, henters.shapes, Derivation.size_spawnAll, hshapes]
  · rw [Derivation.evaluations_finish, henters.evaluations, hevaluations]
  · obtain ⟨c, queue, -, rfl⟩ := Derivation.eq_of_next? hnext
    exact (hplaces names (hnames.congr rfl rfl)).congr (by simp) (by simp)

/-- A derivation with enough evaluations left comes to its end, along an abstract derivation. -/
theorem Waits.exists_derives {cost : κ → ℕ} (hpos : ∀ k, 1 ≤ cost k)
    (hcost : ∀ k kinds names, o.produces k kinds names → 1 + (kinds.map cost).sum ≤ cost k)
    (h : o.Waits waiting v) (hv : v.Idle) (hnames : v.Places names)
    (hlimit : v.evaluations + (waiting.map cost).sum ≤ RuleSet.evaluationLimit) :
    ∃ u rest, Relation.ReflTransGen rules.Evaluates v u ∧ u.next? = none ∧ o.Derives waiting rest ∧
      u.Places (names ++ rest) := by
  induction hn : (waiting.map cost).sum using Nat.strongRecOn
    generalizing v waiting names with
  | _ n ih =>
    cases waiting with
    | nil =>
      refine ⟨v, [], .refl, hv.next?_eq_none ?_, .nil, by simpa using hnames⟩
      simpa using h.size.symm
    | cons k waiting =>
      simp only [List.map_cons, List.sum_cons] at hlimit hn
      obtain ⟨v', kinds, new, hstep, hproduces, hwaits, hnames'⟩ :=
        h.evaluates hv hnames (by have := hpos k; omega)
      have hpaid := hcost k kinds new hproduces
      obtain ⟨hidle, hcount⟩ := hstep.idle hv
      obtain ⟨u, rest, hpass, hnext, hderives, hplaces⟩ := ih ((waiting ++ kinds).map cost).sum
        (by simp; omega) hwaits hidle hnames' (by simp; omega) rfl
      exact ⟨u, new ++ rest, .head hstep hpass, hnext, .cons hproduces hderives,
        by rwa [← List.append_assoc]⟩

/-- A derivation from a shape of a kind that the limit allows for does not stop before everything is
evaluated, and its model parts are those of an abstract derivation. -/
theorem exists_derives_of_derive (o : Outline rules κ) {cost : κ → ℕ} (hpos : ∀ k, 1 ≤ cost k)
    (hcost : ∀ k kinds names, o.produces k kinds names → 1 + (kinds.map cost).sum ≤ cost k)
    (hlimit : cost k ≤ RuleSet.evaluationLimit) {start : Shape α} (hstart : start.parent = none)
    (his : o.is k start) (d : Derivation α) :
    ∃ v names, rules.derive d.clear start = (v, none) ∧ v.Places names ∧ o.Derives [k] names := by
  have hidle : (d.clear.spawn start).Idle := d.idle_spawn_clear hstart
  have hwaits : o.Waits [k] (d.clear.spawn start) := by
    refine ⟨rfl, fun i k' hk' => ?_⟩
    cases i with
    | zero =>
      cases hk'
      exact ⟨_, rfl, o.is_entered _ _ his⟩
    | succ i => simp at hk'
  have hnames : (d.clear.spawn start).Places [] := (Derivation.places_clear d).congr rfl rfl
  have hwithin :
      (d.clear.spawn start).evaluations + ([k].map cost).sum ≤ RuleSet.evaluationLimit := by
    simpa [Derivation.spawn, Derivation.clear] using hlimit
  obtain ⟨u, names, hpass, hnext, hderives, hplaces⟩ :=
    hwaits.exists_derives hpos hcost hidle hnames hwithin
  obtain ⟨v, hv, hends⟩ := rules.exists_ends_of_derive d start
  -- Where nothing waits, no evaluation follows, so both ends are the same.
  have heq : u = v := by
    obtain rfl | ⟨w, ⟨shape, target, w', d', fired, hnext', -, -⟩, -⟩ :=
      (hends.passes_before hv hpass).cases_head
    · rfl
    · cases hnext.symm.trans hnext'
  subst heq
  refine ⟨u, names, ?_, by simpa using hplaces, hderives⟩
  generalize rules.derive d.clear start = r at hends
  cases hends with
  | drained => rfl
  | limit _ _ hnext' => cases hnext.symm.trans hnext'
  | stopped _ _ _ _ _ _ hnext' => cases hnext.symm.trans hnext'

end Outline

end Cityscape.Grammar
