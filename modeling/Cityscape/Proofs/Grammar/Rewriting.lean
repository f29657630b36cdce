import Cityscape.Grammar.Rule
import Cityscape.Proofs.Grammar.Spawning
import Mathlib.Logic.Relation

/-!
# What rules do to a shape

A condition may ask whether a shape descends from another one, and follows the links to the parents
for it. The links come to an end if every parent was there before its children. Then conditions
hold or not, or stop for a reason of their own, and a rule enters shapes on behalf of the one that
it rewrites.

## Main definitions

* `Derivation.HasParent`, `Derivation.Descends` — the links between shapes, and lineage.
* `Derivation.ParentsFirst` — every parent was there before its children.

## Main statements

* `Derivation.isLineage_eq_ok` — the walk over the parents ends and tells lineage.
* `RuleSet.rewrite_spawns` — a rewritten shape has children and keeps its place.
-/

namespace Cityscape.Grammar

variable {α : Type}

/-! ## Lineage -/

namespace Derivation

variable {shapes : Array (Shape α)} {ancestor id : ShapeId}

/-- The second number is that of the parent of the shape with the first. -/
def HasParent (shapes : Array (Shape α)) (id parent : ShapeId) : Prop :=
  ∃ s, shapes[id]? = some s ∧ s.parent = some parent

/-- The shape with the first number is the one with the second, or descends from it. -/
def Descends (shapes : Array (Shape α)) : ShapeId → ShapeId → Prop :=
  Relation.ReflTransGen (HasParent shapes)

/-- Every parent was there before its children. -/
def ParentsFirst (shapes : Array (Shape α)) : Prop :=
  ∀ id parent, HasParent shapes id parent → parent < id

theorem hasParent_iff {parent : ShapeId} :
    HasParent shapes id parent ↔ shapes[id]?.bind (·.parent) = some parent :=
  Option.bind_eq_some_iff.symm

/-- Parents have ever smaller numbers, so a number of steps above the first of them is enough. -/
theorem climb_eq_ok (h : ParentsFirst shapes) (ancestor : ShapeId) {steps : Nat}
    {next : Option ShapeId} (hsteps : ∀ id, next = some id → id < steps) :
    ∃ b, climb shapes ancestor steps next = .ok b ∧
      (b = true ↔ ∃ id, next = some id ∧ Descends shapes id ancestor) := by
  induction steps generalizing next with
  | zero =>
    cases next with
    | none => exact ⟨false, rfl, by simp⟩
    | some id => exact absurd (hsteps id rfl) (Nat.not_lt_zero id)
  | succ steps ih =>
    cases next with
    | none => exact ⟨false, rfl, by simp⟩
    | some id =>
      by_cases hid : id = ancestor
      · exact ⟨true, by simp [climb, hid], by simp [hid, Descends, Relation.ReflTransGen.refl]⟩
      have hparent (parent : ShapeId) (hp : shapes[id]?.bind (·.parent) = some parent) :
          parent < steps :=
        Nat.lt_of_lt_of_le (h id parent (hasParent_iff.2 hp)) (Nat.le_of_lt_succ (hsteps id rfl))
      obtain ⟨b, hb, hiff⟩ := ih hparent
      refine ⟨b, by simp [climb, hid, hb], hiff.trans ?_⟩
      simp only [Option.some.injEq, exists_eq_left', ← hasParent_iff]
      exact (Relation.ReflTransGen.cases_head_iff.trans (or_iff_right hid)).symm

/-- The walk over the parents of a shape of the history ends and tells whether the shape descends
from another one. -/
theorem isLineage_eq_ok {d : Derivation α} (h : ParentsFirst d.shapes) {shape : Shape α}
    (hshape : d.shapes[id]? = some shape) (hid : shape.id = some id) (ancestor : ShapeId) :
    ∃ b, d.isLineage shape ancestor = .ok b ∧ (b = true ↔ Descends d.shapes id ancestor) := by
  by_cases hself : id = ancestor
  · exact ⟨true, by simp [isLineage, hid, hself],
      by simp [hself, Descends, Relation.ReflTransGen.refl]⟩
  have hsize : id < d.shapes.size := (Array.getElem?_eq_some_iff.1 hshape).1
  have hsteps (parent : ShapeId) (hp : shape.parent = some parent) :
      parent < d.shapes.size + 1 :=
    Nat.lt_succ_of_lt (Nat.lt_trans (h id parent ⟨shape, hshape, hp⟩) hsize)
  obtain ⟨b, hb, hiff⟩ := climb_eq_ok h ancestor hsteps
  refine ⟨b, by simp [isLineage, hid, hself, hb], hiff.trans ?_⟩
  rw [Descends, Relation.ReflTransGen.cases_head_iff, or_iff_right hself]
  simp [HasParent, hshape]

end Derivation

/-! ## Conditions -/

section

variable {d : Derivation α} {target : Shape α}

theorem ShapeFilter.halts_admits (h : ∀ id, Halts (d.isLineage target id)) (other : Shape α)
    (filter : ShapeFilter) : Halts (filter.admits d target other) := by
  cases filter with
  | all | active | symbol => exact .ok _
  | noParent =>
    simp only [admits]
    split
    next id _ => exact (h id).bind fun b => .ok _
    next => exact .ok _

variable [Scalar α]

theorem halts_coverBy (h : ∀ id, Halts (d.isLineage target id)) (filter : ShapeFilter)
    (others : List (Shape α)) : Halts (coverBy d target filter others) := by
  induction others with
  | nil => exact .ok _
  | cons other others ih =>
    simp only [coverBy]
    split
    · exact ih
    · refine (filter.halts_admits h other).bind fun b => ?_
      split
      · split
        · exact ih
        · exact .ok _
      · exact ih

variable [Trigonometry α]

theorem Query.halts_answer (h : ∀ id, Halts (d.isLineage target id)) (query : Query) :
    Halts (query.answer d target) := by
  cases query with
  | visible | parent => exact .ok _
  | cover filter => exact (halts_coverBy h filter d.shapes.toList).bind fun b => .ok _

namespace Condition

omit [Scalar α] [Trigonometry α] in
theorem isLocal_judgeTruth {expected : Bool} {answer : Option (Answer α)}
    {stop : Stop (GrammarError α)} (h : judgeTruth expected answer = .error stop) :
    IsLocal stop := by
  unfold judgeTruth at h
  split at h <;> cases h
  trivial

theorem isLocal_judgeNumber {c : Condition α} {current : Scope α} {stream : RandomStream}
    {compare : α → α → Bool} {answer : Option (Answer α)} {stop : Stop (GrammarError α)}
    (h : (c.judgeNumber current stream compare answer).1 = .error stop) : IsLocal stop := by
  unfold judgeNumber at h
  split at h
  · split at h
    · cases h
      trivial
    next value _ =>
      split at h
      next fault hfault =>
        cases h
        exact fun h => value.halts_compute current stream (h ▸ hfault)
      · cases h
  · cases h
    trivial

/-- A condition stops for a reason of its own if the walks over the parents end. -/
theorem isLocal_evaluate (h : ∀ id, Halts (d.isLineage target id)) {c : Condition α}
    {stop : Stop (GrammarError α)} (hstop : (c.evaluate d target).1 = .error stop) :
    IsLocal stop := by
  unfold evaluate at hstop
  split at hstop
  next fault hfault =>
    cases hstop
    exact fun hendless => c.query.halts_answer h (hendless ▸ hfault)
  next answer _ =>
    split at hstop
    · cases hstop
    · cases hstop
    · exact isLocal_judgeTruth hstop
    · exact isLocal_judgeTruth hstop
    all_goals exact isLocal_judgeNumber hstop

end Condition

end

/-! ## Rules -/

section

open Effect (Follows)

variable [Scalar α] [Trigonometry α] {d : Derivation α} {target : Shape α} {id : ShapeId}

theorem Action.runItems_follows (items : List (Item (Operation α))) (d : Derivation α)
    (h : target.symbol.isSome) : (runItems items d target).Follows d target := by
  induction items generalizing d target with
  | nil => exact .done (.refl d) (.refl target)
  | cons item items ih =>
    have hitem : (item.run d target).Follows d target := Operation.runItem_follows item d h
    exact hitem.andThen (ih _ (hitem.place.symbol ▸ h))

namespace Rule

theorem isLocal_checkAll (h : ∀ id, Halts (d.isLineage target id))
    {conditions : List (Condition α)} {s : RandomStream} {stop : Stop (GrammarError α)}
    (hstop : (checkAll d target conditions s).1 = .error stop) : IsLocal stop := by
  induction conditions generalizing s with
  | nil => cases hstop
  | cons c conditions ih =>
    simp only [checkAll] at hstop
    split at hstop
    · exact ih hstop
    · exact Condition.isLocal_evaluate (d := { d with stream := s }) h hstop

theorem isLocal_matchShape (h : ∀ id, Halts (d.isLineage target id)) {r : Rule α}
    {stop : Stop (GrammarError α)} (hstop : (r.matchShape d target).1 = .error stop) :
    IsLocal stop := by
  unfold matchShape at hstop
  split at hstop
  · exact isLocal_checkAll h hstop
  · cases hstop

/-- A rule matches only shapes of its symbol. -/
theorem hasSymbol_of_matchShape {r : Rule α} (h : (r.matchShape d target).1 = .ok true) :
    target.hasSymbol r.symbol := by
  unfold matchShape at h
  split at h
  next hsymbol => exact hsymbol
  next => cases h

theorem matchShape_always {symbol : String} (items : List (Item (Operation α)))
    (h : target.hasSymbol symbol) (d : Derivation α) :
    (always symbol items).matchShape d target = (.ok true, d.stream) := if_pos h

theorem apply_follows (r : Rule α) (d : Derivation α) (h : target.symbol.isSome) :
    (r.apply d target).Follows d target := by
  unfold apply
  split
  · exact .done (.refl d) (.refl target)
  dsimp only
  split
  · exact .refuse d target trivial
  split
  · exact .after (.withStream ..) (Action.runItems_follows _ _ h)
  · exact .done (.withStream ..) (.refl target)

end Rule

namespace RuleSet

/-- The first rule that matches is applied. Without one, rewriting only draws from the random
stream, and it stops only where a condition did. -/
theorem rewriteBy_cases (rules : List (Rule α)) (d : Derivation α) (target : Shape α) :
    (∃ stream stop, rewriteBy rules d target = (false, ⟨{ d with stream }, target, stop⟩) ∧
      ∀ reason, stop = some reason → ∃ r ∈ rules, ∃ stream,
        (r.matchShape { d with stream } target).1 = .error reason) ∨
    ∃ r ∈ rules, ∃ stream, target.hasSymbol r.symbol ∧
      rewriteBy rules d target = (true, r.apply { d with stream } target) := by
  induction rules generalizing d with
  | nil => exact .inl ⟨d.stream, none, rfl, nofun⟩
  | cons r rules ih =>
    simp only [rewriteBy]
    split
    next stream hmatch =>
      have hsymbol : target.hasSymbol r.symbol := Rule.hasSymbol_of_matchShape (congrArg _ hmatch)
      exact .inr ⟨r, List.mem_cons_self, stream, hsymbol, rfl⟩
    next stream _ =>
      obtain ⟨stream', stop, heq, hstop⟩ | ⟨r', hr', stream', hsymbol, heq⟩ := ih { d with stream }
      · refine .inl ⟨stream', stop, heq, fun reason hreason => ?_⟩
        obtain ⟨r', hr', hmatch⟩ := hstop reason hreason
        exact ⟨r', List.mem_cons_of_mem r hr', hmatch⟩
      · exact .inr ⟨r', List.mem_cons_of_mem r hr', stream', hsymbol, heq⟩
    next stop stream hmatch =>
      refine .inl ⟨stream, some stop, rfl, fun reason hreason => ?_⟩
      cases hreason
      exact ⟨r, List.mem_cons_self, d.stream, congrArg _ hmatch⟩

theorem rewriteBy_spawns (rules : List (Rule α)) (d : Derivation α)
    (h : ∀ other, Halts (d.isLineage target other)) (hid : target.id = some id) :
    (rewriteBy rules d target).2.Spawns (some id) d ∧
      target.SamePlace (rewriteBy rules d target).2.target := by
  obtain ⟨stream, stop, heq, hstop⟩ | ⟨r, -, stream, hsymbol, heq⟩ :=
    rewriteBy_cases rules d target
  · rw [heq]
    refine ⟨⟨.withStream d stream, fun reason hreason => ?_⟩, .refl target⟩
    obtain ⟨r, -, stream, hmatch⟩ := hstop reason hreason
    exact Rule.isLocal_matchShape (d := { d with stream }) h hmatch
  · have hsome : target.symbol.isSome := Shape.isSome_symbol hsymbol
    have hrun := r.apply_follows { d with stream } hsome
    have hparent : target.lineageParent = some id := Shape.lineageParent_eq_id hsome hid
    rw [heq]
    exact ⟨.after (.withStream d stream) (hparent ▸ hrun.toSpawns), hrun.place⟩

/-- Rewriting enters shapes and leaves the place of its target as it is, whatever the history is. -/
theorem rewrite_enters (rules : RuleSet α) (d : Derivation α) (target : Shape α) :
    ∃ l, Derivation.Enters l d (rules.rewrite d target).2.derivation ∧
      target.SamePlace (rules.rewrite d target).2.target := by
  unfold rewrite
  obtain ⟨stream, stop, heq, -⟩ | ⟨r, -, stream, hsymbol, heq⟩ :=
    rewriteBy_cases rules.levels.flatten d target
  · rw [heq]
    exact ⟨[], ⟨rfl, rfl, rfl, rfl⟩, .refl target⟩
  · have hrun := r.apply_follows { d with stream } (Shape.isSome_symbol hsymbol)
    obtain ⟨l, -, henters⟩ := (Derivation.Gains.withStream d stream).trans hrun.gains
    rw [heq]
    exact ⟨l, henters, hrun.place⟩

/-- Rewriting a shape that has a number enters children of it and leaves its place as it is. It
stops for reasons of the rules if the walks over the parents end. -/
theorem rewrite_spawns (rules : RuleSet α) (d : Derivation α)
    (h : ∀ other, Halts (d.isLineage target other)) (hid : target.id = some id) :
    (rules.rewrite d target).2.Spawns (some id) d ∧
      target.SamePlace (rules.rewrite d target).2.target :=
  rewriteBy_spawns rules.levels.flatten d h hid

end RuleSet

end

end Cityscape.Grammar
