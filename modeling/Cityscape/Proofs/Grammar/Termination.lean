import Cityscape.Proofs.Grammar.History

/-!
# Derivations come to an end

A rule may put out the very symbol that it rewrites, and so a derivation may have shapes to evaluate
without end. It is the count of evaluations that ends it: each evaluation adds one, and beyond the
limit no shape is rewritten. Within an evaluation, operations only descend into the items inside of
them, and the walk over the parents of a shape meets ever smaller numbers.

## Main statements

* `RuleSet.deriveQueue_add` — more fuel than needed changes nothing.
* `RuleSet.terminates_of_derive` — a derivation ends with everything evaluated within the limit, at
  the limit, or for a reason that lies in a rule.
-/

namespace Cityscape.Grammar.RuleSet

open Cityscape.Grammar.Derivation (Idle Descends)

variable {α : Type} [Scalar α] [Trigonometry α] {rules : RuleSet α} {u v w : Derivation α}

/-- Fuel for one evaluation beyond the limit is as good as any more. -/
theorem deriveQueue_add {fuel : Nat} (hv : v.Idle) (hfuel : evaluationLimit < v.evaluations + fuel)
    (more : Nat) : rules.deriveQueue (fuel + more) v = rules.deriveQueue fuel v := by
  induction fuel generalizing v with
  | zero => exact absurd hv.within_limit (Nat.not_le.2 hfuel)
  | succ fuel ih =>
    rw [Nat.add_right_comm]
    cases hnext : v.next? with
    | none => simp only [deriveQueue, hnext]
    | some taken =>
      obtain ⟨shape, w⟩ := taken
      simp only [deriveQueue, hnext]
      by_cases hlimit : evaluationLimit < w.evaluations
      · simp only [hlimit, if_true]
      simp only [hlimit, if_false]
      rcases hrewrite : rules.rewrite w shape with ⟨fired, d, target, _ | stop⟩
      · have hstep : rules.Evaluates v _ :=
          .intro shape target w d fired hnext (Nat.not_lt.1 hlimit) hrewrite
        obtain ⟨hidle, hcount⟩ := hstep.idle hv
        exact ih hidle (by omega)
      · rfl

/-- The stop of an evaluation lies in its rule. -/
theorem isLocal_of_rewrite {shape target : Shape α} {d : Derivation α} {fired : Bool}
    {stop : Stop (GrammarError α)} (hv : v.Idle) (hnext : v.next? = some (shape, w))
    (hrewrite : rules.rewrite w shape = (fired, ⟨d, target, some stop⟩)) : IsLocal stop := by
  have hspawns := (rules.rewrite_of_next hv hnext).1
  rw [hrewrite] at hspawns
  exact hspawns.isLocal stop rfl

/-- Whatever the rules are, a derivation ends, and with any more fuel in the same way: within the
limit, with a shape that was taken when the limit was reached, or for a reason that lies in a rule.
The walk over the parents of a shape that is rewritten ends, too, and tells its lineage. -/
theorem terminates_of_derive (rules : RuleSet α) (d : Derivation α) (start : Shape α)
    (hstart : start.parent = none) :
    (∃ v, rules.Passes d.clear start v ∧ v.evaluations ≤ evaluationLimit ∧
      rules.Ends v (rules.derive d.clear start)) ∧
    (∀ fuel, evaluationLimit < fuel →
      rules.deriveQueue fuel (d.clear.spawn start) = rules.derive d.clear start) ∧
    (∀ v stop, rules.derive d.clear start = (v, stop) →
      (stop = none → v.evaluations ≤ evaluationLimit) ∧
      (∀ limit, stop = some (.refused (.evaluationLimit limit)) → limit = evaluationLimit ∧
        ∃ u shape, rules.Passes d.clear start u ∧ u.evaluations = evaluationLimit ∧
          u.next? = some (shape, v)) ∧
      stop ≠ some (.fault .endless)) ∧
    ∀ v, rules.Passes d.clear start v → ∀ shape w, v.next? = some (shape, w) →
      ∀ stream ancestor, ∃ b, { w with stream }.isLineage shape ancestor = .ok b ∧
        (b = true ↔ ∃ id, shape.id = some id ∧ Descends w.shapes id ancestor) := by
  obtain ⟨u, hpass, hends⟩ := rules.exists_ends_of_derive d start
  have hu : u.Idle := idle_of_passes hstart hpass
  refine ⟨⟨u, hpass, hu.within_limit, hends⟩, fun fuel hfuel => ?_, ?_, ?_⟩
  · obtain ⟨more, rfl⟩ := Nat.exists_eq_add_of_le hfuel
    have hadd (more : Nat) : rules.deriveQueue (evaluationLimit + 1 + more) (d.clear.spawn start) =
        rules.deriveQueue (evaluationLimit + 1) (d.clear.spawn start) :=
      deriveQueue_add (d.idle_spawn_clear hstart) (Nat.lt_add_left _ (Nat.lt_succ_self _)) more
    exact (hadd more).trans (hadd 1).symm
  · intro v stop hr
    rw [hr] at hends
    cases hends with
    | drained => exact ⟨fun _ => hu.within_limit, nofun, nofun⟩
    | limit shape _ hnext hlimit =>
      refine ⟨nofun, fun limit hstop => ?_, nofun⟩
      obtain ⟨-, -, -, hcount, -⟩ := hu.next hu.idle hnext
      have hwithin := hu.within_limit
      cases hstop
      exact ⟨rfl, u, shape, hpass, by omega, hnext⟩
    | stopped shape target w d fired stop hnext _ hrewrite =>
      have hlocal : IsLocal stop := isLocal_of_rewrite hu hnext hrewrite
      refine ⟨nofun, fun limit hstop => ?_, fun hstop => ?_⟩
      · cases hstop
        exact hlocal.elim
      · cases hstop
        exact absurd rfl hlocal
  · intro v hv shape w hnext stream ancestor
    have hidle : v.Idle := idle_of_passes hstart hv
    obtain ⟨hw, -, hshapes, -, hshape⟩ := hidle.next hidle.idle hnext
    have hid : shape.id = some v.evaluations := hidle.id _ _ hshape
    simp only [hid, Option.some.injEq, exists_eq_left']
    exact Derivation.isLineage_eq_ok (d := { w with stream }) hw.parent_lt (hshapes ▸ hshape) hid
      ancestor

/-- Blocks that put out blocks for as long as no other block covers them, so that the walk over the
parents gets longer with each of them. -/
theorem terminates_of_derive_copies :
    let uncovered : Condition Float32 := ⟨.cover .noParent, .equal, some (.cover false .none)⟩
    let copy : Rule Float32 := ⟨"block", [uncovered], [⟨1, [.put "block"]⟩]⟩
    let rules : RuleSet Float32 := ⟨"copies", none, [[copy]]⟩
    let start : Shape Float32 := .ofBox (some "block") ⟨⟨0, ⟨4, 4, 4⟩⟩, 0⟩
    let r := rules.derive (Derivation.ofSeed 7).clear start
    start.parent = none ∧
      (rules.deriveQueue 12 ((Derivation.ofSeed 7).clear.spawn start)).1.evaluations = 12 ∧
      r.2 ≠ some (.fault .endless) ∧
      ∀ fuel, evaluationLimit < fuel →
        rules.deriveQueue fuel ((Derivation.ofSeed 7).clear.spawn start) = r := by
  intro uncovered copy rules start r
  have h := rules.terminates_of_derive (.ofSeed 7) start rfl
  exact ⟨rfl, by decide +kernel, (h.2.2.1 r.1 r.2 (Prod.eta r).symm).2.2, h.2.1⟩

end Cityscape.Grammar.RuleSet
