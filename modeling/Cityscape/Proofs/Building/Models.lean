import Cityscape.Proofs.Building.Generation
import Cityscape.Proofs.Grammar.ModelCalls

/-!
# The models of buildings

A workshop hands its table of names and its parts over to the building that it derived, and begins
every derivation with neither. So whatever was derived before, or stopped halfway, the parts of a
building are those of the calls in its own derivation: each refers to the name that it was placed
by, and they are divided among the names of the table.

## Main statements

* `Workshop.models_of_generate` — the models of a building come from the calls of its derivation.
* `Workshop.names_and_parts_in_step` — names and parts are in step, in a state and in a building.
-/

namespace Cityscape

open Grammar

variable {α : Type} [Scalar α]

namespace Workshop

omit [Scalar α] in
/-- The numbers of parts that show the models of the table add up to the number of all parts. -/
theorem sum_partCount {calls : List (String × Shape α)} {d : Derivation α}
    (h : Tabulates calls d.modelNames d.parts) (ruleSet : String) (lot : Vec2 α)
    (terminals : List (Shape α)) (shapeCount : ℕ) :
    (d.modelNames.toList.map
      (Building.mk ruleSet lot d.modelNames d.parts terminals shapeCount).partCount).sum =
      d.parts.size := by
  rw [← h.sum_count, funext (partCount_eq h.places ruleSet lot terminals shapeCount)]

variable [Trigonometry α]

/-- The table and the parts of a building are those of the calls at the moments of its derivation,
which begins with the start of the rule set on the lot. -/
theorem models_of_generate {w w' : Workshop α} {name : String} {lot : Vec2 α} {b : Building α}
    (h : w.generate name lot = (.ok b, w')) :
    ∃ rules start calls, w.ruleSet? name = some rules ∧ rules.start = some start ∧
      (∀ i call, calls[i]? = some call ↔ ∃ m, rules.MeetsFrom (w.derivation.clear.spawn
        { start with scope := { start.scope with size := ⟨lot.x, 0, lot.y⟩ } }) m ∧
          m.Places i call) ∧
      Tabulates calls b.modelNames b.parts ∧
      (b.modelNames.toList.map b.partCount).sum = b.parts.size := by
  unfold generate at h
  dsimp only at h
  split at h
  next => cases h
  next rules hrules =>
    split at h
    next => cases h
    next start hstart =>
      split at h
      next => cases h
      next d hderive =>
        cases h
        obtain ⟨calls, hcalls, htabulates⟩ := RuleSet.tabulates_of_derive hderive
        exact ⟨rules, start, calls, hrules, hstart, hcalls, htabulates,
          sum_partCount htabulates ..⟩

/-- After any steps that place models, take them or clear the state, no name is twice in the table,
the names stand in the order of their first use, every part refers to a place in the table, and
every name is shown by a part. In a building, whatever the workshop derived before, each part refers
to the name that it was placed by in the derivation, and the numbers of parts that show the models
of the table add up to the number of all parts. -/
theorem names_and_parts_in_step :
    (∀ (seed : UInt64) (steps : List (ModelStep α)),
      let d := steps.foldl Derivation.stepModels (.ofSeed seed)
      d.modelNames.toList.Nodup ∧
        d.modelNames.toList = ((ModelStep.left [] steps).map (·.1)).eraseDups ∧
        (∀ p ∈ d.parts, p.model < d.modelNames.size ∧
          (d.modelNames.size ≤ 2 ^ 32 → p.model.toUInt32.toNat = p.model)) ∧
        (∀ i < d.modelNames.size, ∃ p ∈ d.parts, p.model = i) ∧
        Tabulates (ModelStep.left [] steps) d.modelNames d.parts) ∧
    ∀ (w w' : Workshop α) (name : String) (lot : Vec2 α) (b : Building α),
      w.generate name lot = (.ok b, w') →
      ∃ rules start calls, w.ruleSet? name = some rules ∧ rules.start = some start ∧
        (∀ i call, calls[i]? = some call ↔ ∃ m, rules.MeetsFrom (w.derivation.clear.spawn
          { start with scope := { start.scope with size := ⟨lot.x, 0, lot.y⟩ } }) m ∧
            m.Places i call) ∧
        Tabulates calls b.modelNames b.parts ∧
        (b.modelNames.toList.map b.partCount).sum = b.parts.size := by
  refine ⟨fun seed steps => ?_, fun w w' name lot b h => models_of_generate h⟩
  have h := tabulates_stepModels (d := .ofSeed (α := α) seed) .empty steps
  exact ⟨h.nodup, h.firstUse, fun p hp => ⟨h.model_lt hp, fun hsize => h.toNat_toUInt32 hsize hp⟩,
    fun i hi => h.exists_part hi, h⟩

/-- A ruin stops after its first wall. The hut that is derived next has a table of its own. -/
theorem names_and_parts_in_step_hut :
    let start (symbol : String) : Option (Shape Float32) := some (.ofBox (some symbol) ⟨0, 0⟩)
    let ruin : RuleSet Float32 :=
      ⟨"ruin", start "ruin", [[.always "ruin" [⟨[.model "wall", .restore], none⟩]]]⟩
    let hut : RuleSet Float32 :=
      ⟨"hut", start "hut",
        [[.always "hut" [⟨[.model "door", .model "wall", .model "door"], none⟩]]]⟩
    let w := ((((Workshop.ofSeed 7).register ruin).register hut).generate "ruin" ⟨4, 4⟩).2
    w.derivation.modelNames = #["wall"] ∧
      ∃ b w' calls, w.generate "hut" ⟨4, 4⟩ = (.ok b, w') ∧ b.modelNames = #["door", "wall"] ∧
        b.parts.map (·.model) = #[0, 1, 0] ∧ Tabulates calls b.modelNames b.parts ∧
        (b.modelNames.toList.map b.partCount).sum = b.parts.size := by
  intro start ruin hut w
  have hmodels : (w.generate "hut" ⟨4, 4⟩).1.toOption.map
      (fun b => (b.modelNames, b.parts.map (·.model))) = some (#["door", "wall"], #[0, 1, 0]) := by
    decide +kernel
  rcases hgenerate : w.generate "hut" ⟨4, 4⟩ with ⟨_ | b, w'⟩
  · rw [hgenerate] at hmodels
    cases hmodels
  · rw [hgenerate] at hmodels
    obtain ⟨hnames, hplaces⟩ := Prod.mk.inj (Option.some.inj hmodels)
    obtain ⟨-, -, calls, -, -, -, htabulates, hsum⟩ :=
      names_and_parts_in_step.2 w w' "hut" ⟨4, 4⟩ b hgenerate
    exact ⟨by decide +kernel, b, w', calls, rfl, hnames, hplaces, htabulates, hsum⟩

end Workshop

end Cityscape
