import Cityscape.Grammar.Rule

/-!
# Buildings

Buildings in the coordinates of their lots, and the workshop that derives them from rule sets.

## Main definitions

* `Building` — the model parts of a building and what is known about its derivation.
* `Building.partCount`, `Building.bounds`, `Building.height` — its measures.
* `Workshop` — rule sets that share one derivation state.
* `Workshop.register`, `Workshop.generate` — adding a rule set, deriving a building.
-/

namespace Cityscape

open Grammar

/-- A building in the coordinates of its lot. -/
structure Building (α : Type) where
  ruleSet : String
  /-- The width and depth of the lot it was derived for. -/
  lot : Vec2 α
  modelNames : Array String
  parts : Array (ModelPart α)
  /-- The shapes that no rule rewrote. -/
  terminals : List (Shape α)
  /-- The number of shapes that came up. -/
  shapeCount : Nat

namespace Building

variable {α : Type}

/-- How many parts show a model. -/
def partCount (b : Building α) (model : String) : Nat :=
  match b.modelNames.idxOf? model with
  | some index => b.parts.countP (·.model == index)
  | none => 0

variable [Scalar α] [Trigonometry α]

/-- The corners of the unit cube, the first axis changing fastest. -/
def cubeCorners {α : Type} [Scalar α] : List (Vec3 α) :=
  [⟨0, 0, 0⟩, ⟨1, 0, 0⟩, ⟨0, 1, 0⟩, ⟨1, 1, 0⟩, ⟨0, 0, 1⟩, ⟨1, 0, 1⟩, ⟨0, 1, 1⟩, ⟨1, 1, 1⟩]

def partCorners (p : OrientedBox α) : List (Vec3 α) :=
  let orientation := Rotation.ofAngles p.rotation
  cubeCorners.map fun c => p.scope.position + orientation.apply (c.stretch p.scope.size)

/-- The least axis-aligned box around all parts, if there are any. -/
def bounds (b : Building α) : Option (Vec3 α × Vec3 α) :=
  match b.parts.toList.flatMap (partCorners ·.part) with
  | [] => none
  | first :: rest => some (rest.foldl (fun (low, high) c => (low.min c, high.max c)) (first, first))

/-- The height of the building, zero without parts. -/
def height (b : Building α) : α :=
  match b.bounds with
  | some (low, high) => high.y - low.y
  | none => 0

end Building

/-- Rule sets that share one derivation state. -/
structure Workshop (α : Type) where
  ruleSets : List (RuleSet α)
  /-- The state that the last derivation left. -/
  derivation : Derivation α

namespace Workshop

variable {α : Type} [Scalar α]

/-- The workshop without rule sets, at the start of a seed's random stream. -/
def ofSeed (seed : UInt64) : Workshop α := ⟨[], .ofSeed seed⟩

omit [Scalar α] in
/-- Puts a rule set in the place of the first one of the same name, or behind the last one. -/
def replace (new : RuleSet α) : List (RuleSet α) → List (RuleSet α)
  | [] => [new]
  | r :: rest => if r.name = new.name then new :: rest else r :: replace new rest

omit [Scalar α] in
/-- Adds a rule set, which takes the place of one of the same name. -/
def register (w : Workshop α) (new : RuleSet α) : Workshop α :=
  { w with ruleSets := replace new w.ruleSets }

omit [Scalar α] in
def ruleSet? (w : Workshop α) (name : String) : Option (RuleSet α) :=
  w.ruleSets.find? (·.name = name)

omit [Scalar α] in
def names (w : Workshop α) : List String := w.ruleSets.map (·.name)

variable [Trigonometry α]

/-- Derives a building for a lot with the rule set of a given name. -/
def generate (w : Workshop α) (name : String) (lot : Vec2 α) :
    Except (Stop (GrammarError α)) (Building α) × Workshop α :=
  let cleared := w.derivation.clear
  match w.ruleSet? name with
  | none => (.error (.refused (.unknownRuleSet name)), { w with derivation := cleared })
  | some rules =>
    match rules.start with
    | none => (.error (.refused (.missingStart name)), { w with derivation := cleared })
    | some start =>
      let start := { start with scope := { start.scope with size := ⟨lot.x, 0, lot.y⟩ } }
      match rules.derive cleared start with
      | (d, some stop) => (.error stop, { w with derivation := d })
      | (d, none) =>
        let terminals := d.shapes.toList.filter (·.status = .terminal)
        let shapeCount := d.shapes.size
        let ((modelNames, parts), d) := d.takeModels
        (.ok ⟨name, lot, modelNames, parts, terminals, shapeCount⟩, { w with derivation := d })

end Workshop

end Cityscape
