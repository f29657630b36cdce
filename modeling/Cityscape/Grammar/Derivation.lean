import Cityscape.Fifo
import Cityscape.Grammar.Error
import Cityscape.Grammar.Value

/-!
# Derivations

The state of a derivation: every shape so far, the shapes that wait for their evaluation, the model
parts that were placed, and the source of chance. Shapes are numbered in the order in which they
enter the history.

## Main definitions

* `Derivation` — the state.
* `Derivation.spawn`, `Derivation.next?`, `Derivation.finish` — the life of a shape.
* `Derivation.spawnModel`, `Derivation.takeModels` — the model parts.
* `Derivation.isLineage` — whether a shape is another one or descends from it.
* `Effect` — what applying a part of a rule leads to.
-/

namespace Cityscape.Grammar

/-- A model placed at a part of a building. -/
structure ModelPart (α : Type) where
  /-- The box the model fills. -/
  part : OrientedBox α
  /-- The place of the model's name in the table of names. -/
  model : Nat
  deriving Repr

/-- The state of a derivation. -/
structure Derivation (α : Type) where
  /-- Every shape so far. -/
  shapes : Array (Shape α)
  /-- The shapes that wait for their evaluation. -/
  queue : Fifo ShapeId
  current : Option ShapeId
  /-- The scope that values read: that of the shape under evaluation, as it is now. -/
  currentScope : Scope α
  stream : RandomStream
  modelNames : Array String
  parts : Array (ModelPart α)
  /-- How many shapes were taken from the queue. -/
  evaluations : Nat

namespace Derivation

variable {α : Type} [Scalar α]

/-- The state without shapes and parts; the random stream goes on. -/
def clear (d : Derivation α) : Derivation α :=
  ⟨#[], .empty, none, 0, d.stream, #[], #[], 0⟩

/-- The state at the start of a seed's random stream. -/
def ofSeed (seed : UInt64) : Derivation α :=
  ⟨#[], .empty, none, 0, .ofSeed seed, #[], #[], 0⟩

omit [Scalar α]

/-! ## Shapes -/

/-- Enters a shape into the history and lets it wait for its evaluation. -/
def spawn (d : Derivation α) (shape : Shape α) : Derivation α :=
  let id := d.shapes.size
  { d with
    shapes := d.shapes.push { shape with id := some id, status := .active }
    queue := d.queue.push id }

/-- Takes the next shape from the queue and makes it the one under evaluation; nothing when none
waits. -/
def next? (d : Derivation α) : Option (Shape α × Derivation α) :=
  match d.queue.pop? with
  | none => none
  | some (id, queue) =>
    match d.shapes[id]? with
    | none => none
    | some shape =>
      some (shape, { d with
        queue
        current := some id
        currentScope := shape.scope
        evaluations := d.evaluations + 1 })

/-- Stores the shape under evaluation back into the history, with what became of it. -/
def finish (d : Derivation α) (shape : Shape α) (status : Status) : Derivation α :=
  match shape.id with
  | some id => { d with
      shapes := d.shapes.setIfInBounds id { shape with status }
      current := none }
  | none => { d with current := none }

/-- Lets the current scope follow a shape if that is the one under evaluation. -/
def syncScope (d : Derivation α) (shape : Shape α) : Derivation α :=
  if shape.id.isSome ∧ shape.id = d.current then { d with currentScope := shape.scope } else d

def shape? (d : Derivation α) (id : ShapeId) : Option (Shape α) := d.shapes[id]?

/-! ## Lineage -/

/-- Follows at most `steps` links from shapes to their parents until `ancestor` is met. -/
def climb (shapes : Array (Shape α)) (ancestor : ShapeId) :
    Nat → Option ShapeId → Except Fault Bool
  | _, none => .ok false
  | 0, some _ => .error .endless
  | steps + 1, some id =>
    if id = ancestor then .ok true else climb shapes ancestor steps (shapes[id]?.bind (·.parent))

/-- Whether a shape is `ancestor` or descends from it. Links that do not come to an end within the
number of shapes run in a circle. -/
def isLineage (d : Derivation α) (shape : Shape α) (ancestor : ShapeId) : Except Fault Bool :=
  if shape.id = some ancestor then .ok true
  else climb d.shapes ancestor (d.shapes.size + 1) shape.parent

/-! ## Models -/

/-- Places a model at the scope of a shape. A name enters the table when it is used first. -/
def spawnModel (d : Derivation α) (name : String) (shape : Shape α) : Derivation α :=
  match d.modelNames.idxOf? name with
  | some model => { d with parts := d.parts.push ⟨shape.box, model⟩ }
  | none => { d with
      parts := d.parts.push ⟨shape.box, d.modelNames.size⟩
      modelNames := d.modelNames.push name }

def takeModels (d : Derivation α) : (Array String × Array (ModelPart α)) × Derivation α :=
  ((d.modelNames, d.parts), { d with modelNames := #[], parts := #[] })

end Derivation

/-! ## Effects -/

/-- What applying a part of a rule leads to. When it stops, the state and the target are those it
left behind. -/
structure Effect (α : Type) where
  derivation : Derivation α
  target : Shape α
  /-- Why it did not finish, if it did not. -/
  stop : Option (Stop (GrammarError α))

namespace Effect

variable {α : Type}

def done (d : Derivation α) (target : Shape α) : Effect α := ⟨d, target, none⟩

def refuse (d : Derivation α) (target : Shape α) (error : GrammarError α) : Effect α :=
  ⟨d, target, some (.refused error)⟩

def abort (d : Derivation α) (target : Shape α) (fault : Fault) : Effect α :=
  ⟨d, target, some (.fault fault)⟩

/-- Goes on with `next` unless it was stopped. -/
def andThen (e : Effect α) (next : Derivation α → Shape α → Effect α) : Effect α :=
  match e with
  | ⟨d, target, none⟩ => next d target
  | ⟨d, target, some stop⟩ => ⟨d, target, some stop⟩

@[simp] theorem done_andThen (d : Derivation α) (target : Shape α)
    (next : Derivation α → Shape α → Effect α) : (done d target).andThen next = next d target :=
  rfl

@[simp] theorem refuse_andThen (d : Derivation α) (target : Shape α) (error : GrammarError α)
    (next : Derivation α → Shape α → Effect α) :
    (refuse d target error).andThen next = refuse d target error :=
  rfl

@[simp] theorem abort_andThen (d : Derivation α) (target : Shape α) (fault : Fault)
    (next : Derivation α → Shape α → Effect α) :
    (abort d target fault).andThen next = abort d target fault :=
  rfl

/-- Computes values for the current scope and goes on with their numbers. -/
def withValues [Scalar α] [Trigonometry α] (d : Derivation α) (target : Shape α)
    (values : List (Value α)) (next : Derivation α → List α → Effect α) : Effect α :=
  match Value.computeAll d.currentScope values d.stream with
  | .error fault => abort d target fault
  | .ok (numbers, stream) => next { d with stream } numbers

end Effect

end Cityscape.Grammar
