import Cityscape.Grammar.Component
import Cityscape.Grammar.Derivation
import Cityscape.Grammar.Split

/-!
# Operations

What rules do with a shape: break it into components, tile it, subdivide it, move, resize or turn
it, save and restore its scope, put a roof on it, place a model in it. Operations change the target
or enter new shapes into the history.

## Main definitions

* `Item` — operations run in order, and then an output symbol.
* `Operation` — the operations.
* `Operation.run`, `Item.run` — what they do.
-/

namespace Cityscape.Grammar

/-- Operations that are run in order on a target, and the symbol that is put out after them. -/
structure Item (ω : Type) where
  operations : List ω
  /-- The symbol put out. -/
  output : Option String

/-- What rules do with a shape. -/
inductive Operation (α : Type)
  /-- Breaks the shape into components. For a kind that selects a single one, the parameter is its
  number; otherwise the parameters say how many components each symbol takes. -/
  | component (kind : ComponentKind) (parameters : List (Value α)) (symbols : List String)
  /-- Fills the shape with tiles along the axes that are flagged, one shape for each symbol in each
  tile. -/
  | tile (axes : List Bool) (values : List (Value α)) (symbols : List String)
  /-- Cuts the shape into consecutive slots along an axis and runs an item in each. -/
  | subdivide (axis : Axis) (values : List (Value α)) (items : List (Option (Item (Operation α))))
  /-- Moves the scope; a relative value scales the position. -/
  | move (values : List (Value α))
  /-- Resizes the scope; a relative value scales the size. -/
  | resize (values : List (Value α))
  /-- Sets the rotation; a missing angle becomes zero and a relative one scales the angle. -/
  | turn (x y z : Option (Value α))
  | save
  /-- Restores the scope that was saved last. -/
  | restore
  /-- Puts a roof of a given pitch over the footprint. -/
  | roof (kind : RoofKind) (angle : Value α) (output : String)
  | model (name : String)

namespace Operation

variable {α : Type} [Scalar α]

/-! ## Spawning -/

/-- Enters a shape derived from the target into the history. -/
def spawnChild (target : Shape α) (d : Derivation α) (symbol : String) (part : OrientedBox α) :
    Derivation α :=
  d.spawn (target.child symbol part)

/-- Enters one shape for each symbol and part into the history, part by part. -/
def spawnParts (target : Shape α) (parts : List (OrientedBox α)) (symbols : List String)
    (d : Derivation α) : Derivation α :=
  parts.foldl (fun d part => symbols.foldl (spawnChild target · · part) d) d

/-- Enters parts into the history, each symbol taking as many consecutive parts as its count
says. -/
def spawnGroups (target : Shape α) :
    List (OrientedBox α) → List (String × Nat) → Derivation α → Derivation α
  | _, [], d => d
  | parts, (symbol, count) :: rest, d =>
    spawnGroups target (parts.drop count) rest
      ((parts.take count).foldl (spawnChild target · symbol ·) d)

/-! ## Numbers from values -/

/-- A number as a signed half word, cut off at its ends. -/
def halfWord (a : α) : Int :=
  if a < 0 then -(Min.min (Scalar.whole (-a)) 0x80000000 : Nat)
  else (Min.min (Scalar.whole a) 0x7fffffff : Nat)

/-- A rounded number as a count. -/
def count (a : α) : Nat := Scalar.whole (Scalar.max (Scalar.round a) 0)

/-- Slots from values and their numbers. -/
def slotsOf (values : List (Value α)) (numbers : List α) : List (Slot α) :=
  List.zipWith (fun v a => ⟨a, v.relative⟩) values numbers

variable [Trigonometry α]

/-! ## Operations without items -/

def runComponent (kind : ComponentKind) (parameters : List (Value α)) (symbols : List String)
    (d : Derivation α) (target : Shape α) : Effect α :=
  if kind.needsDepth && target.box.isFlat then .refuse d target (.flatShape kind)
  else
    let parts := kind.components target.box
    if kind.isSingle then
      if parameters.length ≠ 1 then
        .refuse d target (.lengthMismatch .componentIndex 1 parameters.length)
      else
        Effect.withValues d target parameters fun d numbers =>
          let index := numbers.foldl (fun _ a => halfWord (Scalar.round a)) 0
          if index < 1 ∨ (parts.length : Int) < index then
            .refuse d target (.indexOutOfRange kind index parts.length)
          else
            .done (spawnParts target ((parts.drop (index.toNat - 1)).take 1) symbols d) target
    else if parameters.isEmpty then .done (spawnParts target parts symbols d) target
    else if parameters.length ≠ symbols.length then
      .refuse d target (.lengthMismatch .componentCounts symbols.length parameters.length)
    else
      Effect.withValues d target parameters fun d numbers =>
        let counts := numbers.map count
        let total := counts.foldl (· + ·) 0
        if wordLimit < total then .abort d target .overflow
        else if total ≠ parts.length then
          .refuse d target (.groupCountMismatch total parts.length)
        else .done (spawnGroups target parts (symbols.zip counts) d) target

/-- The spacings of the axes that are flagged: each takes the size of the next slot along the extent
of that axis. -/
def spacings (size : Vec3 α) (slots : List (Slot α)) :
    List Axis → List Bool → Nat → List (Option α)
  | axis :: axes, true :: flags, slot =>
    (slotSizes slots (size.get axis))[slot]? :: spacings size slots axes flags (slot + 1)
  | _ :: axes, false :: flags, slot => none :: spacings size slots axes flags slot
  | _, _, _ => []

def runTile (axes : List Bool) (values : List (Value α)) (symbols : List String)
    (d : Derivation α) (target : Shape α) : Effect α :=
  if values.length ≠ symbols.length then
    .refuse d target (.lengthMismatch .repeatSymbols values.length symbols.length)
  else if axes.length ≠ 3 ∨ !axes.any id then .refuse d target .invalidAxes
  else if axes.count true ≠ values.length then
    .refuse d target (.lengthMismatch .repeatValues (axes.count true) values.length)
  else
    Effect.withValues d target values fun d numbers =>
      let size := target.scope.size
      match spacings size (slotsOf values numbers) Axis.all axes 0 with
      | [x, y, z] =>
        match tiling size x y z with
        | some t => .done (spawnParts target (target.box.tiles t) symbols d) target
        | none => .refuse d target (.repeatLimit tileLimit)
      | _ => .refuse d target .invalidAxes

/-- Changes the components of a vector by the values for the three axes. -/
def change (adjust : Bool → α → α → α) (values : List (Value α)) (numbers : List α)
    (v : Vec3 α) : Vec3 α :=
  ((Axis.all.zip (values.zip numbers)).foldl fun v (axis, value, a) =>
    v.set axis (adjust value.relative a (v.get axis))) v

def runMove (values : List (Value α)) (d : Derivation α) (target : Shape α) : Effect α :=
  if values.length ≠ 3 then .refuse d target (.lengthMismatch .moveValues 3 values.length)
  else
    Effect.withValues d target values fun d deltas =>
      let position := change (fun relative delta p => p + if relative then delta * p else delta)
        values deltas target.scope.position
      let target := { target with scope := { target.scope with position } }
      .done (d.syncScope target) target

def runResize (values : List (Value α)) (d : Derivation α) (target : Shape α) : Effect α :=
  if values.length ≠ 3 then .refuse d target (.lengthMismatch .scaleValues 3 values.length)
  else
    Effect.withValues d target values fun d sizes =>
      let size := change (fun relative size s => if relative then size * s else size)
        values sizes target.scope.size
      let target := { target with scope := { target.scope with size } }
      .done (d.syncScope target) target

/-- The new angle for a value and the angle there is. -/
def turnAngle (current : Scope α) (angle : α) :
    Option (Value α) → RandomStream → Except Fault (α × RandomStream)
  | none, s => .ok (0, s)
  | some v, s => do
    let (a, s) ← v.compute current s
    return (if v.relative then a * angle else a, s)

def runTurn (x y z : Option (Value α)) (d : Derivation α) (target : Shape α) : Effect α :=
  let angles : Except Fault (Vec3 α × RandomStream) := do
    let (ax, s) ← turnAngle d.currentScope target.rotation.x x d.stream
    let (ay, s) ← turnAngle d.currentScope target.rotation.y y s
    let (az, s) ← turnAngle d.currentScope target.rotation.z z s
    return (⟨ax, ay, az⟩, s)
  match angles with
  | .error fault => .abort d target fault
  | .ok (rotation, stream) => .done { d with stream } { target with rotation }

def runRestore (d : Derivation α) (target : Shape α) : Effect α :=
  match target.saved with
  | [] => .refuse d target .emptyScopeStack
  | scope :: saved =>
    let target := { target with scope, saved }
    .done (d.syncScope target) target

/-- Puts a roof over the footprint of the target; only hipped roofs are known. The height follows
from the pitch and the depth. -/
def runRoof (kind : RoofKind) (angle : Value α) (output : String) (d : Derivation α)
    (target : Shape α) : Effect α :=
  if kind ≠ .hipped then .refuse d target (.unsupportedRoof kind)
  else
    Effect.withValues d target [angle] fun d numbers =>
      let pitch := numbers.foldl (fun _ a => a) 0
      let size := target.scope.size
      let height := size.z * Trigonometry.tan (Trigonometry.radians pitch) / 2.0
      let scope := { target.scope with size := { size with y := height } }
      .done (spawnChild target d output ⟨scope, target.rotation⟩) target

/-! ## Items -/

/-- Puts out a symbol: a target with a symbol gets a child that carries the new one, and a carrier
takes the symbol and enters the history itself. -/
def putOut (output : Option String) (d : Derivation α) (target : Shape α) : Effect α :=
  match output, target.symbol with
  | none, _ => .done d target
  | some symbol, some _ => .done (spawnChild target d symbol target.box) target
  | some symbol, none =>
    let target := { target with symbol := some symbol }
    .done (d.spawn target) target

mutual

/-- Applies an operation to a target. -/
def run : Operation α → Derivation α → Shape α → Effect α
  | component kind parameters symbols, d, target => runComponent kind parameters symbols d target
  | tile axes values symbols, d, target => runTile axes values symbols d target
  | subdivide axis values items, d, target =>
    if values.length ≠ items.length then
      .refuse d target (.lengthMismatch .subdivideSlots values.length items.length)
    else
      Effect.withValues d target values fun d numbers =>
        runSlots items (target.box.slots axis (slotsOf values numbers)) d target
  | move values, d, target => runMove values d target
  | resize values, d, target => runResize values d target
  | turn x y z, d, target => runTurn x y z d target
  | save, d, target => .done d { target with saved := target.scope :: target.saved }
  | restore, d, target => runRestore d target
  | roof kind angle output, d, target => runRoof kind angle output d target
  | model name, d, target => .done (d.spawnModel name target) target

/-- Applies operations to a target, one after the other. -/
def runAll : List (Operation α) → Derivation α → Shape α → Effect α
  | [], d, target => .done d target
  | f :: rest, d, target => (f.run d target).andThen fun d target => runAll rest d target

/-- Runs an item on a target: its operations, and then its output. -/
def runItem : Item (Operation α) → Derivation α → Shape α → Effect α
  | ⟨operations, output⟩, d, target =>
    if operations.isEmpty ∧ output = none then .refuse d target .emptyItem
    else (runAll operations d target).andThen (putOut output)

/-- Runs an item, if there is one, in each slot of a target, on a carrier with the scope of the
slot. The target itself stays as it is. -/
def runSlots : List (Option (Item (Operation α))) → List (OrientedBox α) → Derivation α → Shape α →
    Effect α
  | none :: items, _ :: slots, d, target => runSlots items slots d target
  | some item :: items, slot :: slots, d, target =>
    match runItem item d (.carrier slot target.lineageParent) with
    | ⟨d, _, none⟩ => runSlots items slots d target
    | ⟨d, _, some stop⟩ => ⟨d, target, some stop⟩
  | _, _, d, target => .done d target

end

end Operation

namespace Item

variable {α : Type} [Scalar α] [Trigonometry α]

def run (item : Item (Operation α)) : Derivation α → Shape α → Effect α := Operation.runItem item

/-- The item that only puts out a symbol. -/
def put {ω : Type} (symbol : String) : Item ω := ⟨[], some symbol⟩

end Item

end Cityscape.Grammar
