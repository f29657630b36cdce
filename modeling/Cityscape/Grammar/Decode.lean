import Cityscape.Grammar.Rule
import Cityscape.Json.Decode

/-!
# Rule sets as JSON

The JSON form of shapes, values, conditions, operations and rule sets. A record that names its case
in one of its own members is taken in as a whole before its case is known, so all of it has to be
usable. Values and subdivisions are nested, and the form allows as many levels of nesting as texts
may have.

## Main definitions

* `RuleSet.toJson`, `RuleSet.ofJson?` — the form of a rule set, written and read.
* `RuleSet.ofText?` — the rule set of a text.
-/

namespace Cityscape.Grammar

open Json

variable {α : Type} [OfNumeral α]

/-- The greatest number of levels of nesting in a text. -/
def nestingLimit : Nat := 127

/-! ## Names -/

def axisOfName? : String → Option Axis
  | "x" => some .x
  | "y" => some .y
  | "z" => some .z
  | _ => none

def axisName : Axis → String
  | .x => "x"
  | .y => "y"
  | .z => "z"

namespace ScopeProperty

def ofName? : String → Option ScopeProperty
  | "position" => some position
  | "size" => some size
  | _ => none

def name : ScopeProperty → String
  | position => "position"
  | size => "size"

end ScopeProperty

namespace Operator

def ofName? : String → Option Operator
  | "add" => some add
  | "subtract" => some subtract
  | "multiply" => some multiply
  | "divide" => some divide
  | "power" => some power
  | _ => none

def name : Operator → String
  | add => "add"
  | subtract => "subtract"
  | multiply => "multiply"
  | divide => "divide"
  | power => "power"

end Operator

namespace Relation

def ofName? : String → Option Relation
  | "equal" => some equal
  | "not_equal" => some notEqual
  | "greater_than" => some greaterThan
  | "less_than" => some lessThan
  | "greater_than_or_equal" => some greaterThanOrEqual
  | "less_than_or_equal" => some lessThanOrEqual
  | "true" => some isTrue
  | "false" => some isFalse
  | "empty" => some isEmpty
  | "not_empty" => some notEmpty
  | _ => none

def name : Relation → String
  | equal => "equal"
  | notEqual => "not_equal"
  | greaterThan => "greater_than"
  | lessThan => "less_than"
  | greaterThanOrEqual => "greater_than_or_equal"
  | lessThanOrEqual => "less_than_or_equal"
  | isTrue => "true"
  | isFalse => "false"
  | isEmpty => "empty"
  | notEmpty => "not_empty"

end Relation

namespace ComponentKind

def ofName? : String → Option ComponentKind
  | "faces" => some faces
  | "edges" => some edges
  | "vertices" => some vertices
  | "face" => some face
  | "edge" => some edge
  | "vertex" => some vertex
  | "side_faces" => some sideFaces
  | "side_face" => some sideFace
  | "side_edges" => some sideEdges
  | "top_edges" => some topEdges
  | "bottom_edges" => some bottomEdges
  | _ => none

def name : ComponentKind → String
  | faces => "faces"
  | edges => "edges"
  | vertices => "vertices"
  | face => "face"
  | edge => "edge"
  | vertex => "vertex"
  | sideFaces => "side_faces"
  | sideFace => "side_face"
  | sideEdges => "side_edges"
  | topEdges => "top_edges"
  | bottomEdges => "bottom_edges"

end ComponentKind

namespace RoofKind

def ofName? : String → Option RoofKind
  | "gambrel" => some gambrel
  | "cone" => some cone
  | "gabled" => some gabled
  | "hipped" => some hipped
  | "cross_gable" => some crossGable
  | "mansard" => some mansard
  | _ => none

def name : RoofKind → String
  | gambrel => "gambrel"
  | cone => "cone"
  | gabled => "gabled"
  | hipped => "hipped"
  | crossGable => "cross_gable"
  | mansard => "mansard"

end RoofKind

/-! ## Writing -/

/-- A number; one that has no written form becomes null. -/
def jsonOfScalar (a : α) : Json :=
  match OfNumeral.toNumeral? a with
  | some n => .number n
  | none => .null

def jsonOfVec3 (v : Vec3 α) : Json :=
  .array [jsonOfScalar v.x, jsonOfScalar v.y, jsonOfScalar v.z]

def jsonOfOption {β : Type} (encode : β → Json) : Option β → Json
  | some b => encode b
  | none => .null

def jsonOfStrings (xs : List String) : Json := .array (xs.map .string)

namespace Value

def toJson : Value α → Json
  | number relative v =>
    .object [("kind", .string "number"), ("value", jsonOfScalar v), ("relative", .bool relative)]
  | operation relative operator lhs rhs =>
    .object [("kind", .string "operation"), ("operator", .string operator.name),
      ("lhs", lhs.toJson), ("rhs", rhs.toJson), ("relative", .bool relative)]
  | random relative low high =>
    .object [("kind", .string "random"), ("min", low.toJson), ("max", high.toJson),
      ("relative", .bool relative)]
  | scope relative property axis =>
    .object [("kind", .string "scope"), ("property", .string property.name),
      ("axis", .string (axisName axis)), ("relative", .bool relative)]
  | cover relative result =>
    .object [("kind", .string "occlusion"), ("result", .string result.name),
      ("relative", .bool relative)]

end Value

def jsonOfValues (values : List (Value α)) : Json := .array (values.map Value.toJson)

def Condition.toJson (c : Condition α) : Json :=
  let query : List (String × Json) := match c.query with
    | .visible => [("query", .string "visible")]
    | .cover filter => [("query", .string "occlusion"), ("filter", .string filter.text)]
    | .parent => [("query", .string "parent")]
  .object (query ++ [("type", .string c.relation.name),
    ("value", jsonOfOption Value.toJson c.value)])

namespace Operation

mutual

def toJson : Operation α → Json
  | component kind parameters symbols =>
    .object [("function", .string "component"), ("type", .string kind.name),
      ("parameters", jsonOfValues parameters), ("symbols", jsonOfStrings symbols)]
  | tile axes values symbols =>
    .object [("function", .string "repeat"), ("axes", .array (axes.map .bool)),
      ("values", jsonOfValues values), ("symbols", jsonOfStrings symbols)]
  | subdivide axis values items =>
    .object [("function", .string "subdivide"), ("axis", .string (axisName axis)),
      ("values", jsonOfValues values), ("items", .array (slotsToJson items))]
  | move values => .object [("function", .string "move_scope"), ("values", jsonOfValues values)]
  | resize values => .object [("function", .string "scale_scope"), ("values", jsonOfValues values)]
  | turn x y z =>
    .object [("function", .string "rotate_shape"), ("x", jsonOfOption Value.toJson x),
      ("y", jsonOfOption Value.toJson y), ("z", jsonOfOption Value.toJson z)]
  | save => .object [("function", .string "save_scope")]
  | restore => .object [("function", .string "restore_scope")]
  | roof kind angle output =>
    .object [("function", .string "roof"), ("type", .string kind.name), ("angle", angle.toJson),
      ("output", .string output)]
  | model name => .object [("function", .string "spawn_model"), ("model", .string name)]

def allToJson : List (Operation α) → List Json
  | [] => []
  | f :: rest => f.toJson :: allToJson rest

def itemToJson : Item (Operation α) → Json
  | ⟨operations, output⟩ =>
    .object [("functions", .array (allToJson operations)), ("output", jsonOfOption .string output)]

def slotsToJson : List (Option (Item (Operation α))) → List Json
  | [] => []
  | none :: rest => .null :: slotsToJson rest
  | some item :: rest => itemToJson item :: slotsToJson rest

end

end Operation

def Shape.toJson (s : Shape α) : Json :=
  .object [("symbol", jsonOfOption .string s.symbol),
    ("scope", .object [("position", jsonOfVec3 s.scope.position),
      ("size", jsonOfVec3 s.scope.size)]),
    ("rotation", jsonOfVec3 s.rotation)]

def Action.toJson (a : Action α) : Json :=
  .object [("probability", jsonOfScalar a.probability),
    ("items", .array (a.items.map Operation.itemToJson))]

def Rule.toJson (r : Rule α) : Json :=
  .object [("symbol", .string r.symbol), ("conditions", .array (r.conditions.map (·.toJson))),
    ("actions", .array (r.actions.map (·.toJson)))]

def RuleSet.toJson (r : RuleSet α) : Json :=
  .object [("name", .string r.name), ("axiom", jsonOfOption Shape.toJson r.start),
    ("priorities", .array (r.levels.map fun rules =>
      .object [("rules", .array (rules.map (·.toJson)))]))]

/-! ## Reading -/

def case? {β : Type} (ofName? : String → Option β) (j : Json) : Option β := do
  ofName? (← j.caseName?)

namespace Value

def caseNames : List String := ["number", "operation", "random", "scope", "occlusion"]

/-- The value of a form that is nested at most `levels` deep. -/
def ofJson? : Nat → Json → Option (Value α)
  | 0, _ => none
  | levels + 1, j => do
    let ms ← j.members?
    let relative ← orDefault? "relative" false bool? ms
    match ← required? "kind" (tag? caseNames) ms with
    | "number" => return number relative (← required? "value" scalar? ms)
    | "operation" =>
      return operation relative (← required? "operator" (case? Operator.ofName?) ms)
        (← required? "lhs" (ofJson? levels) ms) (← required? "rhs" (ofJson? levels) ms)
    | "random" =>
      return random relative (← required? "min" (ofJson? levels) ms)
        (← required? "max" (ofJson? levels) ms)
    | "scope" =>
      return scope relative (← required? "property" (case? ScopeProperty.ofName?) ms)
        (← required? "axis" (case? axisOfName?) ms)
    | "occlusion" => return cover relative (← required? "result" (case? Cover.ofName?) ms)
    | _ => none

def decode? (levels : Nat) (j : Json) : Option (Value α) :=
  if j.isUsable levels then ofJson? levels j else none

end Value

def Query.ofMembers? (ms : List (String × Json)) : Option Query := do
  match ← required? "query" (tag? ["visible", "occlusion", "parent"]) ms with
  | "visible" => return .visible
  | "occlusion" => return .cover (.ofText (← required? "filter" string? ms))
  | "parent" => return .parent
  | _ => none

def Condition.decode? (levels : Nat) (j : Json) : Option (Condition α) :=
  if j.isUsable levels then do
    let ms ← j.members?
    return ⟨← Query.ofMembers? ms, ← required? "type" (case? Relation.ofName?) ms,
      ← optional? "value" (Value.ofJson? (levels - 1)) ms⟩
  else none

namespace Operation

def caseNames : List String :=
  ["component", "repeat", "subdivide", "move_scope", "scale_scope", "rotate_shape", "save_scope",
    "restore_scope", "roof", "spawn_model"]

mutual

/-- The operation of a form that is nested at most `levels` deep. -/
def ofJson? : Nat → Json → Option (Operation α)
  | 0, _ => none
  | levels + 1, j => do
    let ms ← j.members?
    let values := list? (Value.ofJson? (levels - 1))
    match ← required? "function" (tag? caseNames) ms with
    | "component" =>
      return component (← required? "type" (case? ComponentKind.ofName?) ms)
        (← orDefault? "parameters" [] values ms) (← required? "symbols" (list? string?) ms)
    | "repeat" =>
      return tile (← required? "axes" (list? bool?) ms) (← required? "values" values ms)
        (← required? "symbols" (list? string?) ms)
    | "subdivide" =>
      return subdivide (← required? "axis" (case? axisOfName?) ms)
        (← required? "values" values ms)
        (← required? "items" (list? (orNull? (itemOfJson? levels))) ms)
    | "move_scope" => return move (← required? "values" values ms)
    | "scale_scope" => return resize (← required? "values" values ms)
    | "rotate_shape" =>
      let angle := Value.ofJson? levels
      return turn (← optional? "x" angle ms) (← optional? "y" angle ms) (← optional? "z" angle ms)
    | "save_scope" => return save
    | "restore_scope" => return restore
    | "roof" =>
      return roof (← required? "type" (case? RoofKind.ofName?) ms)
        (← required? "angle" (Value.ofJson? levels) ms) (← required? "output" string? ms)
    | "spawn_model" => return model (← required? "model" string? ms)
    | _ => none

/-- The item of a form that is nested, with the list around it, at most `levels` deep. -/
def itemOfJson? : Nat → Json → Option (Item (Operation α))
  | 0, _ => none
  | levels + 1, j => do
    let ms ← j.members?
    return ⟨← orDefault? "functions" [] (list? (ofJson? levels)) ms,
      ← optional? "output" string? ms⟩

end

/-- The operation of a form. Its case is read before the record is taken in, and has to be named. -/
def decode? (levels : Nat) (j : Json) : Option (Operation α) :=
  if j.isUsable levels then do
    let _ ← required? "function" string? (← j.members?)
    ofJson? levels j
  else none

end Operation

def Item.decode? (levels : Nat) (j : Json) : Option (Item (Operation α)) := do
  let ms ← j.members?
  return ⟨← orDefault? "functions" [] (list? (Operation.decode? (levels - 2))) ms,
    ← optional? "output" string? ms⟩

def Scope.decode? (j : Json) : Option (Scope α) := do
  let ms ← j.members?
  return ⟨← required? "position" vec3? ms, ← required? "size" vec3? ms⟩

def Shape.decode? [Scalar α] (j : Json) : Option (Shape α) := do
  let ms ← j.members?
  let symbol ← optional? "symbol" string? ms
  let scope ← orDefault? "scope" 0 Scope.decode? ms
  let rotation ← orDefault? "rotation" 0 vec3? ms
  return .ofBox symbol ⟨scope, rotation⟩

def Action.decode? (levels : Nat) (j : Json) : Option (Action α) := do
  let ms ← j.members?
  return ⟨← required? "probability" scalar? ms,
    ← required? "items" (list? (Item.decode? (levels - 2))) ms⟩

def Rule.decode? (levels : Nat) (j : Json) : Option (Rule α) := do
  let ms ← j.members?
  return ⟨← required? "symbol" string? ms,
    ← orDefault? "conditions" [] (list? (Condition.decode? (levels - 2))) ms,
    ← orDefault? "actions" [] (list? (Action.decode? (levels - 2))) ms⟩

/-- The rules of a level of priority. -/
def levelOfJson? (levels : Nat) (j : Json) : Option (List (Rule α)) := do
  required? "rules" (list? (Rule.decode? (levels - 2))) (← j.members?)

namespace RuleSet

def ofJson? [Scalar α] (j : Json) : Option (RuleSet α) := do
  let ms ← j.members?
  return ⟨← required? "name" string? ms, ← optional? "axiom" Shape.decode? ms,
    ← required? "priorities" (list? (levelOfJson? (nestingLimit - 2))) ms⟩

def ofText? [Scalar α] (text : String) : Option (RuleSet α) := do
  ofJson? (← Json.ofText? text)

end RuleSet

end Cityscape.Grammar
