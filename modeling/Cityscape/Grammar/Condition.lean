import Cityscape.Grammar.Derivation

/-!
# Conditions

Guards of rules: a query about the target shape, compared with a value.

## Main definitions

* `ShapeFilter`, `firstCover` — the shapes that a cover query looks at, and its answer.
* `Query`, `Query.answer` — what can be asked about a shape.
* `Relation`, `Condition` — how the answer is judged.
* `Condition.evaluate` — whether a condition holds.
-/

namespace Cityscape.Grammar

/-! ## Cover queries -/

/-- The shapes of the history that a cover query looks at. -/
inductive ShapeFilter
  /-- Every other shape. -/
  | all
  /-- The shapes that the target does not descend from. -/
  | noParent
  | active
  | symbol (name : String)
  deriving DecidableEq, Repr

namespace ShapeFilter

/-- The text of a filter: a word of its own, or the symbol. -/
def text : ShapeFilter → String
  | all => "all"
  | noParent => "noparent"
  | active => "active"
  | symbol name => name

/-- The filter of a text. -/
def ofText : String → ShapeFilter
  | "all" => all
  | "noparent" => noParent
  | "active" => active
  | name => symbol name

variable {α : Type}

/-- Whether a filter lets a shape of the history pass. -/
def admits (d : Derivation α) (target other : Shape α) : ShapeFilter → Except Fault Bool
  | all => .ok true
  | noParent =>
    match other.id with
    | some id => (d.isLineage target id).map (!·)
    | none => .ok true
  | active => .ok (other.status = .active)
  | symbol name => .ok (other.hasSymbol name)

end ShapeFilter

section

variable {α : Type} [Scalar α]

/-- The first cover of the target, other than none, by the shapes of a list that pass the filter. -/
def coverBy (d : Derivation α) (target : Shape α) (filter : ShapeFilter) :
    List (Shape α) → Except Fault Cover
  | [] => .ok .none
  | other :: rest =>
    if other.id = target.id then coverBy d target filter rest
    else do
      if ← filter.admits d target other then
        match other.covers target with
        | .none => coverBy d target filter rest
        | cover => return cover
      else coverBy d target filter rest

/-- The cover of the target by the first shape of the history that passes the filter and covers
some of it. -/
def firstCover (d : Derivation α) (target : Shape α) (filter : ShapeFilter) : Except Fault Cover :=
  coverBy d target filter d.shapes.toList

end

/-! ## Queries -/

/-- What can be asked about a shape. -/
inductive Query
  /-- Whether it is flat, at depth zero and seen from the front. -/
  | visible
  /-- How much of it is covered. -/
  | cover (filter : ShapeFilter)
  /-- The number of its parent. -/
  | parent
  deriving DecidableEq, Repr

/-- The answer to a query. -/
inductive Answer (α : Type)
  | number (a : α)
  | bool (b : Bool)

section

variable {α : Type} [Scalar α] [Trigonometry α]

def Query.answer (d : Derivation α) (target : Shape α) :
    Query → Except Fault (Option (Answer α))
  | visible => .ok (some (.bool target.isVisible))
  | cover filter => do return some (.number (← firstCover d target filter).code)
  | parent => .ok (target.parent.map fun id => .number (Scalar.ofNat id))

end

/-! ## Conditions -/

/-- How an answer is judged. -/
inductive Relation
  | equal
  | notEqual
  | greaterThan
  | lessThan
  | greaterThanOrEqual
  | lessThanOrEqual
  | isTrue
  | isFalse
  | isEmpty
  | notEmpty
  deriving DecidableEq, Repr

/-- A guard of a rule. -/
structure Condition (α : Type) where
  query : Query
  relation : Relation
  /-- What the answer is compared with, if it is compared. -/
  value : Option (Value α)

namespace Condition

variable {α : Type} [Scalar α]

/-- Whether an answer is to be true or to be false. -/
def judgeTruth (expected : Bool) : Option (Answer α) → Except (Stop (GrammarError α)) Bool
  | some (.bool b) => .ok (b == expected)
  | _ => .error (.refused (.queryMismatch .boolean))

variable [Trigonometry α]

/-- Whether a numeric answer and the value of the condition compare as asked. -/
def judgeNumber (c : Condition α) (current : Scope α) (stream : RandomStream)
    (compare : α → α → Bool) :
    Option (Answer α) → Except (Stop (GrammarError α)) Bool × RandomStream
  | some (.number lhs) =>
    match c.value with
    | none => (.error (.refused .missingComparison), stream)
    | some value =>
      match value.compute current stream with
      | .error fault => (.error (.fault fault), stream)
      | .ok (rhs, stream) => (.ok (compare lhs rhs), stream)
  | _ => (.error (.refused (.queryMismatch .numeric)), stream)

/-- Whether a condition holds for the target, and the random stream after it. -/
def evaluate (c : Condition α) (d : Derivation α) (target : Shape α) :
    Except (Stop (GrammarError α)) Bool × RandomStream :=
  match c.query.answer d target with
  | .error fault => (.error (.fault fault), d.stream)
  | .ok answer =>
    match c.relation with
    | .isEmpty => (.ok answer.isNone, d.stream)
    | .notEmpty => (.ok answer.isSome, d.stream)
    | .isTrue => (judgeTruth true answer, d.stream)
    | .isFalse => (judgeTruth false answer, d.stream)
    | .equal => c.judgeNumber d.currentScope d.stream (· == ·) answer
    | .notEqual => c.judgeNumber d.currentScope d.stream (· != ·) answer
    | .greaterThan => c.judgeNumber d.currentScope d.stream (fun a b => decide (b < a)) answer
    | .lessThan => c.judgeNumber d.currentScope d.stream (fun a b => decide (a < b)) answer
    | .greaterThanOrEqual =>
      c.judgeNumber d.currentScope d.stream (fun a b => decide (b ≤ a)) answer
    | .lessThanOrEqual => c.judgeNumber d.currentScope d.stream (fun a b => decide (a ≤ b)) answer

end Condition

end Cityscape.Grammar
