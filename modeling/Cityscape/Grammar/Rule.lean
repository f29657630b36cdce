import Cityscape.Grammar.Condition
import Cityscape.Grammar.Operation

/-!
# Rules and rule sets

A rule rewrites the shapes of its symbol for which its conditions hold, by one of its actions, which
is drawn by probability. A rule set holds rules in levels of priority; a shape is rewritten by the
first rule that matches. A derivation begins with one shape and evaluates every shape that comes up,
in the order in which they do.

## Main definitions

* `Action`, `Rule`, `RuleSet` — the rules.
* `Rule.matchShape`, `Rule.select`, `Rule.apply` — a rule against a shape.
* `RuleSet.rewrite` — the first rule that matches a shape.
* `RuleSet.derive` — a whole derivation.
-/

namespace Cityscape.Grammar

/-- Items that are run together with some probability. -/
structure Action (α : Type) where
  probability : α
  items : List (Item (Operation α))

/-- A rewriting rule. -/
structure Rule (α : Type) where
  /-- The symbol of the shapes it rewrites. -/
  symbol : String
  conditions : List (Condition α)
  /-- The actions of which one is drawn. -/
  actions : List (Action α)

/-- Rules in levels of priority. -/
structure RuleSet (α : Type) where
  name : String
  /-- The shape that derivations begin with. -/
  start : Option (Shape α)
  /-- The rules, level by level, the highest priority first. -/
  levels : List (List (Rule α))

variable {α : Type} [Scalar α] [Trigonometry α]

/-! ## Actions -/

namespace Action

def runItems : List (Item (Operation α)) → Derivation α → Shape α → Effect α
  | [], d, target => .done d target
  | item :: rest, d, target => (item.run d target).andThen fun d target => runItems rest d target

def run (action : Action α) : Derivation α → Shape α → Effect α := runItems action.items

end Action

/-! ## Rules -/

namespace Rule

/-- Evaluates conditions until one does not hold, and gives the random stream after them. -/
def checkAll (d : Derivation α) (target : Shape α) :
    List (Condition α) → RandomStream → Except (Stop (GrammarError α)) Bool × RandomStream
  | [], s => (.ok true, s)
  | c :: rest, s =>
    match c.evaluate { d with stream := s } target with
    | (.ok true, s) => checkAll d target rest s
    | found => found

/-- Whether a rule applies to a target, and the random stream after its conditions. -/
def matchShape (r : Rule α) (d : Derivation α) (target : Shape α) :
    Except (Stop (GrammarError α)) Bool × RandomStream :=
  if target.hasSymbol r.symbol then checkAll d target r.conditions d.stream
  else (.ok false, d.stream)

omit [Trigonometry α] in
/-- How far the first bound lies above the first probability, so that a sum that comes out slightly
too small still reaches every draw. -/
def slack : α := 1 / 8388608.0

omit [Trigonometry α] in
/-- The first action whose bound exceeds the draw; a bound is the sum of the probabilities up to
it, and the draw must not lie below the bound before. -/
def selectFrom (u : α) : List (Action α) → α → α → Option (Action α)
  | [], _, _ => none
  | action :: rest, low, high =>
    let high := high + action.probability
    if low ≤ u ∧ u < high then some action else selectFrom u rest high high

omit [Trigonometry α] in
/-- The action that a draw between zero and one selects. -/
def select (r : Rule α) (u : α) : Option (Action α) := selectFrom u r.actions 0 slack

omit [Trigonometry α] in
def probabilitySum (r : Rule α) : α := Scalar.sum (r.actions.map (·.probability))

/-- Applies a rule to a target, whatever its symbol and conditions: one action is drawn and run. A
rule without conditions and actions does nothing. -/
def apply (r : Rule α) (d : Derivation α) (target : Shape α) : Effect α :=
  if r.conditions.isEmpty ∧ r.actions.isEmpty then .done d target
  else
    let sum := r.probabilitySum
    if sum ≤ 0 ∨ 1 + 1e-5 < sum then .refuse d target (.invalidProbability r.symbol sum)
    else
      let (u, stream) : α × RandomStream := d.stream.unit
      match r.select u with
      | some action => action.run { d with stream } target
      | none => .done { d with stream } target

/-- The rule that applies to every shape of a symbol and has one action, which is certain. -/
def always {α : Type} [Scalar α] (symbol : String) (items : List (Item (Operation α))) : Rule α :=
  ⟨symbol, [], [⟨1, items⟩]⟩

end Rule

/-! ## Rule sets -/

namespace RuleSet

/-- Applies the first rule of a list that matches the target, and says whether there was one. -/
def rewriteBy : List (Rule α) → Derivation α → Shape α → Bool × Effect α
  | [], d, target => (false, .done d target)
  | r :: rest, d, target =>
    match r.matchShape d target with
    | (.ok true, stream) => (true, r.apply { d with stream } target)
    | (.ok false, stream) => rewriteBy rest { d with stream } target
    | (.error stop, stream) => (false, ⟨{ d with stream }, target, some stop⟩)

/-- Applies the first rule that matches the target, level by level, and says whether there was
one. -/
def rewrite (rules : RuleSet α) (d : Derivation α) (target : Shape α) : Bool × Effect α :=
  rewriteBy rules.levels.flatten d target

/-- The greatest number of shapes evaluated in one derivation. -/
def evaluationLimit : Nat := 200000

/-- Evaluates at most `fuel` shapes of the queue, and says why evaluation stopped if it did before
the queue was empty. -/
def deriveQueue (rules : RuleSet α) :
    Nat → Derivation α → Derivation α × Option (Stop (GrammarError α))
  | 0, d => (d, some (.fault .endless))
  | fuel + 1, d =>
    match d.next? with
    | none => (d, none)
    | some (shape, d) =>
      if evaluationLimit < d.evaluations then
        (d, some (.refused (.evaluationLimit evaluationLimit)))
      else
        match rules.rewrite d shape with
        | (fired, ⟨d, shape, none⟩) =>
          deriveQueue rules fuel (d.finish shape (if fired then .evaluated else .terminal))
        | (_, ⟨d, _, some stop⟩) => (d, some stop)

/-- Derives everything that comes up from a shape. Evaluation never takes more shapes than the limit
and one, so the fuel is enough. -/
def derive (rules : RuleSet α) (d : Derivation α) (start : Shape α) :
    Derivation α × Option (Stop (GrammarError α)) :=
  deriveQueue rules (evaluationLimit + 2) (d.spawn start)

end RuleSet

end Cityscape.Grammar
