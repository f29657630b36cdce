/-!
# Grammar errors

## Main definitions

* `ComponentKind`, `RoofKind` — kinds that errors mention.
* `GrammarError` — why a rule could not be applied.
* `GrammarError.message` — what an error says.
-/

namespace Cityscape.Grammar

/-- The components that a shape can be broken into. -/
inductive ComponentKind
  | faces
  | edges
  | vertices
  | face
  | edge
  | vertex
  | sideFaces
  | sideFace
  | sideEdges
  | topEdges
  | bottomEdges
  deriving DecidableEq, Repr

/-- What a kind of component is called in messages. -/
def ComponentKind.label : ComponentKind → String
  | faces => "Faces"
  | edges => "Edges"
  | vertices => "Vertices"
  | face => "Face"
  | edge => "Edge"
  | vertex => "Vertex"
  | sideFaces => "SideFaces"
  | sideFace => "SideFace"
  | sideEdges => "SideEdges"
  | topEdges => "TopEdges"
  | bottomEdges => "BottomEdges"

/-- The forms of a roof. -/
inductive RoofKind
  | gambrel
  | cone
  | gabled
  | hipped
  | crossGable
  | mansard
  deriving DecidableEq, Repr

def RoofKind.label : RoofKind → String
  | gambrel => "Gambrel"
  | cone => "Cone"
  | gabled => "Gabled"
  | hipped => "Hipped"
  | crossGable => "CrossGable"
  | mansard => "Mansard"

/-- The lists that have to have a certain length. -/
inductive Listing
  /-- The items of a subdivision. -/
  | subdivideSlots
  /-- The symbols of tiles. -/
  | repeatSymbols
  /-- The sizes of tiles. -/
  | repeatValues
  /-- The index of a single component. -/
  | componentIndex
  /-- The numbers of components that the symbols take. -/
  | componentCounts
  /-- The distances of a move. -/
  | moveValues
  /-- The sizes of a change of size. -/
  | scaleValues
  deriving DecidableEq, Repr

def Listing.label : Listing → String
  | subdivideSlots => "subdivide slots"
  | repeatSymbols => "repeat symbols"
  | repeatValues => "repeat values"
  | componentIndex => "component index parameters"
  | componentCounts => "component symbol counts"
  | moveValues => "move values"
  | scaleValues => "scale values"

/-- The kinds of answer that a condition may ask for. -/
inductive AnswerKind
  | boolean
  | numeric
  deriving DecidableEq, Repr

def AnswerKind.label : AnswerKind → String
  | boolean => "boolean"
  | numeric => "numeric"

/-- Why a rule could not be applied. -/
inductive GrammarError (α : Type)
  /-- The probabilities of a rule's actions do not sum to a number above zero and up to one. -/
  | invalidProbability (symbol : String) (sum : α)
  /-- An item neither does anything nor names a symbol. -/
  | emptyItem
  | lengthMismatch (what : Listing) (expected actual : Nat)
  /-- Tiles were asked for along no axis, or not for three axes. -/
  | invalidAxes
  | indexOutOfRange (component : ComponentKind) (index : Int) (count : Nat)
  /-- The components need a shape with depth. -/
  | flatShape (component : ComponentKind)
  /-- The symbols do not take as many components as there are. -/
  | groupCountMismatch (sum parts : Nat)
  | unsupportedRoof (kind : RoofKind)
  /-- The answer to a query is of another kind than the condition asks for. -/
  | queryMismatch (expected : AnswerKind)
  | missingComparison
  | emptyScopeStack
  | evaluationLimit (limit : Nat)
  | repeatLimit (limit : Nat)
  | missingStart (ruleSet : String)
  | unknownRuleSet (ruleSet : String)

/-- What an error says; `text` writes a number. -/
def GrammarError.message {α : Type} (text : α → String) : GrammarError α → String
  | invalidProbability symbol sum =>
    let sum := text sum
    "rule for `" ++ symbol ++ "` has action probabilities summing to " ++ sum ++
      ", expected a value in (0, 1]"
  | emptyItem => "action item has neither functions nor an output symbol"
  | lengthMismatch what expected actual =>
    what.label ++ ": expected " ++ toString expected ++ " entries, got " ++ toString actual
  | invalidAxes => "repeat needs three axis flags with at least one enabled"
  | indexOutOfRange component index count =>
    component.label ++ " index " ++ toString index ++ " is outside 1..=" ++ toString count
  | flatShape component => component.label ++ " needs a three-dimensional shape"
  | groupCountMismatch sum parts =>
    "symbol counts sum to " ++ toString sum ++ " but the split produced " ++ toString parts ++
      " parts"
  | unsupportedRoof kind => kind.label ++ " roofs are not supported"
  | queryMismatch expected => "condition expected a " ++ expected.label ++ " query result"
  | missingComparison => "condition needs a comparison value"
  | emptyScopeStack => "scope stack is empty"
  | evaluationLimit limit => "derivation exceeded " ++ toString limit ++ " shape evaluations"
  | repeatLimit limit => "repeat would spawn more than " ++ toString limit ++ " tiles"
  | missingStart name => "rule set `" ++ name ++ "` has no axiom"
  | unknownRuleSet name => "rule set `" ++ name ++ "` is not registered"

end Cityscape.Grammar
