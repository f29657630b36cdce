import Cityscape.City.Settings
import Cityscape.Growth

/-!
# Notices

What is reported while a city is made.

## Main definitions

* `Notice` — the events that are reported.
* `Notice.level`, `Notice.message` — how grave an event is, and what is said about it.
-/

namespace Cityscape

/-- How grave an event is. -/
inductive Level
  | info
  /-- Something was asked for too early and is left out. -/
  | warning
  | error
  deriving DecidableEq, Repr

def Level.name : Level → String
  | info => "INFO"
  | warning => "WARN"
  | error => "ERROR"

/-- The size of a road network. -/
structure NetworkCounts where
  crossroads : Nat
  roads : Nat
  highways : Nat
  deriving DecidableEq, Repr

def RoadNetwork.size {α : Type} (n : RoadNetwork α) : NetworkCounts :=
  ⟨n.crossroadCount, n.roadCount, n.highwayCount⟩

/-- What a size is called in messages. -/
def NetworkCounts.message (n : NetworkCounts) : String :=
  toString n.crossroads ++ " crossroads, " ++ toString n.roads ++ " roads (" ++
    toString n.highways ++ " highways)"

/-- An event that is reported. -/
inductive Notice (α : Type)
  | ruleSetRead (name : String)
  | settingsRefused (error : SettingsError)
  | landBegins (width height seed : Nat)
  | noCentre
  | centreFound (centre : Vec2 α)
  | roadsWithoutLand
  | roadsBegin
  | roadsDone (size : NetworkCounts) (stats : GrowthStats)
  | buildingsWithoutLand
  | buildingsBegin (roads : Nat)
  | buildingsDerived (ruleSet : String) (count : Nat)
  | buildingsDone (count : Nat)
  | buildingsRefused (error : Grammar.GrammarError α)
  | cityDone (size : NetworkCounts) (buildings parts : Nat)

namespace Notice

variable {α : Type}

def level : Notice α → Level
  | settingsRefused _ | noCentre | buildingsRefused _ => .error
  | roadsWithoutLand | buildingsWithoutLand => .warning
  | _ => .info

/-- What is said about an event; `text` writes a number. -/
def message (text : α → String) : Notice α → String
  | ruleSetRead name => "Loaded rule set `" ++ name ++ "`"
  | settingsRefused error => error.message
  | landBegins width height seed =>
    "Generating terrain: " ++ toString width ++ "x" ++ toString height ++ " cells, seed " ++
      toString seed
  | noCentre => "No suitable city centre found; try another seed"
  | centreFound centre => "City centre at [" ++ text centre.x ++ ", " ++ text centre.y ++ "]"
  | roadsWithoutLand => "Road generation requested before city inputs were loaded"
  | roadsBegin => "Generating road network..."
  | roadsDone size stats =>
    "Road generation complete: " ++ size.message ++ " after " ++ toString stats.iterations ++
      " iterations, " ++ toString stats.merged ++ " merged, " ++ toString stats.failed ++ " failed"
  | buildingsWithoutLand => "Building placement requested before city inputs were loaded"
  | buildingsBegin roads => "Placing buildings along " ++ toString roads ++ " roads"
  | buildingsDerived ruleSet count =>
    "Rule set `" ++ ruleSet ++ "`: " ++ toString count ++ " unique models"
  | buildingsDone count => "Placed " ++ toString count ++ " buildings"
  | buildingsRefused error => "Building placement failed: " ++ error.message text
  | cityDone size buildings parts =>
    "City complete: " ++ size.message ++ ", " ++ toString buildings ++ " buildings, " ++
      toString parts ++ " model parts"

end Notice

end Cityscape
