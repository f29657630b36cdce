import Cityscape.City
import Cityscape.Grammar.Decode
import Cityscape.Growth.Settings
import Cityscape.Lots.Settings

/-!
# City settings

The settings of all generators in one JSON file. Missing members take their defaults. The file may
name rule set files next to it. Files are looked up by a function, so that the same rules hold
wherever the files are kept.

## Main definitions

* `CitySettings` — the settings of the land, the roads and the lots, and the rule set files.
* `CitySettings.decode?` — the settings of a JSON value.
* `CitySettings.load`, `CitySettings.loadRuleSets` — settings and rule sets from files.
* `CitySettings.reseed` — one seed for every generator.
-/

namespace Cityscape

open Json Grammar

/-- Why settings cannot be read. -/
inductive SettingsError
  | unreadable (path : String)
  | malformed (path : String)
  deriving DecidableEq, Repr

def SettingsError.message : SettingsError → String
  | unreadable path => "failed to read " ++ path
  | malformed path => "invalid JSON: " ++ path

/-! ## Sections -/

def WorldSettings.decode? (j : Json) : Option WorldSettings := do
  let ms ← j.members?
  let d := standard
  let half := nat? halfWordLimit
  let size? : Json → Option (Nat × Nat)
    | .array [w, h] => do return (← half w, ← half h)
    | _ => none
  let (width, height) ← orDefault? "size" (d.width, d.height) size? ms
  return {
    width
    height
    radius := ← orDefault? "city_radius" d.radius scalar? ms
    seed := (← orDefault? "seed" d.seed.toNat half ms).toUInt32
    noiseScale := ← orDefault? "noise_scale" d.noiseScale scalar? ms
    octaves := ← orDefault? "octaves" d.octaves half ms
    heightExponent := ← orDefault? "height_exponent" d.heightExponent scalar? ms
    waterLevel := ← orDefault? "water_level" d.waterLevel scalar? ms
    centreRadius := ← orDefault? "centre_radius" d.centreRadius (nat? wordLimit) ms
    centreSlope := ← orDefault? "centre_slope_threshold" d.centreSlope scalar? ms
    centreWater := ← orDefault? "centre_water_ratio" d.centreWater scalar? ms
    centreArea := ← orDefault? "centre_search_area" d.centreArea scalar? ms
    centreAttempts := ← orDefault? "centre_attempts" d.centreAttempts (nat? wordLimit) ms
    populationScale := ← orDefault? "population_noise_scale" d.populationScale scalar? ms }

section

variable {α : Type} [Scalar α] [OfNumeral α]

def GrowthSettings.decode? (j : Json) : Option (GrowthSettings α) := do
  let ms ← j.members?
  let d : GrowthSettings α := standard
  return {
    roadLength := ← orDefault? "road_length" d.roadLength scalar? ms
    pruning := ← orDefault? "water_pruning_factor" d.pruning scalar? ms
    largestTurn := ← orDefault? "maximal_angle_to_fix" d.largestTurn (nat? halfWordLimit) ms
    reach := ← orDefault? "neighborhood_factor" d.reach scalar? ms
    delay := ← orDefault? "default_delay" d.delay (int? 0x7fffffff) ms
    highwayChance := ← orDefault? "probability_to_branch_highway" d.highwayChance scalar? ms
    highwayDensity := ← orDefault? "highway_pop_density_limit" d.highwayDensity scalar? ms
    bywayDensity := ← orDefault? "byway_pop_density_limit" d.bywayDensity scalar? ms
    highwayThickness := ← orDefault? "highway_thickness" d.highwayThickness scalar? ms
    bywayThickness := ← orDefault? "byway_thickness" d.bywayThickness scalar? ms
    rounds := ← orDefault? "iteration_limit" d.rounds (nat? halfWordLimit) ms
    continueAfterMerge := ← orDefault? "continue_after_merge" d.continueAfterMerge bool? ms
    rule := ← orDefault? "rule" d.rule (case? RoadRule.ofName?) ms
    capacity := ← orDefault? "quadtree_capacity" d.capacity (nat? wordLimit) ms
    seed := (← orDefault? "seed" d.seed.toNat (nat? wordLimit) ms).toUInt64 }

def LotSpec.decode? (j : Json) : Option (LotSpec α) := do
  let ms ← j.members?
  return ⟨← required? "rule_set" string? ms, ← required? "lot" vec2? ms⟩

def LotSettings.decode? (j : Json) : Option (LotSettings α) := do
  let ms ← j.members?
  let d : LotSettings α := standard
  return {
    models := ← orDefault? "models" d.models (list? LotSpec.decode?) ms
    thresholds := ← orDefault? "density_thresholds" d.thresholds (list? scalar?) ms
    spacing := ← orDefault? "building_spacing" d.spacing scalar? ms
    highwayAdvantage := ← orDefault? "highway_advantage" d.highwayAdvantage scalar? ms
    maxIncrease := ← orDefault? "max_increase" d.maxIncrease scalar? ms
    highwayClearance := ← orDefault? "highway_clearance" d.highwayClearance scalar? ms
    bywayClearance := ← orDefault? "byway_clearance" d.bywayClearance scalar? ms
    cacheSize := ← orDefault? "cache_size" d.cacheSize (nat? wordLimit) ms
    scale := ← orDefault? "models_scaling_factor" d.scale scalar? ms
    capacity := ← orDefault? "quadtree_capacity" d.capacity (nat? wordLimit) ms
    seed := (← orDefault? "seed" d.seed.toNat (nat? wordLimit) ms).toUInt64 }

end

/-! ## The whole -/

/-- The settings of all generators. -/
structure CitySettings where
  world : WorldSettings
  roads : GrowthSettings Float32
  lots : LotSettings Float32
  /-- The rule set files, seen from the directory of the settings. -/
  ruleSets : List String
  directory : Option String

namespace CitySettings

def standard : CitySettings := ⟨.standard, .standard, .standard, [], none⟩

/-- The settings of a JSON value. -/
def decode? (j : Json) : Option CitySettings := do
  let ms ← j.members?
  return {
    world := ← orDefault? "world" .standard WorldSettings.decode? ms
    roads := ← orDefault? "roads" .standard GrowthSettings.decode? ms
    lots := ← orDefault? "buildings" .standard LotSettings.decode? ms
    ruleSets := ← orDefault? "rule_sets" [] (list? string?) ms
    directory := none }

/-- Uses one seed for every generator; the land takes its lower half. -/
def reseed (c : CitySettings) (seed : UInt64) : CitySettings :=
  { c with
    world := { c.world with seed := seed.toUInt32 }
    roads := { c.roads with seed }
    lots := { c.lots with seed } }

/-! ## Paths -/

/-- The characters of a path up to and without its last separator, given in reverse after it. -/
def beforeSeparator : List Char → Option (List Char)
  | [] => none
  | '/' :: rest => some rest.reverse
  | _ :: rest => beforeSeparator rest

/-- The directory of a path: empty for a file name alone. -/
def parent (path : String) : String :=
  match beforeSeparator path.toList.reverse with
  | none => ""
  | some [] => "/"
  | some dir => String.ofList dir

/-- A path seen from a directory; one that starts at the root stays as it is. -/
def resolve (directory : Option String) (path : String) : String :=
  match directory with
  | none => path
  | some dir =>
    if path.startsWith "/" ∨ dir = "" then path
    else if dir.endsWith "/" then dir ++ path
    else dir ++ "/" ++ path

/-! ## Files -/

variable {m : Type → Type} [Monad m]

/-- The settings in a file; `read` gives the text of a file that can be read. -/
def load (read : String → m (Option String)) (path : String) :
    m (Except SettingsError CitySettings) := do
  match ← read path with
  | none => return .error (.unreadable path)
  | some text =>
    match Json.ofText? text >>= decode? with
    | none => return .error (.malformed path)
    | some c => return .ok { c with directory := some (parent path) }

/-- The rule sets in files, up to the first that cannot be read. -/
def loadFiles (read : String → m (Option String)) (directory : Option String) :
    List String → m (Except SettingsError (List (RuleSet Float32)))
  | [] => return .ok []
  | path :: rest => do
    let path := resolve directory path
    match ← read path with
    | none => return .error (.unreadable path)
    | some text =>
      match RuleSet.ofText? text with
      | none => return .error (.malformed path)
      | some r =>
        match ← loadFiles read directory rest with
        | .error e => return .error e
        | .ok rs => return .ok (r :: rs)

def loadRuleSets (c : CitySettings) (read : String → m (Option String)) :
    m (Except SettingsError (List (RuleSet Float32))) :=
  loadFiles read c.directory c.ruleSets

end CitySettings

end Cityscape
