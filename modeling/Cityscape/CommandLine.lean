import Cityscape.Construction
import Cityscape.Shortest

/-!
# Command line

Making a whole city as a program. The words of the command line choose a settings file and replace
some of its settings; then the land, the roads and the buildings are made, and every step is
reported. The files and the reports are reached through functions, so the program can be run
anywhere.

## Main definitions

* `Options.ofWords` — what the words of a command line ask for.
* `Options.apply` — settings with what the options replace.
* `Host` — the files and the reports.
* `CommandLine.run` — the program; it gives the exit code.
-/

namespace Cityscape

/-- What can be asked for on the command line. -/
structure Options where
  settings : Option String
  /-- The seed of every generator. -/
  seed : Option UInt64
  /-- The number of cells along each side of the map. -/
  size : Option Nat
  rounds : Option Nat

namespace Options

/-- The word after the first occurrence of a flag. -/
def valueOf (flag : String) : List String → Option String
  | [] => none
  | word :: rest => if word = flag then rest.head? else valueOf flag rest

/-- The number of decimal digits, at least one, up to a limit. -/
def digitsToNat? (limit : Nat) (digits : List Char) : Option Nat :=
  if digits.isEmpty ∨ ¬ digits.all Char.isDigit then none
  else
    let n := digits.foldl (fun n c => n * 10 + (c.toNat - '0'.toNat)) 0
    if n ≤ limit then some n else none

/-- The number that a word stands for; a plus sign may stand in front. -/
def nat? (limit : Nat) (word : String) : Option Nat :=
  match word.toList with
  | '+' :: digits => digitsToNat? limit digits
  | digits => digitsToNat? limit digits

/-- What the words of a command line ask for. A word that is not what its flag needs is passed
over. -/
def ofWords (words : List String) : Options where
  settings := valueOf "--config" words
  seed := (valueOf "--seed" words >>= nat? wordLimit).map Nat.toUInt64
  size := valueOf "--size" words >>= nat? halfWordLimit
  rounds := valueOf "--iterations" words >>= nat? halfWordLimit

/-- Settings with what the options replace. -/
def apply (o : Options) (c : CitySettings) : CitySettings :=
  let c := match o.seed with
    | some seed => c.reseed seed
    | none => c
  let c := match o.size with
    | some size => { c with world := { c.world with width := size, height := size } }
    | none => c
  match o.rounds with
  | some rounds => { c with roads := { c.roads with rounds } }
  | none => c

end Options

/-- What the program runs in. -/
structure Host (m : Type → Type) where
  /-- The text of a file, if it can be read. -/
  read : String → m (Option String)
  report : Notice Float32 → m Unit
  complain : String → m Unit

namespace CommandLine

def success : UInt32 := 0

/-- The exit code of a run that could not go on. -/
def failure : UInt32 := 1

/-- The exit code of a run that met a fault. -/
def faulty : UInt32 := 101

variable {m : Type → Type} [Monad m]

/-- Makes a city with a workshop. One update answers the request for roads and places the
buildings. -/
def makeCity (host : Host m) (settings : CitySettings) (workshop : Workshop Float32) :
    m UInt32 := do
  let world := settings.world
  host.report (.landBegins world.width world.height world.seed.toNat)
  match CitySite.generate world with
  | .error _ => return faulty
  | .ok none =>
    host.report .noCentre
    return failure
  | .ok (some site) =>
    host.report (.centreFound site.centre)
    let start := Construction.start (some site) settings.roads settings.lots workshop
    let progress := (start.request none).update true
    progress.notices.forM host.report
    match progress.result with
    | .error _ => return faulty
    | .ok c =>
      host.report (.cityDone c.network.size c.buildings.size c.partCount)
      return success

/-- Adds rule sets to a workshop and reports each. -/
def registerAll (host : Host m) :
    List (Grammar.RuleSet Float32) → Workshop Float32 → m (Workshop Float32)
  | [], w => return w
  | r :: rest, w => do
    host.report (.ruleSetRead r.name)
    registerAll host rest (w.register r)

/-- Makes a city with the catalog and the rule sets that the settings name. -/
def runWith (host : Host m) (settings : CitySettings) : m UInt32 := do
  match ← settings.loadRuleSets host.read with
  | .error error =>
    host.report (.settingsRefused error)
    return failure
  | .ok ruleSets =>
    makeCity host settings (← registerAll host ruleSets (.withCatalog settings.lots.seed))

def run (host : Host m) (words : List String) : m UInt32 := do
  let options := Options.ofWords words
  match options.settings with
  | none => runWith host (options.apply .standard)
  | some path =>
    match ← CitySettings.load host.read path with
    | .error error =>
      host.complain error.message
      return failure
    | .ok settings => runWith host (options.apply settings)

end CommandLine

end Cityscape
