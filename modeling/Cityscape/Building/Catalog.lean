import Cityscape.Building

/-!
# The catalog of building grammars

Three rule sets that every city knows. Each starts from a flat lot, raises it to a mass and details
its facades. Model names stand for whatever meshes a consumer maps them to.

## Main definitions

* `Catalog.residentialHouse`, `Catalog.apartmentBlock`, `Catalog.officeTower` — the rule sets.
* `Catalog.all` — all of them, the densest first.
* `Workshop.withCatalog` — a workshop that knows them.
-/

namespace Cityscape

open Grammar

namespace Catalog

variable {α : Type} [Scalar α]

def residentialHouseName : String := "residential_house"

def apartmentBlockName : String := "apartment_block"

def officeTowerName : String := "office_tower"

/-! ## Parts of rules -/

/-- The lot that every derivation begins with; its size is that of the lot to build on. -/
def lot : Shape α := .ofBox (some "Lot") ⟨0, 0⟩

def number (a : α) : Value α := .number false a

/-- A share, or a factor. -/
def fraction (a : α) : Value α := .number true a

def random (low high : α) : Value α := .random false (number low) (number high)

/-- The size of the scope along an axis. -/
def extent (axis : Axis) : Value α := .scope false .size axis

/-- An item of operations only. -/
def operations (fs : List (Operation α)) : Item (Operation α) := ⟨fs, none⟩

/-- The rule that places a model at every shape of a symbol. -/
def model (symbol name : String) : Rule α := .always symbol [operations [.model name]]

/-- The rule that raises the lot to a mass. -/
def extrude (height : Value α) : Rule α :=
  .always "Lot" [⟨[.resize [fraction 1, height, fraction 1]], some "Mass"⟩]

/-- Breaks a mass into four sides, a bottom and a top. -/
def faces (side bottom top : String) : Operation α :=
  .component .faces [number 4.0, number 1, number 1] [side, bottom, top]

/-- Tiles along one axis. -/
def tileAlong (axis : Axis) (spacing : α) (symbol : String) : Operation α :=
  .tile (Axis.all.map (· == axis)) [number spacing] [symbol]

/-- A wall, an opening in the middle and a wall. -/
def bay (opening : α) (middle : String) : Operation α :=
  .subdivide .x [fraction 1, number opening, fraction 1]
    [some (.put "Wall"), some (.put middle), some (.put "Wall")]

/-- Holds for shapes that are seen from the street. -/
def visible : Condition α := ⟨.visible, .isTrue, none⟩

/-- The rule for the facade on the street: a ground floor, and storeys above it. -/
def streetFacade (ground storey : α) (groundSymbol : String) : Rule α where
  symbol := "Facade"
  conditions := [visible]
  actions := [⟨1, [operations [.subdivide .y [number ground, fraction 1]
    [some (.put groundSymbol), some (operations [tileAlong .y storey "Storey"])]]]⟩]

def storeys (height : α) : Rule α :=
  .always "Facade" [operations [tileAlong .y height "Storey"]]

/-! ## The rule sets -/

/-- A house with a door to the street and a hipped roof. -/
def residentialHouse : RuleSet α where
  name := residentialHouseName
  start := some lot
  levels := [
    [extrude (random 4.0 7.0),
      .always "Mass" [operations [faces "Facade" "Floor" "Ceiling"],
        operations [.move [number 0, extent .y, number 0],
          .roof .hipped (random 25.0 40.0) "Roof"]],
      streetFacade 3.0 3.0 "Entrance",
      .always "Entrance" [operations [bay 1.2 "Door"]],
      .always "Storey" [operations [tileAlong .x 2.5 "Window"]]],
    [storeys 3.0, model "Window" "window", model "Wall" "wall", model "Door" "door",
      model "Roof" "hipped_roof", model "Floor" "slab"]]

/-- Holds for shapes that nothing but their ancestors covers. -/
def clear : Condition α := ⟨.cover .noParent, .equal, some (.cover false .none)⟩

/-- A block of flats over a shop. -/
def apartmentBlock : RuleSet α where
  name := apartmentBlockName
  start := some lot
  levels := [
    [extrude (random 10.0 18.0),
      .always "Mass" [operations [faces "Facade" "Floor" "Roof"]],
      streetFacade 4.0 3.0 "Shopfront",
      .always "Storey" [operations [tileAlong .x 3.0 "Bay"]],
      { (Rule.always "Bay" [operations [bay 1.4 "Window"]] : Rule α) with conditions := [clear] }],
    [storeys 3.0, model "Bay" "wall", model "Shopfront" "shopfront", model "Window" "window",
      model "Wall" "wall", model "Roof" "flat_roof", model "Floor" "slab"]]

/-- How far the upper shaft of a tower is set back along an axis. -/
def inset (axis : Axis) : Value α := .operation false .multiply (extent axis) (number 0.15)

/-- A glazed tower, which may be set back near its top. -/
def officeTower : RuleSet α where
  name := officeTowerName
  start := some lot
  levels := [
    [extrude (random 30.0 60.0),
      ⟨"Mass", [],
        [⟨0.6, [operations [.subdivide .y [fraction 0.75, fraction 0.25]
          [some (.put "Shaft"),
            some ⟨[.move [inset .x, number 0, inset .z],
              .resize [fraction 0.7, fraction 1, fraction 0.7]], some "Shaft"⟩]]]⟩,
          ⟨0.4, [.put "Shaft"]⟩]⟩,
      .always "Shaft" [operations [faces "Curtain" "Floor" "Roof"]],
      .always "Curtain" [operations [tileAlong .y 4.0 "Level"]],
      .always "Level" [operations [tileAlong .x 2.0 "Panel"]],
      model "Panel" "glass", model "Roof" "flat_roof", model "Floor" "slab"]]

/-- All rule sets, the densest first. -/
def all : List (RuleSet α) := [officeTower, apartmentBlock, residentialHouse]

end Catalog

/-- A workshop that knows the catalog, at the start of a seed's random stream. -/
def Workshop.withCatalog {α : Type} [Scalar α] (seed : UInt64) : Workshop α :=
  Catalog.all.foldl Workshop.register (.ofSeed seed)

end Cityscape
