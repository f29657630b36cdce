import Cityscape.Proofs.Building.Parts

/-!
# The outline of a house

## Main definitions

* `Catalog.HousePart` — the kinds of shapes of a house.
* `Catalog.HousePart.outline` — what they are rewritten by.
-/

namespace Cityscape.Catalog

open Grammar Grammar.RuleSet Single RandomStream

/-- The kinds of shapes that come up in a house. -/
inductive HousePart
  | lot
  | mass
  | front
  | side
  | entrance
  | storey
  | window
  | wall
  | door
  | roof
  | floor
  | ceiling

namespace HousePart

def symbol : HousePart → String
  | lot => "Lot"
  | mass => "Mass"
  | front | side => "Facade"
  | entrance => "Entrance"
  | storey => "Storey"
  | window => "Window"
  | wall => "Wall"
  | door => "Door"
  | roof => "Roof"
  | floor => "Floor"
  | ceiling => "Ceiling"

/-- What is known about the box of a shape. -/
def Fits [Trigonometry Float32] (s : Shape Float32) : HousePart → Prop
  | lot => Upright 0 0 s.box
  | mass => Upright 4.0 7.0 s.box
  | front => s.isVisible = true ∧ Upstanding 4.0 7.0 s.scope.size
  | side => s.isVisible = false ∧ Upstanding 4.0 7.0 s.scope.size
  | storey => Buildable s.scope.size.x
  | _ => True

/-- The shapes of a kind. -/
structure Is [Trigonometry Float32] (k : HousePart) (s : Shape Float32) : Prop where
  symbol : s.symbol = some k.symbol
  fits : k.Fits s

/-- What a shape of a kind is rewritten by. -/
inductive Produces : HousePart → List HousePart → List String → Prop
  | lot : Produces lot [mass] []
  | mass : Produces mass [front, side, side, side, floor, ceiling, roof] []
  | front {n : ℕ} (h : n ≤ 2) : Produces front (entrance :: List.replicate n storey) []
  | side {n : ℕ} (h : n ≤ 3) : Produces side (List.replicate n storey) []
  | entrance : Produces entrance [wall, door, wall] []
  | storey {n : ℕ} (h : n ≤ 400) : Produces storey (List.replicate n window) []
  | window : Produces window [] ["window"]
  | wall : Produces wall [] ["wall"]
  | door : Produces door [] ["door"]
  | roof : Produces roof [] ["hipped_roof"]
  | floor : Produces floor [] ["slab"]
  | ceiling : Produces ceiling [] []

/-- How many shapes come up from one of a kind at most, itself included. -/
def cost : HousePart → ℕ
  | lot => 4424
  | mass => 4423
  | front => 807
  | side => 1204
  | entrance => 4
  | storey => 401
  | _ => 1

/-- How many doors come up from a shape of a kind. -/
def doors : HousePart → ℕ
  | lot | mass | front | entrance | door => 1
  | _ => 0

/-- How many roofs come up from a shape of a kind. -/
def roofs : HousePart → ℕ
  | lot | mass | roof => 1
  | _ => 0

variable {k : HousePart} {kinds : List HousePart} {names : List String}

theorem Produces.cost_le (h : Produces k kinds names) : 1 + (kinds.map cost).sum ≤ cost k := by
  cases h <;> simp [HousePart.cost] <;> omega

theorem Produces.count_door (h : Produces k kinds names) :
    names.count "door" + (kinds.map doors).sum = doors k := by
  cases h <;> simp [doors]

theorem Produces.count_roof (h : Produces k kinds names) :
    names.count "hipped_roof" + (kinds.map roofs).sum = roofs k := by
  cases h <;> simp [roofs]

/-! ## Rewriting -/

variable [Trigonometry Float32] {s : Shape Float32} {d : Derivation Float32}

theorem rewrite_mass (hacc : Trigonometry.Accurate) (h : mass.Is s) (d : Derivation Float32) :
    (residentialHouse.rewrite d s).2.Yields Is [front, side, side, side, floor, ceiling, roof] []
      d := by
  have hfaces (d : Derivation Float32) : (Item.run (operations [faces "Facade" "Floor" "Ceiling"]) d
      s).Yields Is [front, side, side, side, floor, ceiling] [] d :=
    h.fits.faces_yields hacc (fun s hs hvisible hfits => ⟨hs, hvisible, hfits⟩)
      (fun s hs hhidden hfits => ⟨hs, hhidden, hfits⟩) (fun s hs => ⟨hs, trivial⟩)
      (fun s hs => ⟨hs, trivial⟩) d
  have hroof (d : Derivation Float32) (target : Shape Float32) :
      (Item.run (operations [.move [number 0, extent .y, number 0],
        .roof .hipped (random 25.0 40.0) "Roof"]) d target).Yields Is [roof] [] d :=
    hippedRoof_yields (fun s hs => ⟨hs, trivial⟩) (by decide +kernel) d target
  exact rewrite_yields h.symbol rfl <| rewriteBy_always_yields h.symbol fun d =>
    Action.runItems_cons_yields (hfaces d) fun d target =>
      Action.runItems_single_yields (hroof d target)

theorem exists_produces (hacc : Trigonometry.Accurate) {k : HousePart} (h : k.Is s) :
    ∃ kinds names, Produces k kinds names ∧
      (residentialHouse.rewrite d s).2.Yields Is kinds names d := by
  cases k with
  | lot =>
    exact ⟨_, _, .lot, rewrite_extrude_yields h.symbol rfl (by decide +kernel) h.fits
      (fun s hs hfits => ⟨hs, hfits⟩) d⟩
  | mass => exact ⟨_, _, .mass, rewrite_mass hacc h d⟩
  | front =>
    have htiles : TilesUpTo 2 3.0 1 4 := by decide +kernel
    obtain ⟨n, hn, hyields⟩ : ∃ n ≤ 2, ∀ d, (residentialHouse.rewrite d s).2.Yields Is
        (entrance :: List.replicate n storey) [] d :=
      exists_rewrite_front h.symbol rfl h.fits.1 h.fits.2.height (by decide +kernel)
        (by decide +kernel) htiles (fun s hs => ⟨hs, trivial⟩)
        (fun s hs hwidth => ⟨hs, by rw [Fits, hwidth]; exact h.fits.2.width⟩)
    exact ⟨_, _, .front hn, hyields d⟩
  | side =>
    obtain ⟨n, hn, hyields⟩ : ∃ n ≤ 3, ∀ d, (residentialHouse.rewrite d s).2.Yields Is
        (List.replicate n storey) [] d :=
      exists_rewrite_side h.symbol rfl h.fits.1 h.fits.2.height (by decide +kernel)
        (fun s hs hwidth => ⟨hs, by rw [Fits, hwidth]; exact h.fits.2.width⟩)
    exact ⟨_, _, .side hn, hyields d⟩
  | entrance =>
    have hbay (d : Derivation Float32) :
        ((bay 1.2 "Door").run d s).Yields Is [wall, door, wall] [] d :=
      bay_yields (fun s hs => ⟨hs, trivial⟩) (fun s hs => ⟨hs, trivial⟩) d s
    exact ⟨_, _, .entrance, rewrite_operation_yields h.symbol rfl hbay d⟩
  | storey =>
    obtain ⟨n, hn, hyields⟩ : ∃ n ≤ 400, ∀ d, (residentialHouse.rewrite d s).2.Yields Is
        (List.replicate n window) [] d :=
      exists_rewrite_tiles h.symbol rfl (by decide +kernel) h.fits
        (fun s extent hs hsize => ⟨hs, trivial⟩)
    exact ⟨_, _, .storey hn, hyields d⟩
  | window => exact ⟨_, _, .window, rewrite_model_yields h.symbol rfl d⟩
  | wall => exact ⟨_, _, .wall, rewrite_model_yields h.symbol rfl d⟩
  | door => exact ⟨_, _, .door, rewrite_model_yields h.symbol rfl d⟩
  | roof => exact ⟨_, _, .roof, rewrite_model_yields h.symbol rfl d⟩
  | floor => exact ⟨_, _, .floor, rewrite_model_yields h.symbol rfl d⟩
  | ceiling => exact ⟨_, _, .ceiling, rewrite_yields h.symbol rfl (.done (.refl d))⟩

def outline (hacc : Trigonometry.Accurate) :
    Outline (residentialHouse : RuleSet Float32) HousePart where
  is := Is
  produces := Produces
  is_entered {k s} id status h := by
    obtain ⟨hsymbol, hfits⟩ := h
    cases k <;> exact ⟨hsymbol, hfits⟩
  exists_produces d h _ := exists_produces hacc h

end HousePart

end Cityscape.Catalog
