import Cityscape.Proofs.Building.Parts

/-!
# The outline of an apartment block

## Main definitions

* `Catalog.BlockPart` — the kinds of shapes of an apartment block.
* `Catalog.BlockPart.outline` — what they are rewritten by.
-/

namespace Cityscape.Catalog

open Grammar Grammar.RuleSet Single RandomStream

/-- The kinds of shapes that come up in an apartment block. -/
inductive BlockPart
  | lot
  | mass
  | front
  | side
  | shopfront
  | storey
  | bay
  | window
  | wall
  | roof
  | floor

namespace BlockPart

def symbol : BlockPart → String
  | lot => "Lot"
  | mass => "Mass"
  | front | side => "Facade"
  | shopfront => "Shopfront"
  | storey => "Storey"
  | bay => "Bay"
  | window => "Window"
  | wall => "Wall"
  | roof => "Roof"
  | floor => "Floor"

/-- What is known about the box of a shape. -/
def Fits [Trigonometry Float32] (s : Shape Float32) : BlockPart → Prop
  | lot => Upright 0 0 s.box
  | mass => Upright 10.0 18.0 s.box
  | front => s.isVisible = true ∧ Upstanding 10.0 18.0 s.scope.size
  | side => s.isVisible = false ∧ Upstanding 10.0 18.0 s.scope.size
  | storey => Buildable s.scope.size.x
  | _ => True

/-- The shapes of a kind. -/
structure Is [Trigonometry Float32] (k : BlockPart) (s : Shape Float32) : Prop where
  symbol : s.symbol = some k.symbol
  fits : k.Fits s

/-- What a shape of a kind is rewritten by. -/
inductive Produces : BlockPart → List BlockPart → List String → Prop
  | lot : Produces lot [mass] []
  | mass : Produces mass [front, side, side, side, floor, roof] []
  | front {n : ℕ} (h : n ≤ 5) : Produces front (shopfront :: List.replicate n storey) []
  | side {n : ℕ} (h : n ≤ 6) : Produces side (List.replicate n storey) []
  | storey {n : ℕ} (h : n ≤ 334) : Produces storey (List.replicate n bay) []
  | bay : Produces bay [wall, window, wall] []
  | covered : Produces bay [] ["wall"]
  | shopfront : Produces shopfront [] ["shopfront"]
  | window : Produces window [] ["window"]
  | wall : Produces wall [] ["wall"]
  | roof : Produces roof [] ["flat_roof"]
  | floor : Produces floor [] ["slab"]

/-- How many shapes come up from one of a kind at most, itself included. -/
def cost : BlockPart → ℕ
  | lot => 30760
  | mass => 30759
  | front => 6687
  | side => 8023
  | storey => 1337
  | bay => 4
  | _ => 1

/-- How many shopfronts come up from a shape of a kind. -/
def shopfronts : BlockPart → ℕ
  | lot | mass | front | shopfront => 1
  | _ => 0

/-- How many roofs come up from a shape of a kind. -/
def roofs : BlockPart → ℕ
  | lot | mass | roof => 1
  | _ => 0

section

variable {k : BlockPart} {kinds : List BlockPart} {names : List String}

theorem Produces.cost_le (h : Produces k kinds names) : 1 + (kinds.map cost).sum ≤ cost k := by
  cases h <;> simp [cost] <;> omega

theorem Produces.count_shopfront (h : Produces k kinds names) :
    names.count "shopfront" + (kinds.map shopfronts).sum = shopfronts k := by
  cases h <;> simp [shopfronts]

theorem Produces.count_roof (h : Produces k kinds names) :
    names.count "flat_roof" + (kinds.map roofs).sum = roofs k := by
  cases h <;> simp [roofs]

end

/-! ## Rewriting -/

variable [Trigonometry Float32] {s : Shape Float32} {d : Derivation Float32}

theorem rewrite_mass (hacc : Trigonometry.Accurate) (h : mass.Is s) (d : Derivation Float32) :
    (apartmentBlock.rewrite d s).2.Yields Is [front, side, side, side, floor, roof] [] d := by
  have hfaces (d : Derivation Float32) : (Item.run (operations [faces "Facade" "Floor" "Roof"]) d
      s).Yields Is [front, side, side, side, floor, roof] [] d :=
    h.fits.faces_yields hacc (fun s hs hvisible hfits => ⟨hs, hvisible, hfits⟩)
      (fun s hs hhidden hfits => ⟨hs, hhidden, hfits⟩) (fun s hs => ⟨hs, trivial⟩)
      (fun s hs => ⟨hs, trivial⟩) d
  exact rewrite_yields h.symbol rfl <| rewriteBy_always_yields h.symbol fun d =>
    Action.runItems_single_yields (hfaces d)

/-- A bay that something covers becomes a wall. -/
theorem exists_bay (h : bay.Is s) (hwalk : ∀ id, ∃ b, d.isLineage s id = .ok b) :
    ∃ kinds names, Produces bay kinds names ∧
      (apartmentBlock.rewrite d s).2.Yields Is kinds names d := by
  obtain ⟨b, hclear⟩ := exists_evaluate_clear hwalk
  cases b with
  | true =>
    have hbay (d : Derivation Float32) :
        ((Catalog.bay 1.4 "Window").run d s).Yields Is [wall, window, wall] [] d :=
      bay_yields (fun s hs => ⟨hs, trivial⟩) (fun s hs => ⟨hs, trivial⟩) d s
    exact ⟨_, _, .bay, rewrite_yields h.symbol rfl <| rewriteBy_yields
      (Rule.matchShape_condition rfl h.symbol hclear) rfl fun d =>
        Action.runItems_single_yields (operations_yields (hbay d))⟩
  | false =>
    exact ⟨_, _, .covered, rewrite_yields h.symbol rfl <| rewriteBy_skip_yields
      (Rule.matchShape_condition rfl h.symbol hclear) <| rewriteBy_always_yields h.symbol fun d =>
        Action.runItems_single_yields (operations_yields (Operation.model_yields _ d s))⟩

theorem exists_produces (hacc : Trigonometry.Accurate) {k : BlockPart} (h : k.Is s)
    (hwalk : ∀ id, ∃ b, d.isLineage s id = .ok b) :
    ∃ kinds names, Produces k kinds names ∧
      (apartmentBlock.rewrite d s).2.Yields Is kinds names d := by
  cases k with
  | lot =>
    exact ⟨_, _, .lot, rewrite_extrude_yields h.symbol rfl (by decide +kernel) h.fits
      (fun s hs hfits => ⟨hs, hfits⟩) d⟩
  | mass => exact ⟨_, _, .mass, rewrite_mass hacc h d⟩
  | front =>
    have htiles : TilesUpTo 5 3.0 6 14 := by decide +kernel
    obtain ⟨n, hn, hyields⟩ : ∃ n ≤ 5, ∀ d, (apartmentBlock.rewrite d s).2.Yields Is
        (shopfront :: List.replicate n storey) [] d :=
      exists_rewrite_front h.symbol rfl h.fits.1 h.fits.2.height (by decide +kernel)
        (by decide +kernel) htiles (fun s hs => ⟨hs, trivial⟩)
        (fun s hs hwidth => ⟨hs, by rw [Fits, hwidth]; exact h.fits.2.width⟩)
    exact ⟨_, _, .front hn, hyields d⟩
  | side =>
    obtain ⟨n, hn, hyields⟩ : ∃ n ≤ 6, ∀ d, (apartmentBlock.rewrite d s).2.Yields Is
        (List.replicate n storey) [] d :=
      exists_rewrite_side h.symbol rfl h.fits.1 h.fits.2.height (by decide +kernel)
        (fun s hs hwidth => ⟨hs, by rw [Fits, hwidth]; exact h.fits.2.width⟩)
    exact ⟨_, _, .side hn, hyields d⟩
  | storey =>
    obtain ⟨n, hn, hyields⟩ : ∃ n ≤ 334, ∀ d, (apartmentBlock.rewrite d s).2.Yields Is
        (List.replicate n bay) [] d :=
      exists_rewrite_tiles h.symbol rfl (by decide +kernel) h.fits
        (fun s extent hs hsize => ⟨hs, trivial⟩)
    exact ⟨_, _, .storey hn, hyields d⟩
  | bay => exact exists_bay h hwalk
  | shopfront => exact ⟨_, _, .shopfront, rewrite_model_yields h.symbol rfl d⟩
  | window => exact ⟨_, _, .window, rewrite_model_yields h.symbol rfl d⟩
  | wall => exact ⟨_, _, .wall, rewrite_model_yields h.symbol rfl d⟩
  | roof => exact ⟨_, _, .roof, rewrite_model_yields h.symbol rfl d⟩
  | floor => exact ⟨_, _, .floor, rewrite_model_yields h.symbol rfl d⟩

def outline (hacc : Trigonometry.Accurate) :
    Outline (apartmentBlock : RuleSet Float32) BlockPart where
  is := Is
  produces := Produces
  is_entered {k s} id status h := by
    obtain ⟨hsymbol, hfits⟩ := h
    cases k <;> exact ⟨hsymbol, hfits⟩
  exists_produces d h hwalk := exists_produces hacc h hwalk

end BlockPart

end Cityscape.Catalog
