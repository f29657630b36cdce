import Cityscape.Proofs.Building.Parts

/-!
# The outline of an office tower

## Main definitions

* `Catalog.TowerPart` — the kinds of shapes of an office tower.
* `Catalog.TowerPart.outline` — what they are rewritten by.
-/

namespace Cityscape.Catalog

open Grammar Grammar.RuleSet Single RandomStream

/-- The kinds of shapes that come up in an office tower. -/
inductive TowerPart
  | lot
  | mass
  | shaft
  | curtain
  | level
  | panel
  | roof
  | floor

namespace TowerPart

def symbol : TowerPart → String
  | lot => "Lot"
  | mass => "Mass"
  | shaft => "Shaft"
  | curtain => "Curtain"
  | level => "Level"
  | panel => "Panel"
  | roof => "Roof"
  | floor => "Floor"

/-- What is known about the box of a shape. -/
def Fits (s : Shape Float32) : TowerPart → Prop
  | lot => Upright 0 0 s.box
  | mass => Solid 30.0 60.0 s.scope.size
  | shaft => Solid 7.0 60.0 s.scope.size
  | curtain => Upstanding 7.0 60.0 s.scope.size
  | level => Buildable s.scope.size.x
  | _ => True

/-- The shapes of a kind. -/
structure Is (k : TowerPart) (s : Shape Float32) : Prop where
  symbol : s.symbol = some k.symbol
  fits : k.Fits s

/-- What a shape of a kind is rewritten by. -/
inductive Produces : TowerPart → List TowerPart → List String → Prop
  | lot : Produces lot [mass] []
  | setback : Produces mass [shaft, shaft] []
  | mass : Produces mass [shaft] []
  | shaft : Produces shaft [curtain, curtain, curtain, curtain, floor, roof] []
  | curtain {n : ℕ} (h : n ≤ 15) : Produces curtain (List.replicate n level) []
  | level {n : ℕ} (h : n ≤ 500) : Produces level (List.replicate n panel) []
  | panel : Produces panel [] ["glass"]
  | roof : Produces roof [] ["flat_roof"]
  | floor : Produces floor [] ["slab"]

/-- How many shapes come up from one of a kind at most, itself included. -/
def cost : TowerPart → ℕ
  | lot => 60136
  | mass => 60135
  | shaft => 30067
  | curtain => 7516
  | level => 501
  | _ => 1

/-- How many roofs come up from a shape of a kind at least. -/
def fewestRoofs : TowerPart → ℕ
  | lot | mass | shaft | roof => 1
  | _ => 0

/-- How many roofs come up from a shape of a kind at most. -/
def mostRoofs : TowerPart → ℕ
  | lot | mass => 2
  | shaft | roof => 1
  | _ => 0

section

variable {k : TowerPart} {kinds : List TowerPart} {names : List String}

theorem Produces.cost_le (h : Produces k kinds names) : 1 + (kinds.map cost).sum ≤ cost k := by
  cases h <;> simp [cost] <;> omega

theorem Produces.fewestRoofs_le (h : Produces k kinds names) :
    fewestRoofs k ≤ names.count "flat_roof" + (kinds.map fewestRoofs).sum := by
  cases h <;> simp [fewestRoofs]

theorem Produces.le_mostRoofs (h : Produces k kinds names) :
    names.count "flat_roof" + (kinds.map mostRoofs).sum ≤ mostRoofs k := by
  cases h <;> simp [mostRoofs]

end

/-! ## Rewriting -/

variable [Trigonometry Float32] {s : Shape Float32} {d : Derivation Float32}

/-- A mass has two shafts or one. -/
theorem exists_mass (h : mass.Is s) : ∃ kinds names, Produces mass kinds names ∧
    (officeTower.rewrite d s).2.Yields Is kinds names d := by
  have hsetback (d : Derivation Float32) := setback_yields h.fits
    (fun s hs hfits => (⟨hs, hfits⟩ : Is shaft s)) d
  have hput (d : Derivation Float32) :
      (Operation.runItem (.put "Shaft") d s).Yields Is [shaft] [] d := by
    refine Operation.put_yields (fun t ht hbox => ⟨ht, ?_⟩) d
    change Solid 7.0 60.0 t.box.scope.size
    rw [hbox]
    exact ⟨⟨h.fits.width, h.fits.height.mono (by decide +kernel) (by decide +kernel)⟩, h.fits.depth⟩
  have hchoice : (rewriteBy [⟨"Mass", [], [⟨0.6, _⟩, ⟨0.4, _⟩]⟩] d s).2.Yields Is _ [] d ∨
      (rewriteBy [⟨"Mass", [], [⟨0.6, _⟩, ⟨0.4, _⟩]⟩] d s).2.Yields Is _ [] d :=
    rewriteBy_choice_yields (Rule.matchShape_unconditional rfl h.symbol) rfl (by decide +kernel)
      (by decide +kernel) (by decide +kernel) (fun d => Action.runItems_single_yields (hsetback d))
      (fun d => Action.runItems_single_yields (hput d))
  obtain hyields | hyields := hchoice
  · exact ⟨_, _, .setback, rewrite_yields h.symbol rfl hyields⟩
  · exact ⟨_, _, .mass, rewrite_yields h.symbol rfl hyields⟩

theorem rewrite_shaft (h : shaft.Is s) (d : Derivation Float32) :
    (officeTower.rewrite d s).2.Yields Is [curtain, curtain, curtain, curtain, floor, roof] []
      d := by
  have hcurtain (part : OrientedBox Float32) (hfits : Upstanding 7.0 60.0 part.scope.size) :
      Is curtain (s.child "Curtain" part) := ⟨rfl, hfits⟩
  have hfaces (d : Derivation Float32) : (Item.run (operations [faces "Curtain" "Floor" "Roof"]) d
      s).Yields Is [curtain, curtain, curtain, curtain, floor, roof] [] d := by
    refine runFaces_yields h.fits ?_ d
    rw [Operation.faces_eq]
    exact .cons (hcurtain _ ⟨h.fits.width, h.fits.height⟩) <|
      .cons (hcurtain _ ⟨h.fits.depth, h.fits.height⟩) <|
      .cons (hcurtain _ ⟨h.fits.width, h.fits.height⟩) <|
      .cons (hcurtain _ ⟨h.fits.depth, h.fits.height⟩) <|
      .cons ⟨rfl, trivial⟩ <| .cons ⟨rfl, trivial⟩ .nil
  exact rewrite_yields h.symbol rfl <| rewriteBy_always_yields h.symbol fun d =>
    Action.runItems_single_yields (hfaces d)

theorem exists_produces {k : TowerPart} (h : k.Is s) :
    ∃ kinds names, Produces k kinds names ∧
      (officeTower.rewrite d s).2.Yields Is kinds names d := by
  cases k with
  | lot =>
    exact ⟨_, _, .lot, rewrite_extrude_yields h.symbol rfl (by decide +kernel) h.fits
      (fun s hs hfits => ⟨hs, hfits.toSolid⟩) d⟩
  | mass => exact exists_mass h
  | shaft => exact ⟨_, _, .shaft, rewrite_shaft h d⟩
  | curtain =>
    obtain ⟨n, hn, hyields⟩ : ∃ n ≤ 15, ∀ d, (officeTower.rewrite d s).2.Yields Is
        (List.replicate n level) [] d :=
      exists_rewrite_tiles h.symbol rfl (by decide +kernel) h.fits.height
        (fun s extent hs hsize => ⟨hs, by rw [Fits, hsize]; exact h.fits.width⟩)
    exact ⟨_, _, .curtain hn, hyields d⟩
  | level =>
    obtain ⟨n, hn, hyields⟩ : ∃ n ≤ 500, ∀ d, (officeTower.rewrite d s).2.Yields Is
        (List.replicate n panel) [] d :=
      exists_rewrite_tiles h.symbol rfl (by decide +kernel) h.fits
        (fun s extent hs hsize => ⟨hs, trivial⟩)
    exact ⟨_, _, .level hn, hyields d⟩
  | panel => exact ⟨_, _, .panel, rewrite_model_yields h.symbol rfl d⟩
  | roof => exact ⟨_, _, .roof, rewrite_model_yields h.symbol rfl d⟩
  | floor => exact ⟨_, _, .floor, rewrite_model_yields h.symbol rfl d⟩

def outline : Outline (officeTower : RuleSet Float32) TowerPart where
  is := Is
  produces := Produces
  is_entered {k s} id status h := by
    obtain ⟨hsymbol, hfits⟩ := h
    cases k <;> exact ⟨hsymbol, hfits⟩
  exists_produces d h _ := exists_produces h

end TowerPart

end Cityscape.Catalog
