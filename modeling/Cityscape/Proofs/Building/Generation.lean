import Cityscape.Proofs.Building.ApartmentBlock
import Cityscape.Proofs.Building.House
import Cityscape.Proofs.Building.OfficeTower

/-!
# Generated buildings

Every derivation with a rule set of the catalog comes to its end: whatever numbers are drawn, a lot
with sides up to a thousand gets a building. The parts of the building are those of an abstract
derivation along the outline of the rule set, so the numbers of doors and roofs can be read off
the outline.

## Main definitions

* `Trigonometry.ofSeries` — sine and cosine that can be evaluated.

## Main statements

* `Workshop.exists_generate` — a rule set with an outline within the limit gives a building.
* `Catalog.exists_generate_of_mem_all` — every rule set of the catalog gives a building.
-/

namespace Cityscape

open Grammar Single

/-! ## Buildings along an outline -/

namespace Workshop

variable {α κ : Type} [Scalar α] [Trigonometry α] {rules : RuleSet α} {w : Workshop α}
  {name : String} {start : Shape α} {k : κ} {names : List String} {d : Derivation α}

omit [Scalar α] [Trigonometry α] in
/-- The parts of a building show each model as often as the list has its name. -/
theorem partCount_eq (h : d.Places names) (ruleSet : String) (lot : Vec2 α)
    (terminals : List (Shape α)) (shapeCount : ℕ) (model : String) :
    (Building.mk ruleSet lot d.modelNames d.parts terminals shapeCount).partCount model =
      names.count model := by
  unfold Building.partCount
  split
  next index hindex => exact h.countP hindex
  next hnone => exact (h.count_eq_zero hnone).symm

omit [Scalar α] [Trigonometry α] in
theorem size_parts_eq (h : d.Places names) : d.parts.size = names.length := by
  simpa using congrArg List.length h.parts

/-- A rule set whose outline costs no more than the limit gives a building, and its parts are those
of a derivation along the outline. -/
theorem exists_generate (o : Outline rules κ) (cost : κ → ℕ) (hpos : ∀ k, 1 ≤ cost k)
    (hcost : ∀ k kinds names, o.produces k kinds names → 1 + (kinds.map cost).sum ≤ cost k)
    (hlimit : cost k ≤ RuleSet.evaluationLimit) (hrules : w.ruleSet? name = some rules)
    (hstart : rules.start = some start) (hparent : start.parent = none) (lot : Vec2 α)
    (his : o.is k { start with scope := { start.scope with size := ⟨lot.x, 0, lot.y⟩ } }) :
    ∃ building w' names, w.generate name lot = (.ok building, w') ∧ o.Derives [k] names ∧
      building.parts.size = names.length ∧
      ∀ model, building.partCount model = names.count model := by
  have hparent' : Shape.parent { start with scope := { start.scope with
      size := ⟨lot.x, 0, lot.y⟩ } } = none := hparent
  obtain ⟨v, names, hderive, hplaces, hderives⟩ :=
    o.exists_derives_of_derive hpos hcost hlimit hparent' his w.derivation
  simp only [generate, hrules, hstart, hderive]
  exact ⟨_, _, names, rfl, hderives, size_parts_eq hplaces, partCount_eq hplaces _ _ _ _⟩

end Workshop

/-! ## The catalog -/

namespace Catalog

variable [Trigonometry Float32] {w : Workshop Float32} {name : String} {lot : Vec2 Float32}

omit [Trigonometry Float32] in
/-- The lot before it is raised. -/
theorem upright_lot (hx : 0 < lot.x ∧ lot.x ≤ 1000) (hy : 0 < lot.y ∧ lot.y ≤ 1000) :
    Upright 0 0 ⟨⟨0, ⟨lot.x, 0, lot.y⟩⟩, 0⟩ where
  position := rfl
  rotation := rfl
  width := .of_pos hx.1 hx.2 (by decide +kernel)
  height := .zero
  depth := .of_pos hy.1 hy.2 (by decide +kernel)

/-- A house has one door and one hipped roof. -/
theorem exists_generate_house (hacc : Trigonometry.Accurate)
    (hrules : w.ruleSet? name = some residentialHouse) (hx : 0 < lot.x ∧ lot.x ≤ 1000)
    (hy : 0 < lot.y ∧ lot.y ≤ 1000) :
    ∃ building w', w.generate name lot = (.ok building, w') ∧ 1 ≤ building.parts.size ∧
      building.partCount "door" = 1 ∧ building.partCount "hipped_roof" = 1 := by
  obtain ⟨building, w', names, hgenerate, hderives, hsize, hcount⟩ :=
    w.exists_generate (HousePart.outline hacc) HousePart.cost (k := HousePart.lot)
      (fun k => by cases k <;> decide) (fun _ _ _ h => h.cost_le) (by decide) hrules rfl rfl lot
      ⟨rfl, upright_lot hx hy⟩
  have hdoors := hderives.count_eq "door" HousePart.doors fun _ _ _ h => h.count_door
  have hroofs := hderives.count_eq "hipped_roof" HousePart.roofs fun _ _ _ h => h.count_roof
  refine ⟨building, w', hgenerate, ?_, (hcount _).trans hdoors, (hcount _).trans hroofs⟩
  rw [hsize]
  exact Nat.le_trans (Nat.le_of_eq hdoors.symm) List.count_le_length

/-- An apartment block has one shopfront and one flat roof. -/
theorem exists_generate_apartmentBlock (hacc : Trigonometry.Accurate)
    (hrules : w.ruleSet? name = some apartmentBlock) (hx : 0 < lot.x ∧ lot.x ≤ 1000)
    (hy : 0 < lot.y ∧ lot.y ≤ 1000) :
    ∃ building w', w.generate name lot = (.ok building, w') ∧ 1 ≤ building.parts.size ∧
      building.partCount "shopfront" = 1 ∧ building.partCount "flat_roof" = 1 := by
  obtain ⟨building, w', names, hgenerate, hderives, hsize, hcount⟩ :=
    w.exists_generate (BlockPart.outline hacc) BlockPart.cost (k := BlockPart.lot)
      (fun k => by cases k <;> decide) (fun _ _ _ h => h.cost_le) (by decide) hrules rfl rfl lot
      ⟨rfl, upright_lot hx hy⟩
  have hshopfronts := hderives.count_eq "shopfront" BlockPart.shopfronts fun _ _ _ h =>
    h.count_shopfront
  have hroofs := hderives.count_eq "flat_roof" BlockPart.roofs fun _ _ _ h => h.count_roof
  refine ⟨building, w', hgenerate, ?_, (hcount _).trans hshopfronts, (hcount _).trans hroofs⟩
  rw [hsize]
  exact Nat.le_trans (Nat.le_of_eq hshopfronts.symm) List.count_le_length

/-- An office tower has a flat roof on each of its one or two shafts. -/
theorem exists_generate_officeTower (hrules : w.ruleSet? name = some officeTower)
    (hx : 0 < lot.x ∧ lot.x ≤ 1000) (hy : 0 < lot.y ∧ lot.y ≤ 1000) :
    ∃ building w', w.generate name lot = (.ok building, w') ∧ 1 ≤ building.parts.size ∧
      1 ≤ building.partCount "flat_roof" ∧ building.partCount "flat_roof" ≤ 2 := by
  obtain ⟨building, w', names, hgenerate, hderives, hsize, hcount⟩ :=
    w.exists_generate TowerPart.outline TowerPart.cost (k := TowerPart.lot)
      (fun k => by cases k <;> decide) (fun _ _ _ h => h.cost_le) (by decide) hrules rfl rfl lot
      ⟨rfl, upright_lot hx hy⟩
  obtain ⟨hfewest, hmost⟩ := hderives.count_mem "flat_roof" TowerPart.fewestRoofs
    TowerPart.mostRoofs (fun _ _ _ h => h.fewestRoofs_le) (fun _ _ _ h => h.le_mostRoofs)
  refine ⟨building, w', hgenerate, ?_, ?_, ?_⟩
  · rw [hsize]
    exact Nat.le_trans hfewest List.count_le_length
  · rw [hcount]
    exact hfewest
  · rw [hcount]
    exact hmost

/-- Whatever was drawn before, a rule set of the catalog gives a building for every lot with sides
up to a thousand; houses have one door and one hipped roof, apartment blocks one shopfront and one
flat roof. -/
theorem exists_generate_of_mem_all (hacc : Trigonometry.Accurate) {rules : RuleSet Float32}
    (hmem : rules ∈ all) (hrules : w.ruleSet? rules.name = some rules)
    (hx : 0 < lot.x ∧ lot.x ≤ 1000) (hy : 0 < lot.y ∧ lot.y ≤ 1000) :
    ∃ building w', w.generate rules.name lot = (.ok building, w') ∧ 1 ≤ building.parts.size ∧
      (rules.name = residentialHouseName →
        building.partCount "door" = 1 ∧ building.partCount "hipped_roof" = 1) ∧
      (rules.name = apartmentBlockName →
        building.partCount "shopfront" = 1 ∧ building.partCount "flat_roof" = 1) := by
  have hcases : rules = officeTower ∨ rules = apartmentBlock ∨ rules = residentialHouse := by
    simpa [all] using hmem
  obtain rfl | rfl | rfl := hcases
  · obtain ⟨building, w', hgenerate, hsize, -⟩ := exists_generate_officeTower hrules hx hy
    exact ⟨building, w', hgenerate, hsize, fun h => absurd h (by decide),
      fun h => absurd h (by decide)⟩
  · obtain ⟨building, w', hgenerate, hsize, hcounts⟩ :=
      exists_generate_apartmentBlock hacc hrules hx hy
    exact ⟨building, w', hgenerate, hsize, fun h => absurd h (by decide), fun _ => hcounts⟩
  · obtain ⟨building, w', hgenerate, hsize, hcounts⟩ := exists_generate_house hacc hrules hx hy
    exact ⟨building, w', hgenerate, hsize, fun _ => hcounts, fun h => absurd h (by decide)⟩

end Catalog

/-! ## A case -/

/-- Single precision with sine and cosine by the first terms of their series, which serve angles of
up to half a turn. -/
@[reducible]
def Trigonometry.ofSeries : Trigonometry Float32 where
  __ := instTrigonometryFloat32
  sin := sin
  cos := cos
  tan a := sin a / cos a
where
  sin (a : Float32) : Float32 :=
    let b := a * a
    a * (1 - b / 6 * (1 - b / 20 * (1 - b / 42 * (1 - b / 72 * (1 - b / 110)))))
  cos (a : Float32) : Float32 :=
    let b := a * a
    1 - b / 2 * (1 - b / 12 * (1 - b / 30 * (1 - b / 56 * (1 - b / 90))))

theorem Catalog.exists_generate_eight_by_twelve :
    ∃ building w', @Workshop.generate Float32 _ .ofSeries (.withCatalog 7) residentialHouseName
        ⟨8, 12⟩ = (.ok building, w') ∧ 1 ≤ building.parts.size ∧
      building.partCount "door" = 1 ∧ building.partCount "hipped_roof" = 1 := by
  let _ : Trigonometry Float32 := .ofSeries
  have hacc : Trigonometry.Accurate :=
    ⟨rfl, by decide +kernel, by decide +kernel, by decide +kernel, by decide +kernel⟩
  have hmem : (residentialHouse : RuleSet Float32) ∈ all := by simp [all]
  have hrules : (Workshop.withCatalog 7 : Workshop Float32).ruleSet?
      (residentialHouse : RuleSet Float32).name = some residentialHouse := rfl
  have hwidth : 0 < (⟨8, 12⟩ : Vec2 Float32).x ∧ (⟨8, 12⟩ : Vec2 Float32).x ≤ 1000 := by
    decide +kernel
  have hdepth : 0 < (⟨8, 12⟩ : Vec2 Float32).y ∧ (⟨8, 12⟩ : Vec2 Float32).y ≤ 1000 := by
    decide +kernel
  obtain ⟨building, w', hgenerate, hsize, hhouse, -⟩ :=
    Catalog.exists_generate_of_mem_all hacc hmem hrules hwidth hdepth
  exact ⟨building, w', hgenerate, hsize, hhouse rfl⟩

end Cityscape
