import Cityscape.Proofs.Building.Rules

/-!
# Parts of the catalog's rules

What the operations of the catalog's rules bring up. The kinds of the shapes that come up are
parameters, so each lemma serves every rule set with such a rule. The extents that decide how many
tiles there are lie between bounds that hold whatever was drawn.

## Main definitions

* `Catalog.Buildable` — an extent that a lot may have.
* `Catalog.Upstanding`, `Catalog.Solid`, `Catalog.Upright` — what is known about the boxes of
  facades, shafts and masses.

## Main statements

* `Catalog.extrude_yields`, `Catalog.setback_yields` — from the lot to a mass, and to its shafts.
* `Catalog.Upright.faces_yields` — one side of a mass is seen from the street, the others are not.
* `Catalog.streetFacade_yields`, `Catalog.tileAlong_yields`, `Catalog.bay_yields` — facades.
-/

namespace Cityscape.Catalog

open Grammar Grammar.Operation Single RandomStream

variable {κ : Type} {is : κ → Shape Float32 → Prop} {k : κ} {kinds : List κ} {names : List String}
  {d : Derivation Float32} {target : Shape Float32} {symbol : String} {low high : Float32}

/-! ## Extents -/

/-- An extent that a lot may have. -/
def Buildable (a : Float32) : Prop := Within (Float32.ofBits 1) 1000 a

/-- The extents of a part that stands: its height lies between two bounds. -/
structure Upstanding (low high : Float32) (size : Vec3 Float32) : Prop where
  width : Buildable size.x
  height : Within low high size.y

/-- The extents of a part that stands and has depth. -/
structure Solid (low high : Float32) (size : Vec3 Float32) : Prop extends
    Upstanding low high size where
  depth : Buildable size.z

/-- A solid box that stands at the origin and is not turned. -/
structure Upright (low high : Float32) (b : OrientedBox Float32) : Prop extends
    Solid low high b.scope.size where
  position : b.scope.position = 0
  rotation : b.rotation = 0

theorem Solid.isFlat_eq_false (h : Solid low high target.scope.size) :
    target.box.isFlat = false := by
  have hpos : 0 < target.scope.size.z := h.depth.pos (by decide +kernel)
  have hne : (target.scope.size.z == 0) = false := by
    rw [Bool.eq_false_iff, ne_eq, beq_iff_toReal h.depth.finite finite_zero]
    exact (Within.toReal_pos h.depth.finite hpos).ne'
  exact hne

/-- What is left of a facade above the ground floor. -/
theorem within_rest {ground low high low' high' extent : Float32} (h : Within low' high' extent)
    (hground : Finite (Scalar.sum [ground]))
    (hrest : ∀ c ∈ [low' - Scalar.sum [ground], high' - Scalar.sum [ground]], Within low high c) :
    Within low high (Slot.size (extent - Scalar.sum [ground]) (Scalar.sum [1]) ⟨1, true⟩) := by
  have hshare : (Scalar.sum [1] : Float32) = 1 := by decide +kernel
  have hne : ¬ ((1 : Float32) == 0) = true := by decide +kernel
  rw [hshare, Slot.size, if_pos rfl, if_neg hne]
  exact (h.sub (.refl hground) hrest).one_mul.div_one

/-- What a slot with a share of what is left over takes. -/
theorem within_share (low₂ high₂ : Float32) {value rest shares low₁ high₁ : Float32}
    (hrest : Within low₁ high₁ rest)
    (hvalue : Finite value) (hshares : Finite shares) (hpos : 0 < shares)
    (hpart : ∀ c ∈ [value * low₁, value * high₁], Within low₂ high₂ c)
    (hquotient : ∀ c ∈ [low₂ / shares, high₂ / shares], Within low high c) :
    Within low high (Slot.size rest shares ⟨value, true⟩) := by
  have hne : ¬ (shares == 0) = true := by
    rw [beq_iff_toReal hshares finite_zero]
    exact (Within.toReal_pos hshares hpos).ne'
  have hproduct : Within low₂ high₂ (value * rest) := by
    rw [mul_comm]
    refine hrest.mul_finite hvalue ?_ ?_ <;> rw [mul_comm]
    · exact hpart _ (by simp)
    · exact hpart _ (by simp)
  rw [Slot.size, if_pos rfl, if_neg hne]
  exact hproduct.div_finite hshares hpos (hquotient _ (by simp)) (hquotient _ (by simp))

/-! ## Masses -/

variable [Trigonometry Float32]

theorem operations_yields {f : Operation Float32} (h : (f.run d target).Yields is kinds names d) :
    (runItem (operations [f]) d target).Yields is kinds names d := by
  refine runItem_yields (by simp) ?_
  simpa using runAll_cons_yields h fun _ _ => runAll_nil_yields

/-- The lot is raised to a mass of a random height. -/
theorem extrude_yields (hdraw : Drawable low high) (h : Upright 0 0 target.box)
    (hmass : ∀ s : Shape Float32, s.symbol = some "Mass" → Upright low high s.box → is k s)
    (d : Derivation Float32) :
    (runItem ⟨[.resize [fraction 1, random low high, fraction 1]], some "Mass"⟩ d target).Yields is
      [k] [] d := by
  obtain ⟨height, stream, hrange, hheight⟩ := hdraw.range d.stream
  have hcompute : Value.computeAll d.currentScope [fraction 1, random low high, fraction 1]
      d.stream = .ok ([1, height, 1], stream) :=
    Value.computeAll_cons rfl (Value.computeAll_cons hrange rfl)
  obtain ⟨d', heq, hbrings⟩ := exists_runResize_eq is target rfl hcompute
  rw [runItem, if_neg (by simp), runAll, Operation.run, heq, Effect.done_andThen, runAll,
    Effect.done_andThen]
  refine .after hbrings (putOut_yields (fun s hs hbox => hmass s hs ?_) d')
  rw [hbox]
  exact ⟨⟨⟨h.width.one_mul, hheight⟩, h.depth.one_mul⟩, h.position, h.rotation⟩

/-- The upper shaft of a tower, which is set back. -/
theorem inset_yields (h : Solid low high target.scope.size)
    (hshaft : ∀ s : Shape Float32, s.symbol = some "Shaft" → Solid low high s.scope.size → is k s)
    (d : Derivation Float32) :
    (runItem ⟨[.move [inset .x, number 0, inset .z], .resize [fraction 0.7, fraction 1,
      fraction 0.7]], some "Shaft"⟩ d target).Yields is [k] [] d := by
  have hcompute : Value.computeAll d.currentScope [inset .x, number 0, inset .z] d.stream =
      .ok ([d.currentScope.size.x * 0.15, 0, d.currentScope.size.z * 0.15], d.stream) := rfl
  obtain ⟨position, d', hmove, hbrings⟩ := exists_runMove_eq is target rfl hcompute
  have hfactors : Value.computeAll d'.currentScope [fraction 0.7, fraction 1, fraction 0.7]
      d'.stream = .ok ([0.7, 1, 0.7], d'.stream) := rfl
  obtain ⟨d'', hresize, hbrings'⟩ := exists_runResize_eq is
    { target with scope := { target.scope with position } } rfl hfactors
  have hsmaller {a : Float32} (ha : Buildable a) : Buildable (0.7 * a) :=
    (Within.refl (a := 0.7) (by decide +kernel)).mul ha (by decide +kernel)
  rw [runItem, if_neg (by simp), runAll, Operation.run, hmove, Effect.done_andThen, runAll,
    Operation.run, hresize, Effect.done_andThen, runAll, Effect.done_andThen]
  refine .after (hbrings.trans hbrings') (putOut_yields (fun s hs hbox => hshaft s hs ?_) d'')
  change Solid low high s.box.scope.size
  rw [hbox]
  exact ⟨⟨hsmaller h.width, h.height.one_mul⟩, hsmaller h.depth⟩

/-- A tower that is set back near its top has two shafts. -/
theorem setback_yields (h : Solid 30 60 target.scope.size)
    (hshaft : ∀ s : Shape Float32, s.symbol = some "Shaft" → Solid 7 60 s.scope.size → is k s)
    (d : Derivation Float32) :
    (runItem (operations [.subdivide .y [fraction 0.75, fraction 0.25]
      [some (.put "Shaft"), some ⟨[.move [inset .x, number 0, inset .z],
        .resize [fraction 0.7, fraction 1, fraction 0.7]], some "Shaft"⟩]]) d target).Yields is
      [k, k] [] d := by
  have hcompute : Value.computeAll d.currentScope [fraction 0.75, fraction 0.25] d.stream =
      .ok ([0.75, 0.25], d.stream) := rfl
  have hrest : Within 30 60 (target.scope.size.y - Scalar.sum []) :=
    h.height.sub (.refl (by decide +kernel)) (by decide +kernel)
  -- A quarter of the least height is 7.5.
  obtain ⟨lower, upper, hsizes, hlower, hupper⟩ : ∃ lower upper,
      slotSizes (slotsOf [fraction 0.75, fraction 0.25] [0.75, 0.25])
        (target.scope.size.get .y) = [lower, upper] ∧ Within 7 60 lower ∧ Within 7 60 upper :=
    ⟨_, _, rfl,
      within_share 22 46 hrest (by decide +kernel) (by decide +kernel) (by decide +kernel)
        (by decide +kernel) (by decide +kernel),
      within_share 7 16 hrest (by decide +kernel) (by decide +kernel) (by decide +kernel)
        (by decide +kernel) (by decide +kernel)⟩
  have hsolid {height : Float32} (hheight : Within 7 60 height) (position : Vec3 Float32) :
      Solid 7 60 (Shape.carrier ⟨⟨position, target.scope.size.set .y height⟩, target.rotation⟩
        target.lineageParent).scope.size := ⟨⟨h.width, hheight⟩, h.depth⟩
  have hput (position : Vec3 Float32) (d : Derivation Float32) : (runItem (.put "Shaft") d (.carrier
      ⟨⟨position, target.scope.size.set .y lower⟩, target.rotation⟩
        target.lineageParent)).Yields is [k] [] d := by
    refine put_yields (fun s hs hbox => hshaft s hs ?_) d
    change Solid 7 60 s.box.scope.size
    rw [hbox]
    exact hsolid hlower position
  exact operations_yields (subdivide_pair_yields rfl hcompute hsizes hput fun position d =>
    inset_yields (hsolid hupper position) hshaft d)

theorem runFaces_yields {side bottom top : String}
    (hsolid : Solid low high target.scope.size)
    (h : List.Forall₂ is kinds (List.zipWith target.child [side, side, side, side, bottom, top]
      target.box.faces)) (d : Derivation Float32) :
    (runItem (operations [faces side bottom top]) d target).Yields is kinds [] d :=
  operations_yields <|
    faces_yields hsolid.isFlat_eq_false (by decide +kernel) (by decide +kernel) h d

/-- One side of a mass is seen from the street, the others are not. -/
theorem Upright.faces_yields {front side bottom top : κ} {bottomSymbol topSymbol : String}
    (h : Upright low high target.box) (hacc : Trigonometry.Accurate)
    (hfront : ∀ s : Shape Float32, s.symbol = some "Facade" → s.isVisible = true →
      Upstanding low high s.scope.size → is front s)
    (hside : ∀ s : Shape Float32, s.symbol = some "Facade" → s.isVisible = false →
      Upstanding low high s.scope.size → is side s)
    (hbottom : ∀ s : Shape Float32, s.symbol = some bottomSymbol → is bottom s)
    (htop : ∀ s : Shape Float32, s.symbol = some topSymbol → is top s) (d : Derivation Float32) :
    (runItem (operations [faces "Facade" bottomSymbol topSymbol]) d target).Yields is
      [front, side, side, side, bottom, top] [] d := by
  have hbehind : Buildable (target.box.scope.position.z + 1 * target.scope.size.z) := by
    rw [h.position]
    exact .zero_add .zero h.depth.one_mul
  refine runFaces_yields h.toSolid ?_ d
  rw [faces_eq]
  refine .cons (hfront _ rfl ?_ ⟨h.width, h.height⟩) <|
    .cons (hside _ rfl ?_ ⟨h.depth, h.height⟩) <| .cons (hside _ rfl ?_ ⟨h.width, h.height⟩) <|
    .cons (hside _ rfl ?_ ⟨h.depth, h.height⟩) <| .cons (hbottom _ rfl) <| .cons (htop _ rfl) .nil
  · have hposition : Within 0 0 (target.box.scope.position.z + 0 * target.scope.size.z) := by
      rw [h.position]
      exact .add_zero .zero (.zero_mul .zero h.depth.finite)
    refine Shape.isVisible_front hacc ?_ ?_ ?_ hposition rfl <;>
    · change _ + _ = _
      rw [h.rotation]
      decide +kernel
  · refine Shape.isVisible_side hacc ?_ ?_ ?_ <;>
    · change _ + _ = _
      rw [h.rotation]
      decide +kernel
  · exact Shape.isVisible_behind (hbehind.pos (by decide +kernel)) hbehind.finite
  · exact Shape.isVisible_behind (hbehind.pos (by decide +kernel)) hbehind.finite

/-- A hipped roof is put on top. -/
theorem hippedRoof_yields (hroof : ∀ s : Shape Float32, s.symbol = some "Roof" → is k s)
    (hdraw : Drawable low high) (d : Derivation Float32) (target : Shape Float32) :
    (runItem (operations [.move [number 0, extent .y, number 0],
      .roof .hipped (random low high) "Roof"]) d target).Yields is [k] [] d := by
  have hcompute : Value.computeAll d.currentScope [number 0, extent .y, number 0] d.stream =
      .ok ([0, d.currentScope.size.y, 0], d.stream) := rfl
  have hmove : ((move [number 0, extent .y, number 0]).run d target).Yields is [] [] d := by
    rw [Operation.run]
    exact runMove_yields rfl hcompute
  have hput (d : Derivation Float32) (target : Shape Float32) :
      ((roof .hipped (random low high) "Roof").run d target).Yields is [k] [] d := by
    obtain ⟨pitch, stream, hrange, -⟩ := hdraw.range d.stream
    rw [Operation.run]
    exact runRoof_yields (Value.computeAll_cons hrange rfl) fun part => hroof _ rfl
  exact runItem_yields (by simp) <| runAll_cons_yields hmove fun d target =>
    runAll_cons_yields (hput d target) fun _ _ => runAll_nil_yields

/-! ## Facades -/

/-- Tiles along an axis. -/
theorem tileAlong_yields {axis : Axis} {spacing : Float32} {n : ℕ}
    (hcount : tileCount (target.scope.size.get axis) spacing = some n) (hn : n ≤ tileLimit)
    (h : ∀ (s : Shape Float32) extent, s.symbol = some symbol →
      s.scope.size = target.scope.size.set axis extent → is k s) (d : Derivation Float32) :
    ((tileAlong axis spacing symbol).run d target).Yields is (List.replicate n k) [] d := by
  rw [tileAlong, Operation.run]
  exact tile_yields hcount hn (fun position => h _ _ rfl rfl) d

/-- A ground floor, and storeys above it. -/
theorem streetFacade_yields {entrance storey : κ} {ground spacing low high low' high' : Float32}
    {groundSymbol : String} {n : ℕ} (hextent : Within low' high' target.scope.size.y)
    (hground : Finite (Scalar.sum [ground]))
    (hrest : ∀ c ∈ [low' - Scalar.sum [ground], high' - Scalar.sum [ground]], Within low high c)
    (hn : TilesUpTo n spacing low high)
    (hentrance : ∀ s : Shape Float32, s.symbol = some groundSymbol → is entrance s)
    (hstorey : ∀ s : Shape Float32, s.symbol = some "Storey" →
      s.scope.size.x = target.scope.size.x → is storey s) :
    ∃ m ≤ n, ∀ d, ((Operation.subdivide .y [number ground, fraction 1] [some (.put groundSymbol),
      some (operations [tileAlong .y spacing "Storey"])]).run d target).Yields is
        (entrance :: List.replicate m storey) [] d := by
  obtain ⟨upper, hsizes, hupper⟩ : ∃ upper,
      slotSizes (slotsOf [number ground, fraction 1] [ground, 1]) (target.scope.size.get .y) =
        [ground, upper] ∧ Within low high upper := ⟨_, rfl, within_rest hextent hground hrest⟩
  -- The number of tiles does not depend on where the piece lies.
  obtain ⟨m, hm, hcount⟩ := hn.exists_tileCount hupper
  have htiles (position : Vec3 Float32) (d : Derivation Float32) :
      (runItem (operations [tileAlong .y spacing "Storey"]) d (.carrier ⟨⟨position,
        target.scope.size.set .y upper⟩, target.rotation⟩ target.lineageParent)).Yields is
          (List.replicate m storey) [] d := by
    have hcount' : tileCount ((Shape.carrier ⟨⟨position, target.scope.size.set .y upper⟩,
      target.rotation⟩ target.lineageParent).scope.size.get .y) spacing = some m := hcount
    refine operations_yields (tileAlong_yields hcount' (hm.trans hn.le_limit) ?_ d)
    intro s extent hsymbol hsize
    exact hstorey s hsymbol (by rw [hsize]; rfl)
  refine ⟨m, hm, fun d => ?_⟩
  have hcompute : Value.computeAll d.currentScope [number ground, fraction 1] d.stream =
      .ok ([ground, 1], d.stream) := rfl
  exact subdivide_pair_yields rfl hcompute hsizes
    (fun _ d => put_yields (fun _ hs _ => hentrance _ hs) d) htiles

/-- A bay is cut into a wall, an opening and another wall. -/
theorem bay_yields {wall middle : κ} {opening : Float32}
    (hwall : ∀ s : Shape Float32, s.symbol = some "Wall" → is wall s)
    (hmiddle : ∀ s : Shape Float32, s.symbol = some symbol → is middle s)
    (d : Derivation Float32) (target : Shape Float32) :
    ((bay opening symbol).run d target).Yields is [wall, middle, wall] [] d := by
  have hcompute : Value.computeAll d.currentScope [fraction 1, number opening, fraction 1]
      d.stream = .ok ([1, opening, 1], d.stream) := rfl
  rw [bay, Operation.run, if_neg (by simp)]
  refine .withValues hcompute ?_
  obtain ⟨u, v, w, hslots⟩ := exists_slots_triple target.box .x (⟨1, true⟩ : Slot Float32)
    ⟨opening, false⟩ ⟨1, true⟩
  have hslots' : target.box.slots .x (slotsOf [fraction 1, number opening, fraction 1]
    [1, opening, 1]) = [u, v, w] := hslots
  rw [hslots']
  exact runSlots_yields (put_yields (fun _ hs _ => hwall _ hs) _) fun d =>
    runSlots_yields (put_yields (fun _ hs _ => hmiddle _ hs) _) fun d =>
      runSlots_single_yields (put_yields (fun _ hs _ => hwall _ hs) _)

/-! ## Rules -/

section

variable {rules : RuleSet Float32} {n : ℕ}

/-- A rule with one operation and no condition. -/
theorem rewrite_operation_yields {rules : RuleSet Float32} {f : Operation Float32}
    (hsymbol : target.symbol = some symbol)
    (hrules : rules.levels.flatten.filter (·.symbol == symbol) = [.always symbol [operations [f]]])
    (h : ∀ d, (f.run d target).Yields is kinds names d) (d : Derivation Float32) :
    (rules.rewrite d target).2.Yields is kinds names d :=
  RuleSet.rewrite_yields hsymbol hrules <| RuleSet.rewriteBy_always_yields hsymbol fun d =>
    Action.runItems_single_yields (operations_yields (h d))

/-- A rule that places a model. -/
theorem rewrite_model_yields {rules : RuleSet Float32} {name : String}
    (hsymbol : target.symbol = some symbol)
    (hrules : rules.levels.flatten.filter (·.symbol == symbol) = [model symbol name])
    (d : Derivation Float32) : (rules.rewrite d target).2.Yields is [] [name] d :=
  rewrite_operation_yields hsymbol hrules (fun d => model_yields name d target) d

/-- The rule that raises the lot. -/
theorem rewrite_extrude_yields (hsymbol : target.symbol = some "Lot")
    (hrules : rules.levels.flatten.filter (·.symbol == "Lot") = [extrude (random low high)])
    (hdraw : Drawable low high) (h : Upright 0 0 target.box)
    (hmass : ∀ s : Shape Float32, s.symbol = some "Mass" → Upright low high s.box → is k s)
    (d : Derivation Float32) : (rules.rewrite d target).2.Yields is [k] [] d :=
  RuleSet.rewrite_yields hsymbol hrules <| RuleSet.rewriteBy_always_yields hsymbol fun d =>
    Action.runItems_single_yields (extrude_yields hdraw h hmass d)

/-- A rule that tiles. -/
theorem exists_rewrite_tiles {axis : Axis} {spacing : Float32} {tile : String}
    (hsymbol : target.symbol = some symbol)
    (hrules : rules.levels.flatten.filter (·.symbol == symbol) =
      [.always symbol [operations [tileAlong axis spacing tile]]])
    (hn : TilesUpTo n spacing low high) (hextent : Within low high (target.scope.size.get axis))
    (h : ∀ (s : Shape Float32) extent, s.symbol = some tile →
      s.scope.size = target.scope.size.set axis extent → is k s) :
    ∃ m ≤ n, ∀ d, (rules.rewrite d target).2.Yields is (List.replicate m k) [] d := by
  obtain ⟨m, hm, hcount⟩ := hn.exists_tileCount hextent
  exact ⟨m, hm, rewrite_operation_yields hsymbol hrules
    (tileAlong_yields hcount (hm.trans hn.le_limit) h)⟩

/-- The rules for facades, where the street is seen. -/
theorem exists_rewrite_front {entrance storey : κ} {ground spacing height low' high' : Float32}
    {groundSymbol : String} (hsymbol : target.symbol = some "Facade")
    (hrules : rules.levels.flatten.filter (·.symbol == "Facade") =
      [streetFacade ground spacing groundSymbol, storeys height])
    (hvisible : target.isVisible = true) (hextent : Within low' high' target.scope.size.y)
    (hground : Finite (Scalar.sum [ground]))
    (hrest : ∀ c ∈ [low' - Scalar.sum [ground], high' - Scalar.sum [ground]], Within low high c)
    (hn : TilesUpTo n spacing low high)
    (hentrance : ∀ s : Shape Float32, s.symbol = some groundSymbol → is entrance s)
    (hstorey : ∀ s : Shape Float32, s.symbol = some "Storey" →
      s.scope.size.x = target.scope.size.x → is storey s) :
    ∃ m ≤ n, ∀ d,
      (rules.rewrite d target).2.Yields is (entrance :: List.replicate m storey) [] d := by
  obtain ⟨m, hm, hyields⟩ := streetFacade_yields hextent hground hrest hn hentrance hstorey
  have hmatch (d : Derivation Float32) : visible.evaluate d target = (.ok true, d.stream) := by
    rw [evaluate_visible, hvisible]
  exact ⟨m, hm, fun d => RuleSet.rewrite_yields hsymbol hrules <| RuleSet.rewriteBy_yields
    (Rule.matchShape_condition rfl hsymbol (hmatch d)) rfl fun d =>
      Action.runItems_single_yields (operations_yields (hyields d))⟩

/-- The rules for facades, away from the street. -/
theorem exists_rewrite_side {storey : κ} {ground spacing height : Float32} {groundSymbol : String}
    (hsymbol : target.symbol = some "Facade")
    (hrules : rules.levels.flatten.filter (·.symbol == "Facade") =
      [streetFacade ground spacing groundSymbol, storeys height])
    (hhidden : target.isVisible = false) (hextent : Within low high target.scope.size.y)
    (hn : TilesUpTo n height low high)
    (hstorey : ∀ s : Shape Float32, s.symbol = some "Storey" →
      s.scope.size.x = target.scope.size.x → is storey s) :
    ∃ m ≤ n, ∀ d, (rules.rewrite d target).2.Yields is (List.replicate m storey) [] d := by
  have hheight : Within low high (target.scope.size.get .y) := hextent
  obtain ⟨m, hm, hcount⟩ := hn.exists_tileCount hheight
  have hyields (d : Derivation Float32) :
      ((tileAlong .y height "Storey").run d target).Yields is (List.replicate m storey) [] d :=
    tileAlong_yields hcount (hm.trans hn.le_limit)
      (fun s extent hs hsize => hstorey s hs (by rw [hsize]; rfl)) d
  have hmatch (d : Derivation Float32) : visible.evaluate d target = (.ok false, d.stream) := by
    rw [evaluate_visible, hhidden]
  exact ⟨m, hm, fun d => RuleSet.rewrite_yields hsymbol hrules <| RuleSet.rewriteBy_skip_yields
    (Rule.matchShape_condition rfl hsymbol (hmatch d)) <| RuleSet.rewriteBy_always_yields hsymbol
      fun d => Action.runItems_single_yields (operations_yields (hyields d))⟩

end

end Cityscape.Catalog
