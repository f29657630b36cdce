import Mathlib
import Cityscape.Proofs.Grammar.Copies
import Cityscape.Proofs.Grammar.Slots
import Cityscape.Proofs.Random.Bounds
import Cityscape.Proofs.Scalar.Defined
import Cityscape.Proofs.Scalar.Rational

/-!
# Tiles that fill a shape

A repetition counts how many tiles of about the size asked for fill its target along each enabled
axis, and stretches them so that they fill it exactly. It is refused before it has entered anything,
or it enters one shape for each tile and symbol, layer by layer, in each layer along the first axis,
and in each column along the last. Where numbers are rational, the tiles cut the target into equal
pieces that are no larger than the size asked for.

## Main definitions

* `slotIndex`, `spacing?`, `tilingOf` — the value, the size and the tiles that an axis is given.
* `Tiling.Fits` — counts that a repetition may come to.
* `OrientedBox.tileAt`, `Fills` — where a tile lies, and where its shapes come in the history.
* `Evenly`, `Tiling.Partitions` — pieces that share out an extent, and tiles that cut up a box.
* `Operation.TileLists`, `Operation.TilesTarget`, `Operation.RefusesTarget` — what a repetition is
  given, and what it does.
* `Operation.TileFills` — it is refused or fills its target.

## Main statements

* `OrientedBox.getElem?_tiles` — the order of tiles.
* `partitions_of_tilingOf` — tiles cut up a box.
* `Operation.tile_fills_iff` — what a repetition does, and how its tiles lie.
-/

namespace Cityscape.Grammar

variable {α : Type}

/-! ## Tilings -/

namespace Tiling

/-- The number of tiles along an axis. -/
def count (t : Tiling α) : Axis → Nat
  | .x => t.countX
  | .y => t.countY
  | .z => t.countZ

/-- How many tiles come before the one with given numbers along the axes. -/
def number (t : Tiling α) (place : Axis → Nat) : Nat :=
  (place .y * t.countX + place .x) * t.countZ + place .z

/-- There is a tile along every axis, no more than one along an axis that is not enabled, and there
are not too many in all. -/
structure Fits (axes : List Bool) (t : Tiling α) : Prop where
  pos : ∀ axis, 1 ≤ t.count axis
  single : ∀ axis : Axis, axes[axis.index]? ≠ some true → t.count axis = 1
  few : t.countX * t.countY * t.countZ ≤ tileLimit

end Tiling

section

variable [Scalar α] {size : Vec3 α} {slots : List (Slot α)} {axes : List Bool} {t : Tiling α}
  {asked : Axis → Option α}

/-- The place of the value for an axis: values are for enabled axes only. -/
def slotIndex (axes : List Bool) (axis : Axis) : Nat := (axes.take axis.index).count true

/-- The size that is asked for along an axis; nothing when the axis is not enabled. -/
def spacing? (size : Vec3 α) (slots : List (Slot α)) (axes : List Bool) (axis : Axis) : Option α :=
  if axes[axis.index]? = some true then
    (slotSizes slots (size.get axis))[slotIndex axes axis]?
  else none

/-- The tiles that a repetition fills a box with; nothing when they are too many. -/
def tilingOf (size : Vec3 α) (slots : List (Slot α)) (axes : List Bool) : Option (Tiling α) :=
  tiling size (spacing? size slots axes .x) (spacing? size slots axes .y)
    (spacing? size slots axes .z)

theorem spacings_eq (size : Vec3 α) (slots : List (Slot α)) (h : axes.length = 3) :
    Operation.spacings size slots Axis.all axes 0 = Axis.all.map (spacing? size slots axes) := by
  obtain ⟨x, y, z, rfl⟩ := List.length_eq_three.1 h
  cases x <;> cases y <;> cases z <;> rfl

/-- Each axis is tiled by itself; only the number of all tiles is looked at together. -/
theorem tiling_eq_some_iff :
    tiling size (asked .x) (asked .y) (asked .z) = some t ↔
      (∀ axis, axisTiling (size.get axis) (asked axis) = some (t.count axis, t.tile.get axis)) ∧
        t.countX * t.countY * t.countZ ≤ tileLimit := by
  unfold tiling
  simp only [Option.bind_eq_bind, Option.bind_eq_some_iff]
  constructor
  · rintro ⟨⟨nx, sx⟩, hx, ⟨ny, sy⟩, hy, ⟨nz, sz⟩, hz, h⟩
    split at h
    next hfew =>
      cases h
      refine ⟨fun axis => ?_, hfew⟩
      cases axis
      exacts [hx, hy, hz]
    · cases h
  · rintro ⟨haxes, hfew⟩
    exact ⟨_, haxes .x, _, haxes .y, _, haxes .z, if_pos hfew⟩

end

/-! ## Places of tiles -/

section

variable [Scalar α] [Trigonometry α]

/-- The tile with given numbers along the axes: it lies as many tiles away from the corner of the
box, as the box is turned. -/
def OrientedBox.tileAt (p : OrientedBox α) (t : Tiling α) (place : Axis → Nat) : OrientedBox α :=
  let steps : Vec3 α :=
    ⟨Scalar.ofNat (place .x), Scalar.ofNat (place .y), Scalar.ofNat (place .z)⟩
  ⟨⟨p.scope.position + (Rotation.ofAngles p.rotation).apply (steps.stretch t.tile), t.tile⟩,
    p.rotation⟩

namespace OrientedBox

variable (p : OrientedBox α) (t : Tiling α)

theorem length_tiles : (p.tiles t).length = t.countX * t.countY * t.countZ := by
  unfold tiles
  rw [length_flatMap_of_length (n := t.countX * t.countZ)]
  · rw [List.length_range]
    ring
  · intro y _
    exact length_flatMap_range ..

/-- Tiles come layer by layer, in each layer along the first axis, and in each column along the last
axis. -/
theorem getElem?_tiles {place : Axis → Nat} (h : ∀ axis, place axis < t.count axis) :
    (p.tiles t)[t.number place]? = some (p.tileAt t place) := by
  have hx : place .x < t.countX := h .x
  have hy : place .y < t.countY := h .y
  have hz : place .z < t.countZ := h .z
  have hnumber : t.number place =
      place .y * (t.countX * t.countZ) + (place .x * t.countZ + place .z) := by
    unfold Tiling.number
    ring
  have hlayer : place .x * t.countZ + place .z < t.countX * t.countZ := by
    calc place .x * t.countZ + place .z < (place .x + 1) * t.countZ := by rw [Nat.succ_mul]; omega
      _ ≤ t.countX * t.countZ := Nat.mul_le_mul_right _ hx
  rw [hnumber, tiles, getElem?_flatMap_of_length _ hlayer, List.getElem?_range hy,
    Option.bind_some, getElem?_flatMap_of_length _ hz, List.getElem?_range hx, Option.bind_some,
    List.getElem?_map, List.getElem?_range hz]
  · rfl
  · simp
  · intro y _
    exact length_flatMap_range ..

end OrientedBox

/-- The shapes that fill a target with tiles: there is one for each tile and symbol, and before the
one for a tile and a symbol come those for all tiles before it, and for the symbols before it. -/
structure Fills (target : Shape α) (t : Tiling α) (symbols : List String)
    (shapes : List (Shape α)) : Prop where
  length : shapes.length = t.countX * t.countY * t.countZ * symbols.length
  tile {place : Axis → Nat} {i : Nat} (hi : i < symbols.length) :
    (∀ axis, place axis < t.count axis) →
      shapes[t.number place * symbols.length + i]? =
        some (target.child symbols[i] (target.box.tileAt t place))

theorem fills_copies (target : Shape α) (t : Tiling α) (symbols : List String) :
    Fills target t symbols (target.copies (target.box.tiles t) symbols) := by
  refine ⟨?_, fun hi hplace => ?_⟩
  · rw [Shape.length_copies, OrientedBox.length_tiles]
  · rw [Shape.getElem?_copies target _ symbols hi, OrientedBox.getElem?_tiles _ t hplace]
    rfl

end

/-! ## Counts of tiles -/

section

variable [Scalar α] {extent spacing : α} {n : Nat}

/-- How many tiles of about a size an extent asks for, before it is known whether they are too
many. -/
def wantedTiles (extent spacing : α) : α :=
  if 0 < spacing then Scalar.max (Scalar.ceil (extent / spacing)) 1 else 1

theorem tileCount_eq_some_iff :
    tileCount extent spacing = some n ↔
      (Scalar.isFinite (wantedTiles extent spacing) ∧
        wantedTiles extent spacing ≤ Scalar.ofNat tileLimit) ∧
      Scalar.whole (wantedTiles extent spacing) = n := by
  change (if _ then _ else _) = some n ↔ _
  rw [Option.ite_none_right_eq_some, Option.some_inj]
  rfl

/-- Whatever sizes are asked for, there is a tile. -/
def CountsTiles (α : Type) [Scalar α] : Prop :=
  ∀ {extent spacing : α} {n : Nat}, tileCount extent spacing = some n → 1 ≤ n

end

open Single in
/-- A count that is not refused is one of at least one, also when a size is infinite or not a
number. -/
theorem countsTiles_single : CountsTiles Float32 := by
  intro extent spacing n h
  obtain ⟨⟨-, hlimit⟩, rfl⟩ := tileCount_eq_some_iff.1 h
  have hone : Scalar.IsNumber (1 : Float32) := isNumber_of_isDefined toReal_one.1.isDefined
  have hlow : 1 ≤ wantedTiles extent spacing := by
    unfold wantedTiles
    split
    · exact Scalar.le_max_right hone _
    · exact hone.le_self
  obtain ⟨hlimitFinite, hlimitReal⟩ := toReal_ofNat (n := tileLimit) (by decide)
  have hfinite : Finite (wantedTiles extent spacing) := toReal_one.1.of_le hlimitFinite hlow hlimit
  have hreal : 1 ≤ toReal (wantedTiles extent spacing) := by
    rw [← toReal_one.2]
    exact (le_iff_toReal toReal_one.1 hfinite).1 hlow
  have hupper : toReal (wantedTiles extent spacing) ≤ tileLimit := by
    rw [← hlimitReal]
    exact (le_iff_toReal hfinite hlimitFinite).1 hlimit
  have hword : toReal (wantedTiles extent spacing) < 2 ^ 64 :=
    hupper.trans_lt (by norm_num [tileLimit])
  change 1 ≤ (wantedTiles extent spacing).toUInt64.toNat
  rw [toNat_toUInt64 hfinite (zero_le_one.trans hreal) hword]
  exact Nat.le_floor (by exact_mod_cast hreal)

/-! ## Pieces of an extent, in rational numbers -/

section

variable {extent spacing : ℚ} {asked : Option ℚ} {n : ℕ}

theorem wantedTiles_rat (extent spacing : ℚ) :
    wantedTiles extent spacing = (if 0 < spacing then max ⌈extent / spacing⌉ 1 else 1 : ℤ) := by
  unfold wantedTiles
  split
  · rw [Scalar.max_rat]
    push_cast
    rfl
  · exact Int.cast_one.symm

theorem tileCount_rat : tileCount extent spacing = some n ↔
    n = (if 0 < spacing then max ⌈extent / spacing⌉ 1 else 1 : ℤ) ∧ n ≤ tileLimit := by
  have hpos : 0 ≤ (if 0 < spacing then max ⌈extent / spacing⌉ 1 else 1 : ℤ) := by
    split <;> omega
  obtain ⟨m, hm⟩ := Int.eq_ofNat_of_zero_le hpos
  have hwhole : Scalar.whole (m : ℚ) = m := by
    change ⌊(m : ℚ)⌋.toNat = m
    rw [Int.floor_natCast, Int.toNat_natCast]
  rw [tileCount_eq_some_iff, wantedTiles_rat, hm, Int.cast_natCast, hwhole]
  change (true = true ∧ (m : ℚ) ≤ (tileLimit : ℕ)) ∧ m = n ↔ _
  rw [Nat.cast_le, Nat.cast_inj]
  constructor
  · rintro ⟨⟨-, hfew⟩, rfl⟩
    exact ⟨rfl, hfew⟩
  · rintro ⟨rfl, hfew⟩
    exact ⟨⟨rfl, hfew⟩, rfl⟩

theorem countsTiles_rat : CountsTiles ℚ := by
  intro extent spacing n h
  have hn := (tileCount_rat.1 h).1
  split at hn <;> omega

/-- Some pieces of one size share out an extent: they fill it, and none is larger than the size
asked for, if that is above zero; and no smaller number of pieces would do. -/
structure Evenly (extent : ℚ) (asked : Option ℚ) (n : ℕ) (piece : ℚ) : Prop where
  pos : 1 ≤ n
  fills : n * piece = extent
  le {spacing : ℚ} : asked = some spacing → 0 < spacing → piece ≤ spacing
  fewest {spacing : ℚ} {m : ℕ} : asked = some spacing → 0 < spacing → 1 ≤ m →
    extent / m ≤ spacing → n ≤ m

theorem evenly_of_axisTiling {piece : ℚ} (h : axisTiling extent asked = some (n, piece)) :
    Evenly extent asked n piece := by
  cases asked with
  | none =>
    cases h
    exact ⟨le_rfl, by simp, nofun, nofun⟩
  | some spacing =>
    obtain ⟨n, hcount, heq⟩ := Option.map_eq_some_iff.1 h
    cases heq
    have hpos : 1 ≤ n := countsTiles_rat hcount
    have hn0 : (0 : ℚ) < n := by exact_mod_cast hpos
    refine ⟨hpos, mul_div_cancel₀ extent hn0.ne', ?_, ?_⟩
    · rintro _ ⟨⟩ hspacing
      have hn := (tileCount_rat.1 hcount).1
      rw [if_pos hspacing] at hn
      have hceil : (⌈extent / spacing⌉ : ℚ) ≤ n := by exact_mod_cast hn ▸ le_max_left _ _
      have hle : extent / spacing ≤ n := (Int.le_ceil _).trans hceil
      rw [div_le_iff₀ hspacing] at hle
      exact (div_le_iff₀' hn0).2 hle
    · rintro _ m ⟨⟩ hspacing hm hle
      have hn := (tileCount_rat.1 hcount).1
      rw [if_pos hspacing] at hn
      rw [div_le_iff₀' (by positivity), ← div_le_iff₀ hspacing] at hle
      have hceil : ⌈extent / spacing⌉ ≤ m := Int.ceil_le.2 (by exact_mod_cast hle)
      omega

/-- Each place of an extent lies in one of its pieces. -/
theorem Evenly.existsUnique {piece p : ℚ} (h : Evenly extent asked n piece) (h0 : 0 ≤ p)
    (hp : p < extent) : ∃! k : ℕ, k < n ∧ k * piece ≤ p ∧ p < (k + 1) * piece := by
  have hn : (0 : ℚ) < n := by exact_mod_cast h.pos
  have hpiece : 0 < piece := by
    have hextent : 0 < n * piece := h.fills ▸ h0.trans_lt hp
    exact (mul_pos_iff_of_pos_left hn).1 hextent
  have hiff : ∀ k : ℕ, k * piece ≤ p ∧ p < (k + 1) * piece ↔ ⌊p / piece⌋₊ = k := by
    intro k
    rw [Nat.floor_eq_iff (by positivity), le_div_iff₀ hpiece, div_lt_iff₀ hpiece]
  have hlt : ⌊p / piece⌋₊ < n := by
    rw [Nat.floor_lt (by positivity), div_lt_iff₀ hpiece, h.fills]
    exact hp
  refine ⟨⌊p / piece⌋₊, ⟨hlt, (hiff _).2 rfl⟩, ?_⟩
  rintro k ⟨-, hk⟩
  exact ((hiff k).1 hk).symm

/-- In rational numbers, tiles cut up a box: along each axis they share out its extent evenly, and
each place inside, told by its distances from the corner along the axes, lies in one of them. -/
structure Tiling.Partitions (size : Vec3 ℚ) (asked : Axis → Option ℚ) (t : Tiling ℚ) : Prop where
  evenly : ∀ axis, Evenly (size.get axis) (asked axis) (t.count axis) (t.tile.get axis)
  covers : ∀ p : Axis → ℚ, (∀ axis, 0 ≤ p axis ∧ p axis < size.get axis) →
    ∃! place : Axis → ℕ, ∀ axis, place axis < t.count axis ∧
      place axis * t.tile.get axis ≤ p axis ∧ p axis < (place axis + 1) * t.tile.get axis

theorem partitions_of_tilingOf {size : Vec3 ℚ} {slots : List (Slot ℚ)} {axes : List Bool}
    {t : Tiling ℚ} (h : tilingOf size slots axes = some t) :
    t.Partitions size (spacing? size slots axes) := by
  have hevenly : ∀ axis, Evenly (size.get axis) (spacing? size slots axes axis) (t.count axis)
      (t.tile.get axis) := fun axis => evenly_of_axisTiling ((tiling_eq_some_iff.1 h).1 axis)
  refine ⟨hevenly, fun p hp => ?_⟩
  choose place hplace hunique using fun axis => (hevenly axis).existsUnique (hp axis).1 (hp axis).2
  exact ⟨place, hplace, fun other hother => funext fun axis => hunique axis _ (hother axis)⟩

end

/-! ## Repetitions -/

section

variable [Scalar α] {size : Vec3 α} {slots : List (Slot α)} {axes : List Bool} {t : Tiling α}

/-- A tiling that is not refused has fitting counts. -/
theorem fits_of_tilingOf (hcounts : CountsTiles α) (h : tilingOf size slots axes = some t) :
    t.Fits axes := by
  obtain ⟨haxes, hfew⟩ := tiling_eq_some_iff.1 h
  have hnone : ∀ axis, spacing? size slots axes axis = none → t.count axis = 1 := by
    intro axis hasked
    have haxis := haxes axis
    rw [hasked, axisTiling, Option.some_inj, Prod.mk.injEq] at haxis
    exact haxis.1.symm
  refine ⟨fun axis => ?_, fun axis hdisabled => hnone axis (if_neg hdisabled), hfew⟩
  cases hasked : spacing? size slots axes axis with
  | none => exact (hnone axis hasked).ge
  | some spacing =>
    have haxis := haxes axis
    rw [hasked, axisTiling, Option.map_eq_some_iff] at haxis
    obtain ⟨n, hn, heq⟩ := haxis
    rw [Prod.mk.injEq] at heq
    exact heq.1 ▸ hcounts hn

end

open Single in
/-- The number of a value between bounds that are finite, but too far apart, cannot be drawn. -/
theorem Value.computeAll_eq_error (low high : Float32) (hlow : Finite low) (hhigh : Finite high)
    (hlt : low < high) (hwidth : ¬ Finite ((high - low) / RandomStream.greatestFraction))
    (current : Scope Float32) (s : RandomStream) :
    computeAll current [random false (.number false low) (.number false high)] s =
      .error .badInterval := by
  have hrandom : compute current (random false (.number false low) (.number false high)) s =
      .error .badInterval := RandomStream.range_eq_error hlow hhigh hlt hwidth s
  rw [computeAll, hrandom]
  rfl

namespace Operation

variable [Scalar α] [Trigonometry α]

/-- There are flags for three axes, at least one of which is enabled, and a value and a symbol for
each enabled axis. -/
structure TileLists (axes : List Bool) (values : List (Value α)) (symbols : List String) :
    Prop where
  symbols : values.length = symbols.length
  flags : axes.length = 3
  enabled : axes.any id = true
  values : axes.count true = values.length

/-- A repetition fills its target: the numbers of its values have a tiling with fitting counts, and
the shapes that fill the target with its tiles are entered. -/
def TilesTarget (axes : List Bool) (values : List (Value α)) (symbols : List String)
    (d : Derivation α) (target : Shape α) (e : Effect α) : Prop :=
  ∃ numbers stream t shapes,
    Value.computeAll d.currentScope values d.stream = .ok (numbers, stream) ∧
      tilingOf target.scope.size (slotsOf values numbers) axes = some t ∧ t.Fits axes ∧
      Fills target t symbols shapes ∧ e = .done (({ d with stream }).spawnAll shapes) target

/-- A repetition is refused, and has not entered anything. -/
def RefusesTarget (d : Derivation α) (target : Shape α) (e : Effect α) : Prop :=
  ∃ error stream, e = .refuse { d with stream } target error

variable {axes : List Bool} {values : List (Value α)} {symbols : List String} {d : Derivation α}
  {target : Shape α}

theorem runTile_of_not_lists (h : ¬ TileLists axes values symbols) (d : Derivation α)
    (target : Shape α) :
    RefusesTarget d target (runTile axes values symbols d target) := by
  unfold runTile
  split_ifs with hsymbols hflags hvalues
  · exact ⟨_, d.stream, rfl⟩
  · exact ⟨_, d.stream, rfl⟩
  · exact ⟨_, d.stream, rfl⟩
  · have henabled : axes.length = 3 ∧ axes.any id = true := by simpa using hflags
    exact absurd ⟨not_not.1 hsymbols, henabled.1, henabled.2, not_not.1 hvalues⟩ h

/-- What is done with the numbers of the values. -/
theorem runTile_of_lists (h : TileLists axes values symbols) :
    runTile axes values symbols d target = Effect.withValues d target values fun d numbers =>
      match tilingOf target.scope.size (slotsOf values numbers) axes with
      | some t => .done (d.spawnAll (target.copies (target.box.tiles t) symbols)) target
      | none => .refuse d target (.repeatLimit tileLimit) := by
  have hflags : ¬ (axes.length ≠ 3 ∨ !axes.any id) := by simp [h.flags, h.enabled]
  unfold runTile
  rw [if_neg (not_not.2 h.symbols), if_neg hflags, if_neg (not_not.2 h.values)]
  simp only [spacings_eq _ _ h.flags, spawnParts_eq]
  rfl

/-- A repetition of any values on any target is refused before it has entered anything, or it fills
its target. The one exception is a repetition whose values cannot be computed. -/
def TileFills (α : Type) [Scalar α] [Trigonometry α] : Prop :=
  ∀ (axes : List Bool) (values : List (Value α)) (symbols : List String) (d : Derivation α)
    (target : Shape α),
    RefusesTarget d target ((tile axes values symbols).run d target) ∨
        TilesTarget axes values symbols d target ((tile axes values symbols).run d target) ↔
      (TileLists axes values symbols →
        ∃ result, Value.computeAll d.currentScope values d.stream = .ok result)

theorem tileFills (hcounts : CountsTiles α) : TileFills α := by
  intro axes values symbols d target
  change RefusesTarget d target (runTile axes values symbols d target) ∨
    TilesTarget axes values symbols d target (runTile axes values symbols d target) ↔ _
  by_cases hlists : TileLists axes values symbols
  · rw [runTile_of_lists hlists, Effect.withValues]
    cases hvalues : Value.computeAll d.currentScope values d.stream with
    | error fault =>
      refine iff_of_false ?_ ?_
      · rintro (⟨error, stream, he⟩ | ⟨numbers, stream, t, shapes, hcomputed, -⟩)
        · cases congrArg Effect.stop he
        · cases hcomputed.symm.trans hvalues
      · intro hresult
        obtain ⟨_, ⟨⟩⟩ := hresult hlists
    | ok result =>
      obtain ⟨numbers, stream⟩ := result
      refine iff_of_true ?_ fun _ => ⟨_, rfl⟩
      cases htiling : tilingOf target.scope.size (slotsOf values numbers) axes with
      | none => exact .inl ⟨.repeatLimit tileLimit, stream, by simp only [htiling]⟩
      | some t =>
        exact .inr ⟨numbers, stream, t, _, hvalues, htiling, fits_of_tilingOf hcounts htiling,
          fills_copies target t symbols, by simp only [htiling]⟩
  · exact iff_of_true (.inl (runTile_of_not_lists hlists d target)) fun h => absurd h hlists

/-- A repetition is refused or fills its target, with numbers of single precision, which may be
infinite or not numbers, and with rational numbers. In rational numbers the tiles cut up the target,
and none is larger than the size asked for. -/
theorem tile_fills_iff [Trigonometry Float32] [Trigonometry ℚ] :
    TileFills Float32 ∧ TileFills ℚ ∧
      ∀ (size : Vec3 ℚ) (slots : List (Slot ℚ)) (axes : List Bool) (t : Tiling ℚ),
        tilingOf size slots axes = some t → t.Partitions size (spacing? size slots axes) :=
  ⟨tileFills countsTiles_single, tileFills countsTiles_rat, fun _ _ _ _ => partitions_of_tilingOf⟩

/-- A wall without depth. -/
def wall : Shape Float32 := .ofBox (some "wall") ⟨⟨⟨0, 0, 0⟩, ⟨10, 7, 0⟩⟩, ⟨0, 0, 0⟩⟩

/-- Windows of about three by three. -/
def windows : List (Value Float32) := [.number false 3, .number false 3]

theorem tile_fills_iff_windows :
    (RefusesTarget (.ofSeed 0) wall
        ((tile [true, true, false] windows ["window", "sill"]).run (.ofSeed 0) wall) ∨
      TilesTarget [true, true, false] windows ["window", "sill"] (.ofSeed 0) wall
        ((tile [true, true, false] windows ["window", "sill"]).run (.ofSeed 0) wall)) ∧
      Tiling.Partitions ⟨10, 7, 0⟩
        (spacing? ⟨10, 7, 0⟩ [⟨3, false⟩, ⟨3, false⟩] [true, true, false])
        ⟨4, 3, 1, ⟨10 / 4, 7 / 3, 0⟩⟩ :=
  let _ : Trigonometry ℚ := rightAngles
  ⟨(tile_fills_iff.1 _ _ _ _ _).2 fun _ => ⟨_, rfl⟩, tile_fills_iff.2.2 _ _ _ _
    (tiling_eq_some_iff.2 ⟨fun axis => by cases axis <;> decide +kernel, by decide⟩)⟩

/-- A size that is drawn between bounds that are finite, but too far apart. -/
def wild : Value Float32 := .random false (.number false (-3e38)) (.number false 3e38)

/-- A wall without depth and width. -/
def pole : Shape Float32 := .ofBox (some "pole") ⟨⟨⟨0, 0, 0⟩, ⟨0, 7, 0⟩⟩, ⟨0, 0, 0⟩⟩

/-- A repetition whose size cannot be drawn is neither refused, nor does it fill its target. -/
theorem tile_wild :
    ((tile [true, false, false] [wild] ["pane"]).run (.ofSeed 0) pole).stop =
        some (.fault .badInterval) ∧
      ¬ RefusesTarget (.ofSeed 0) pole
        ((tile [true, false, false] [wild] ["pane"]).run (.ofSeed 0) pole) ∧
      ¬ TilesTarget [true, false, false] [wild] ["pane"] (.ofSeed 0) pole
        ((tile [true, false, false] [wild] ["pane"]).run (.ofSeed 0) pole) := by
  have hstop : ((tile [true, false, false] [wild] ["pane"]).run (.ofSeed 0) pole).stop =
      some (.fault .badInterval) := by
    have hvalues := Value.computeAll_eq_error (-3e38) 3e38 (by decide +kernel)
      (by decide +kernel) (by decide +kernel) (by decide +kernel)
      (Derivation.ofSeed (α := Float32) 0).currentScope (Derivation.ofSeed (α := Float32) 0).stream
    change (runTile [true, false, false] [wild] ["pane"] (.ofSeed 0) pole).stop = _
    rw [runTile_of_lists ⟨rfl, rfl, rfl, rfl⟩, Effect.withValues, wild, hvalues]
    rfl
  refine ⟨hstop, ?_, ?_⟩
  · rintro ⟨error, stream, he⟩
    cases (congrArg Effect.stop he).symm.trans hstop
  · rintro ⟨numbers, stream, t, shapes, -, -, -, -, he⟩
    cases (congrArg Effect.stop he).symm.trans hstop

end Operation

end Cityscape.Grammar
