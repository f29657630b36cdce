import Cityscape.Proofs.Grammar.Tiles
import Cityscape.Proofs.Scalar.Signs

/-!
# Tiles along one axis

A repetition tiles each enabled axis by itself, but it shares out the extent of an axis among the
values for all of the axes, as if they were slots along that one. So the tiles along an axis are
settled by its own extent and value if the value is absolute, if it is zero, or if there is no
extent to tile. A relative value shares what the values for other axes leave, and in rational
numbers there is always another value that changes its tiles.

## Main definitions

* `Slot.Settles` — the values that settle the tiles along an extent.
* `TiledAlone` — values that keep the tiles whatever is asked for along other axes.
* `surround` — one value for an axis, and another one for every other axis.
* `Operation.Lays` — the numbers and the tiles of a repetition that is not refused.

## Main statements

* `axisTiling_of_settles` — a value that settles the tiles.
* `settles_iff_tiledAlone` — only those values keep the tiles.
* `Operation.tile_axis_iff` — on what the tiles along one axis depend.
-/

namespace Cityscape.Grammar

variable {α : Type}

/-! ## Values that settle the tiles -/

section

variable [Scalar α] {size size' : Vec3 α} {slots slots' : List (Slot α)} {axes : List Bool}
  {axis : Axis} {slot : Slot α} {t t' : Tiling α}

/-- A value settles the tiles along an extent when it is absolute, when it is zero or not a number,
and when the extent is not above zero. -/
def Slot.Settles (slot : Slot α) (extent : α) : Prop :=
  slot.relative = false ∨ ¬ (slot.value < 0 ∨ 0 < slot.value) ∨ ¬ 0 < extent

/-- The size that is asked for along an enabled axis is the one of its slot. -/
theorem spacing?_of_getElem? (henabled : axes[axis.index]? = some true)
    (hslot : slots[slotIndex axes axis]? = some slot) :
    spacing? size slots axes axis =
      some (slot.size (size.get axis - slotSum false slots) (slotSum true slots)) := by
  unfold spacing? slotSizes
  rw [if_pos henabled, List.getElem?_map, hslot]
  rfl

/-- What is asked for with a share of zero is not above zero, and an extent that is not above zero
gets one tile. -/
structure TilesBlank (α : Type) [Scalar α] : Prop where
  share {slot : Slot α} : slot.relative = true → ¬ (slot.value < 0 ∨ 0 < slot.value) →
    ∀ rest shares, ¬ 0 < slot.size rest shares
  extent {extent : α} : ¬ 0 < extent → ∀ spacing, wantedTiles extent spacing = 1

theorem axisTiling_congr {extent spacing spacing' : α}
    (h : wantedTiles extent spacing = wantedTiles extent spacing') :
    axisTiling extent (some spacing) = axisTiling extent (some spacing') := by
  have hcount : tileCount extent spacing = tileCount extent spacing' := by
    ext n
    rw [tileCount_eq_some_iff, tileCount_eq_some_iff, h]
  rw [axisTiling, hcount, axisTiling]

/-- The tiles for a value that settles them do not depend on what is left over or shared. -/
theorem axisTiling_of_settles (hblank : TilesBlank α) {extent : α} (h : slot.Settles extent)
    (rest rest' shares shares' : α) :
    axisTiling extent (some (slot.size rest shares)) =
      axisTiling extent (some (slot.size rest' shares')) := by
  refine axisTiling_congr ?_
  obtain habsolute | hzero | hextent := h
  · unfold Slot.size
    rw [habsolute]
    rfl
  · cases hrelative : slot.relative with
    | false =>
      unfold Slot.size
      rw [hrelative]
      rfl
    | true =>
      unfold wantedTiles
      rw [if_neg (hblank.share hrelative hzero _ _), if_neg (hblank.share hrelative hzero _ _)]
  · rw [hblank.extent hextent, hblank.extent hextent]

/-- Two tilings for the same extent and slot of an axis agree on it if the slot settles its tiles,
or if the sums of all slots are the same. -/
theorem tiles_eq_of_settles (hblank : TilesBlank α) (henabled : axes[axis.index]? = some true)
    (hextent : size.get axis = size'.get axis) (hslot : slots[slotIndex axes axis]? = some slot)
    (hslot' : slots'[slotIndex axes axis]? = some slot)
    (h : slot.Settles (size.get axis) ∨
      ∀ relative, slotSum relative slots = slotSum relative slots')
    (ht : tilingOf size slots axes = some t) (ht' : tilingOf size' slots' axes = some t') :
    t.count axis = t'.count axis ∧ t.tile.get axis = t'.tile.get axis := by
  have haxis := (tiling_eq_some_iff.1 ht).1 axis
  have haxis' := (tiling_eq_some_iff.1 ht').1 axis
  rw [spacing?_of_getElem? henabled hslot] at haxis
  rw [spacing?_of_getElem? henabled hslot', ← hextent] at haxis'
  have heq : axisTiling (size.get axis)
        (some (slot.size (size.get axis - slotSum false slots) (slotSum true slots))) =
      axisTiling (size.get axis)
        (some (slot.size (size.get axis - slotSum false slots') (slotSum true slots'))) := by
    obtain hsettles | hsums := h
    · exact axisTiling_of_settles hblank hsettles _ _ _ _
    · rw [hsums, hsums]
  rw [heq, haxis', Option.some_inj, Prod.mk.injEq] at haxis
  exact ⟨haxis.1.symm, haxis.2.symm⟩

end

open Single in
theorem tilesBlank_single : TilesBlank Float32 where
  share := by
    intro slot hrelative hzero rest shares
    rw [not_or] at hzero
    have hnull : Null slot.value := null_of_not_lt hzero.1 hzero.2
    unfold Slot.size
    rw [if_pos hrelative]
    split
    · exact Null.not_pos (a := 0) trivial
    · exact ((hnull.mul_right rest).div shares).not_pos
  extent := by
    intro extent hextent spacing
    unfold wantedTiles
    split
    next hspacing => exact max_one_of_not_pos (not_pos_ceil (not_pos_div hextent hspacing))
    · rfl

theorem tilesBlank_rat : TilesBlank ℚ where
  share := by
    intro slot hrelative hzero rest shares
    rw [not_or, not_lt, not_lt] at hzero
    have hvalue : slot.value = 0 := le_antisymm hzero.2 hzero.1
    simp [Slot.size, hrelative, hvalue]
  extent := by
    intro extent hextent spacing
    rw [wantedTiles_rat]
    split
    next hspacing =>
      have hquotient : ⌈extent / spacing⌉ ≤ 0 := by
        rw [Int.ceil_le, Int.cast_zero]
        exact div_nonpos_of_nonpos_of_nonneg (not_lt.1 hextent) hspacing.le
      rw [max_eq_right (by omega), Int.cast_one]
    · exact Int.cast_one

/-! ## Values that do not, in rational numbers -/

section

variable {slot fill : Slot ℚ} {k j : ℕ} {size : Vec3 ℚ} {slots : List (Slot ℚ)} {axes : List Bool}
  {axis : Axis} {t : Tiling ℚ} {n : ℕ} {extent spacing : ℚ}

/-- A slot with others of one kind before and behind it. -/
def surround (slot fill : Slot α) (k j : ℕ) : List (Slot α) :=
  List.replicate k fill ++ slot :: List.replicate j fill

theorem slotSum_append (relative : Bool) (slots slots' : List (Slot ℚ)) :
    slotSum relative (slots ++ slots') = slotSum relative slots + slotSum relative slots' := by
  simp [slotSum]

theorem slotSum_replicate (relative : Bool) (n : ℕ) (fill : Slot ℚ) :
    slotSum relative (List.replicate n fill) =
      n * if fill.relative = relative then fill.value else 0 := by
  induction n with
  | zero => simp [slotSum]
  | succ n ih =>
    rw [List.replicate_succ, slotSum_cons, ih]
    push_cast
    ring

theorem slotSum_surround (relative : Bool) (slot fill : Slot ℚ) (k j : ℕ) :
    slotSum relative (surround slot fill k j) =
      (if slot.relative = relative then slot.value else 0) +
        (k + j) * if fill.relative = relative then fill.value else 0 := by
  rw [surround, slotSum_append, slotSum_cons, slotSum_replicate, slotSum_replicate]
  ring

theorem exists_tilingOf (h : ∀ axis spacing, spacing? size slots axes axis = some spacing →
    ∃ n ≤ 3, tileCount (size.get axis) spacing = some n) :
    ∃ t, tilingOf size slots axes = some t := by
  have haxes : ∀ axis, ∃ n ≤ 3, ∃ piece,
      axisTiling (size.get axis) (spacing? size slots axes axis) = some (n, piece) := by
    intro axis
    cases hasked : spacing? size slots axes axis with
    | none => exact ⟨1, by omega, _, rfl⟩
    | some spacing =>
      obtain ⟨n, hn, hcount⟩ := h axis spacing hasked
      exact ⟨n, hn, _, by rw [axisTiling, hcount]; rfl⟩
  choose count hcount piece hpiece using haxes
  refine ⟨⟨count .x, count .y, count .z, ⟨piece .x, piece .y, piece .z⟩⟩,
    tiling_eq_some_iff.2 ⟨fun axis => ?_, ?_⟩⟩
  · cases axis <;> exact hpiece _
  · calc count .x * count .y * count .z ≤ 3 * 3 * 3 :=
        Nat.mul_le_mul (Nat.mul_le_mul (hcount .x) (hcount .y)) (hcount .z)
      _ ≤ tileLimit := by decide

theorem count_of_tilingOf (ht : tilingOf size slots axes = some t)
    (hspacing : spacing? size slots axes axis = some spacing)
    (hcount : tileCount (size.get axis) spacing = some n) : t.count axis = n := by
  have haxis := (tiling_eq_some_iff.1 ht).1 axis
  rw [hspacing, axisTiling, hcount, Option.map_some, Option.some_inj, Prod.mk.injEq] at haxis
  exact haxis.1.symm

theorem tileCount_part (hextent : 0 < extent) (hpos : 1 ≤ n) (hfew : n ≤ tileLimit) :
    tileCount extent (extent / n) = some n := by
  have hn : (0 : ℚ) < n := by exact_mod_cast hpos
  rw [tileCount_rat, if_pos (div_pos hextent hn), div_div_cancel₀ hextent.ne', Int.ceil_natCast]
  omega

theorem tileCount_whole (h : ¬ 0 < spacing ∨ extent ≤ spacing) :
    tileCount extent spacing = some 1 := by
  rw [tileCount_rat]
  refine ⟨?_, by decide⟩
  split
  next hspacing =>
    have hceil : ⌈extent / spacing⌉ ≤ 1 := by
      rw [Int.ceil_le, Int.cast_one, div_le_one₀ hspacing]
      exact h.resolve_left (not_not.2 hspacing)
    omega
  · rfl

theorem exists_slot_of_spacing? (h : spacing? size slots axes axis = some spacing) :
    ∃ slot ∈ slots,
      spacing = slot.size (size.get axis - slotSum false slots) (slotSum true slots) := by
  unfold spacing? slotSizes at h
  split at h
  · rw [List.getElem?_map, Option.map_eq_some_iff] at h
    obtain ⟨slot, hslot, rfl⟩ := h
    exact ⟨slot, List.mem_of_getElem? hslot, rfl⟩
  · cases h

theorem getElem?_surround (slot fill : Slot ℚ) (k j : ℕ) :
    (surround slot fill k j)[k]? = some slot := by
  rw [surround, List.getElem?_append_right (by rw [List.length_replicate]), List.length_replicate,
    Nat.sub_self]
  rfl

theorem eq_of_mem_surround {s : Slot ℚ} (h : s ∈ surround slot fill k j) : s = slot ∨ s = fill := by
  simp only [surround, List.mem_append, List.mem_cons, List.mem_replicate] at h
  tauto

/-- Slots that share an extent equally ask for equal parts of it. -/
theorem size_equal_parts (hrelative : slot.relative = true) (hvalue : slot.value ≠ 0)
    (extent : ℚ) :
    slot.size (extent - slotSum false (surround slot slot k j))
      (slotSum true (surround slot slot k j)) = extent / (k + 1 + j : ℕ) := by
  have hcount : ((k + 1 + j : ℕ) : ℚ) ≠ 0 := Nat.cast_ne_zero.2 (by omega)
  have hfalse : slotSum false (surround slot slot k j) = 0 := by
    simp [slotSum_surround, hrelative]
  have htrue : slotSum true (surround slot slot k j) = (k + 1 + j : ℕ) * slot.value := by
    rw [slotSum_surround, if_pos hrelative]
    push_cast
    ring
  rw [hfalse, htrue, sub_zero, Slot.size, if_pos hrelative,
    if_neg (by rw [beq_iff_eq]; exact mul_ne_zero hcount hvalue), mul_comm slot.value,
    mul_div_mul_right _ _ hvalue]

/-- Where all slots share the extents in equal parts, an axis with an extent gets as many tiles as
there are slots. -/
theorem tilingOf_equal_parts (hrelative : slot.relative = true) (hvalue : slot.value ≠ 0)
    (hfew : k + j ≤ 2) (henabled : axes[axis.index]? = some true) (hk : slotIndex axes axis = k)
    (hextent : 0 < size.get axis) :
    ∃ t, tilingOf size (surround slot slot k j) axes = some t ∧ t.count axis = k + 1 + j := by
  have hpart {extent : ℚ} (h : 0 < extent) :
      tileCount extent (extent / (k + 1 + j : ℕ)) = some (k + 1 + j) :=
    tileCount_part h (by omega) (by unfold tileLimit; omega)
  have htiles : ∀ axis spacing,
      spacing? size (surround slot slot k j) axes axis = some spacing →
        ∃ n ≤ 3, tileCount (size.get axis) spacing = some n := by
    intro axis spacing hspacing
    obtain ⟨s, hs, rfl⟩ := exists_slot_of_spacing? hspacing
    obtain rfl : s = slot := (eq_of_mem_surround hs).elim id id
    rw [size_equal_parts hrelative hvalue]
    by_cases hpos : 0 < size.get axis
    · exact ⟨k + 1 + j, by omega, hpart hpos⟩
    · refine ⟨1, by omega, tileCount_whole (.inl ?_)⟩
      rw [not_lt] at hpos ⊢
      exact div_nonpos_of_nonpos_of_nonneg hpos (Nat.cast_nonneg _)
  obtain ⟨t, ht⟩ := exists_tilingOf htiles
  have hslot : (surround slot slot k j)[slotIndex axes axis]? = some slot := by
    rw [hk]
    exact getElem?_surround slot slot k j
  have hspacing : spacing? size (surround slot slot k j) axes axis = _ :=
    spacing?_of_getElem? henabled hslot
  rw [size_equal_parts hrelative hvalue] at hspacing
  exact ⟨t, ht, count_of_tilingOf ht hspacing (hpart hextent)⟩

/-- Where all other slots ask for more than there is of any extent, nothing is left to share, and
there is one tile. -/
theorem tilingOf_nothing_left {large : ℚ} (hrelative : slot.relative = true)
    (hvalue : slot.value ≠ 0) (hmany : 1 ≤ k + j) (henabled : axes[axis.index]? = some true)
    (hk : slotIndex axes axis = k) (hlarge : ∀ axis, size.get axis ≤ large) (hpos : 0 < large) :
    ∃ t, tilingOf size (surround slot ⟨large, false⟩ k j) axes = some t ∧ t.count axis = 1 := by
  let fill : Slot ℚ := ⟨large, false⟩
  have hfalse : slotSum false (surround slot fill k j) = (k + j) * large := by
    simp [slotSum_surround, hrelative, fill]
  have htrue : slotSum true (surround slot fill k j) = slot.value := by
    simp [slotSum_surround, hrelative, fill]
  have hrest : ∀ axis, size.get axis - (k + j) * large ≤ 0 := by
    intro axis
    have hone : (1 : ℚ) ≤ k + j := by exact_mod_cast hmany
    have hmore : 1 * large ≤ (k + j) * large := mul_le_mul_of_nonneg_right hone hpos.le
    linarith [hlarge axis]
  have hone : ∀ axis, ∀ s, s = slot ∨ s = fill →
      tileCount (size.get axis) (s.size (size.get axis - slotSum false (surround slot fill k j))
        (slotSum true (surround slot fill k j))) = some 1 := by
    intro axis s hs
    obtain rfl | rfl := hs
    · refine tileCount_whole (.inl ?_)
      rw [hfalse, htrue, Slot.size, if_pos hrelative, if_neg (by simp [hvalue]),
        mul_div_cancel_left₀ _ hvalue, not_lt]
      exact hrest axis
    · exact tileCount_whole (.inr (hlarge axis))
  have htiles : ∀ axis spacing, spacing? size (surround slot fill k j) axes axis = some spacing →
      ∃ n ≤ 3, tileCount (size.get axis) spacing = some n := by
    intro axis spacing hspacing
    obtain ⟨s, hs, rfl⟩ := exists_slot_of_spacing? hspacing
    exact ⟨1, by omega, hone axis s (eq_of_mem_surround hs)⟩
  obtain ⟨t, ht⟩ := exists_tilingOf htiles
  have hslot : (surround slot fill k j)[slotIndex axes axis]? = some slot := by
    rw [hk]
    exact getElem?_surround slot fill k j
  exact ⟨t, ht,
    count_of_tilingOf ht (spacing?_of_getElem? henabled hslot) (hone axis slot (.inl rfl))⟩

/-- Whatever is asked for along other axes, the tiles along an axis are the same as long as
repetitions are not refused. -/
def TiledAlone (size : Vec3 ℚ) (axes : List Bool) (axis : Axis) (slot : Slot ℚ) : Prop :=
  ∀ (slots slots' : List (Slot ℚ)) (t t' : Tiling ℚ),
    slots.length = axes.count true → slots'.length = axes.count true →
    slots[slotIndex axes axis]? = some slot → slots'[slotIndex axes axis]? = some slot →
    tilingOf size slots axes = some t → tilingOf size slots' axes = some t' →
    t.count axis = t'.count axis ∧ t.tile.get axis = t'.tile.get axis

theorem count_true_eq (henabled : axes[axis.index]? = some true) :
    axes.count true = slotIndex axes axis + 1 + (axes.drop (axis.index + 1)).count true := by
  obtain ⟨hlt, htrue⟩ := List.getElem?_eq_some_iff.1 henabled
  conv_lhs => rw [← List.take_append_drop axis.index axes, List.drop_eq_getElem_cons hlt, htrue]
  rw [List.count_append, List.count_cons_self, slotIndex]
  omega

theorem exists_large (size : Vec3 ℚ) : ∃ large, ∀ axis, size.get axis ≤ large := by
  refine ⟨max (max size.x size.y) size.z, fun axis => ?_⟩
  cases axis with
  | x => exact le_max_of_le_left (le_max_left _ _)
  | y => exact le_max_of_le_left (le_max_right _ _)
  | z => exact le_max_right _ _

/-- Only a value that settles the tiles along its axis keeps them whatever is asked for along other
enabled axes. -/
theorem settles_iff_tiledAlone (hflags : axes.length = 3) (henabled : axes[axis.index]? = some true)
    (hmany : 2 ≤ axes.count true) :
    slot.Settles (size.get axis) ↔ TiledAlone size axes axis slot := by
  constructor
  · intro hsettles slots slots' t t' _ _ hslot hslot' ht ht'
    exact tiles_eq_of_settles tilesBlank_rat henabled rfl hslot hslot' (.inl hsettles) ht ht'
  · intro halone
    by_contra hnot
    unfold Slot.Settles at hnot
    rw [not_or, not_or, not_not, not_not, Bool.not_eq_false] at hnot
    obtain ⟨hrelative, hsign, hextent⟩ := hnot
    have hvalue : slot.value ≠ 0 := hsign.elim LT.lt.ne LT.lt.ne'
    obtain ⟨large, hlarge⟩ := exists_large size
    have hcount := count_true_eq henabled
    have hfew : axes.count true ≤ 3 := hflags ▸ List.count_le_length
    generalize (axes.drop (axis.index + 1)).count true = j at hcount
    generalize hk : slotIndex axes axis = k at hcount
    have hlength (fill : Slot ℚ) : (surround slot fill k j).length = axes.count true := by
      rw [surround, List.length_append, List.length_cons, List.length_replicate,
        List.length_replicate]
      omega
    have hslot (fill : Slot ℚ) : (surround slot fill k j)[slotIndex axes axis]? = some slot := by
      rw [hk]
      exact getElem?_surround slot fill k j
    have hothers : 1 ≤ k + j ∧ k + j ≤ 2 := by omega
    obtain ⟨t, ht, hparts⟩ :=
      tilingOf_equal_parts (j := j) hrelative hvalue hothers.2 henabled hk hextent
    obtain ⟨t', ht', hone⟩ :=
      tilingOf_nothing_left (j := j) hrelative hvalue hothers.1 henabled hk hlarge
        (hextent.trans_le (hlarge axis))
    have hsame := (halone _ _ t t' (hlength _) (hlength _) (hslot _) (hslot _) ht ht').1
    omega

end

/-! ## Repetitions -/

namespace Operation

section

variable [Scalar α] [Trigonometry α] {axes : List Bool} {values : List (Value α)}
  {symbols : List String} {d : Derivation α} {target : Shape α} {numbers : List α} {t : Tiling α}

/-- A repetition lays tiles: it computes the numbers of its values, they ask for the tiles, and it
enters the shapes for them. -/
structure Lays (axes : List Bool) (values : List (Value α)) (symbols : List String)
    (d : Derivation α) (target : Shape α) (numbers : List α) (t : Tiling α) : Prop where
  lists : TileLists axes values symbols
  tiling : tilingOf target.scope.size (slotsOf values numbers) axes = some t
  enters : ∃ stream, Value.computeAll d.currentScope values d.stream = .ok (numbers, stream) ∧
    (tile axes values symbols).run d target =
      .done (({ d with stream }).spawnAll (target.copies (target.box.tiles t) symbols)) target

theorem lays_of_tilingOf {stream : RandomStream} (hlists : TileLists axes values symbols)
    (hvalues : Value.computeAll d.currentScope values d.stream = .ok (numbers, stream))
    (ht : tilingOf target.scope.size (slotsOf values numbers) axes = some t) :
    Lays axes values symbols d target numbers t := by
  refine ⟨hlists, ht, stream, hvalues, ?_⟩
  change runTile axes values symbols d target = _
  rw [runTile_of_lists hlists, Effect.withValues, hvalues]
  simp only [ht]

/-- A repetition that comes to its end lays tiles. -/
theorem stop_eq_none_iff_lays :
    ((tile axes values symbols).run d target).stop = none ↔
      ∃ numbers t, Lays axes values symbols d target numbers t := by
  constructor
  · intro hstop
    change (runTile axes values symbols d target).stop = none at hstop
    by_cases hlists : TileLists axes values symbols
    · rw [runTile_of_lists hlists] at hstop
      obtain ⟨numbers, stream, hvalues, hrun⟩ := Effect.exists_of_withValues hstop
      rw [hrun] at hstop
      cases ht : tilingOf target.scope.size (slotsOf values numbers) axes with
      | none =>
        simp only [ht] at hstop
        cases hstop
      | some t => exact ⟨numbers, t, lays_of_tilingOf hlists hvalues ht⟩
    · obtain ⟨error, stream, herror⟩ := runTile_of_not_lists hlists d target
      rw [herror] at hstop
      cases hstop
  · rintro ⟨numbers, t, hlays⟩
    obtain ⟨stream, -, hrun⟩ := hlays.enters
    rw [hrun]
    rfl

end

/-- A repetition that is not refused lays tiles, and two of them lay the same tiles along an axis,
for the same extent and value of that axis, if the value settles the tiles or if the sums of all
values are the same. In rational numbers, and with another enabled axis, only values that settle the
tiles keep them whatever is asked for along the other axes. -/
theorem tile_axis_iff [Trigonometry Float32] :
    (∀ (axes : List Bool) (values : List (Value Float32)) (symbols : List String)
      (d : Derivation Float32) (target : Shape Float32),
      ((tile axes values symbols).run d target).stop = none ↔
        ∃ numbers t, Lays axes values symbols d target numbers t) ∧
    (∀ (axes : List Bool) (axis : Axis) (values values' : List (Value Float32))
      (symbols symbols' : List String) (d d' : Derivation Float32) (target target' : Shape Float32)
      (numbers numbers' : List Float32) (t t' : Tiling Float32) (slot : Slot Float32),
      axes[axis.index]? = some true → Lays axes values symbols d target numbers t →
      Lays axes values' symbols' d' target' numbers' t' →
      target.scope.size.get axis = target'.scope.size.get axis →
      (slotsOf values numbers)[slotIndex axes axis]? = some slot →
      (slotsOf values' numbers')[slotIndex axes axis]? = some slot →
      (slot.Settles (target.scope.size.get axis) ∨ ∀ relative,
        slotSum relative (slotsOf values numbers) = slotSum relative (slotsOf values' numbers')) →
      t.count axis = t'.count axis ∧ t.tile.get axis = t'.tile.get axis) ∧
    ∀ (size : Vec3 ℚ) (axes : List Bool) (axis : Axis) (slot : Slot ℚ),
      axes.length = 3 → axes[axis.index]? = some true → 2 ≤ axes.count true →
      (slot.Settles (size.get axis) ↔ TiledAlone size axes axis slot) :=
  ⟨fun _ _ _ _ _ => stop_eq_none_iff_lays,
    fun _ _ _ _ _ _ _ _ _ _ _ _ _ _ _ henabled hlays hlays' hextent hslot hslot' h =>
      tiles_eq_of_settles tilesBlank_single henabled hextent hslot hslot' h hlays.tiling
        hlays'.tiling,
    fun _ _ _ _ hflags henabled hmany => settles_iff_tiledAlone hflags henabled hmany⟩

/-- A square wall without depth. -/
def square : Shape Float32 := .ofBox (some "wall") ⟨⟨⟨0, 0, 0⟩, ⟨10, 10, 0⟩⟩, ⟨0, 0, 0⟩⟩

/-- Tiles for two values along the first two axes of the square wall. -/
def LaysSquare (values : List (Value Float32)) (numbers : List Float32) (t : Tiling Float32) :
    Prop :=
  Lays [true, true, false] values ["A", "B"] (.ofSeed 0) square numbers t

theorem laysSquare_share_ten :
    LaysSquare [.number true 1, .number false 10] [1, 10] ⟨1, 1, 1, ⟨10, 10, 0⟩⟩ :=
  lays_of_tilingOf ⟨rfl, rfl, rfl, rfl⟩ rfl
    (tiling_eq_some_iff.2 ⟨fun axis => by cases axis <;> decide +kernel, by decide⟩)

theorem laysSquare_share_five :
    LaysSquare [.number true 1, .number false 5] [1, 5] ⟨2, 2, 1, ⟨5, 5, 0⟩⟩ :=
  lays_of_tilingOf ⟨rfl, rfl, rfl, rfl⟩ rfl
    (tiling_eq_some_iff.2 ⟨fun axis => by cases axis <;> decide +kernel, by decide⟩)

theorem laysSquare_three_five :
    LaysSquare [.number false 3, .number false 5] [3, 5] ⟨4, 2, 1, ⟨2.5, 5, 0⟩⟩ :=
  lays_of_tilingOf ⟨rfl, rfl, rfl, rfl⟩ rfl
    (tiling_eq_some_iff.2 ⟨fun axis => by cases axis <;> decide +kernel, by decide⟩)

theorem laysSquare_three_share :
    LaysSquare [.number false 3, .number true 2] [3, 2] ⟨4, 2, 1, ⟨2.5, 5, 0⟩⟩ :=
  lays_of_tilingOf ⟨rfl, rfl, rfl, rfl⟩ rfl
    (tiling_eq_some_iff.2 ⟨fun axis => by cases axis <;> decide +kernel, by decide⟩)

/-- On the square wall, an absolute value keeps its tiles when the other value becomes a share, and
a share would not. -/
theorem tile_axis_iff_square :
    (∃ t t', LaysSquare [.number false 3, .number false 5] [3, 5] t ∧
      LaysSquare [.number false 3, .number true 2] [3, 2] t' ∧
      t.count .x = t'.count .x ∧ t.tile.get .x = t'.tile.get .x) ∧
      ¬ TiledAlone ⟨10, 10, 0⟩ [true, true, false] .x ⟨1, true⟩ := by
  refine ⟨⟨_, _, laysSquare_three_five, laysSquare_three_share,
    tile_axis_iff.2.1 _ .x _ _ _ _ _ _ _ _ _ _ _ _ ⟨3, false⟩ rfl laysSquare_three_five
      laysSquare_three_share rfl rfl rfl (.inl (.inl rfl))⟩, ?_⟩
  rw [← tile_axis_iff.2.2 ⟨10, 10, 0⟩ [true, true, false] .x ⟨1, true⟩ rfl rfl (by decide)]
  unfold Slot.Settles
  decide +kernel

/-- A share of the square wall has one tile when the other side asks for ten, and two tiles when it
asks for five. -/
theorem tile_axis_shared :
    slotIndex [true, true, false] .x = 0 ∧ ∃ t t',
      LaysSquare [.number true 1, .number false 10] [1, 10] t ∧
      LaysSquare [.number true 1, .number false 5] [1, 5] t' ∧
      t.count .x = 1 ∧ t'.count .x = 2 :=
  ⟨rfl, _, _, laysSquare_share_ten, laysSquare_share_five, rfl, rfl⟩

end Operation

end Cityscape.Grammar
