import Mathlib
import Cityscape.Grammar.Operation
import Cityscape.Proofs.Scalar.Rational

/-!
# Slots that fill a shape

Slots that ask for sizes along an extent are given consecutive pieces of it. Where numbers are
rational, relative slots use up what absolute slots leave, so the pieces end where the extent does;
only when the shares of the relative slots cancel out are all of them empty. A subdivision runs its
items on carriers that lie on these pieces, and passes over the pieces that have no item.

## Main definitions

* `SharedOut` — how an extent is shared out among slots.
* `slotStart`, `slotCarriers` — where slots start, and the shapes that items are run on.
* `Cuts` — sizes cut a shape into slots.
* `Operation.runOnCarriers` — items that are run on carriers.

## Main statements

* `sharedOut_slotSizes` — slot sizes share out the extent.
* `cuts_slotSizes` — slot sizes cut the shape into consecutive slots.
* `Operation.runs_subdivide` — what a subdivision runs, and where.
-/

namespace Cityscape.Grammar

/-! ## Sizes -/

theorem slotSum_cons (relative : Bool) (slot : Slot ℚ) (slots : List (Slot ℚ)) :
    slotSum relative (slot :: slots) =
      (if slot.relative = relative then slot.value else 0) + slotSum relative slots := by
  unfold slotSum
  rw [List.filter_cons]
  split <;> simp_all

/-- How some sizes share out an extent among slots: absolute slots keep their values, and relative
slots get multiples of one and the same unit; the sizes add up to the extent, or to what the
absolute slots ask for if there is nothing to divide it by. -/
structure SharedOut (slots : List (Slot ℚ)) (extent : ℚ) (sizes : List ℚ) : Prop where
  proportional : ∃ unit : ℚ, sizes = slots.map fun slot =>
    if slot.relative then slot.value * unit else slot.value
  fills : slotSum true slots ≠ 0 → sizes.sum = extent
  keeps : (∀ slot ∈ slots, slot.relative = false) ∨ slotSum true slots = 0 →
    sizes.sum = slotSum false slots

theorem sum_map_unit (slots : List (Slot ℚ)) (unit : ℚ) :
    (slots.map fun slot => if slot.relative then slot.value * unit else slot.value).sum =
      slotSum false slots + slotSum true slots * unit := by
  induction slots with
  | nil => simp [slotSum]
  | cons slot slots ih =>
    rw [List.map_cons, List.sum_cons, ih, slotSum_cons, slotSum_cons]
    cases slot.relative <;> simp <;> ring

theorem slotSum_of_absolute {slots : List (Slot ℚ)} (h : ∀ slot ∈ slots, slot.relative = false) :
    slotSum true slots = 0 := by
  have hnone : slots.filter (·.relative == true) = [] := by simpa using h
  unfold slotSum
  rw [hnone]
  simp

/-- Slot sizes share out the extent. -/
theorem sharedOut_slotSizes (slots : List (Slot ℚ)) (extent : ℚ) :
    SharedOut slots extent (slotSizes slots extent) := by
  let rest := extent - slotSum false slots
  let unit := if slotSum true slots = 0 then 0 else rest / slotSum true slots
  have hsizes : slotSizes slots extent =
      slots.map fun slot => if slot.relative then slot.value * unit else slot.value := by
    refine List.map_congr_left fun slot _ => ?_
    simp only [Slot.size, beq_iff_eq, unit, rest]
    split
    · split
      · simp
      · ring
    · rfl
  have hsum : (slotSizes slots extent).sum =
      slotSum false slots + slotSum true slots * unit := by
    rw [hsizes, sum_map_unit]
  refine ⟨⟨unit, hsizes⟩, fun hshares => ?_, fun habsolute => ?_⟩
  · have hunit : slotSum true slots * unit = rest := by
      simp only [unit, if_neg hshares]
      exact mul_div_cancel₀ rest hshares
    rw [hsum, hunit]
    ring
  · have hshares : slotSum true slots = 0 := habsolute.elim slotSum_of_absolute id
    rw [hsum, hshares]
    ring

/-- Sizes reach every place up to their sum: one of them leads from before it to behind it. -/
theorem exists_piece {sizes : List ℚ} {t : ℚ} (hnonempty : sizes ≠ []) (hfirst : 0 ≤ t)
    (hlast : t ≤ sizes.sum) :
    ∃ k size, sizes[k]? = some size ∧ (sizes.take k).sum ≤ t ∧
      t ≤ (sizes.take k).sum + size := by
  induction sizes generalizing t with
  | nil => exact absurd rfl hnonempty
  | cons size rest ih =>
    rw [List.sum_cons] at hlast
    by_cases hin : t ≤ size
    · exact ⟨0, size, rfl, by simpa using hfirst, by simpa using hin⟩
    · have hrest : rest ≠ [] := by
        rintro rfl
        simp at hlast
        exact hin hlast
      obtain ⟨k, found, hfound, hlow, hhigh⟩ :=
        ih hrest (show 0 ≤ t - size by linarith) (show t - size ≤ rest.sum by linarith)
      refine ⟨k + 1, found, by simpa using hfound, ?_, ?_⟩
      · rw [List.take_succ_cons, List.sum_cons]
        linarith
      · rw [List.take_succ_cons, List.sum_cons]
        linarith

/-! ## Places -/

theorem add_scale_zero (v w : Vec3 ℚ) : v + w.scale 0 = v := by
  change Vec3.mk (v.x + w.x * 0) (v.y + w.y * 0) (v.z + w.z * 0) = v
  simp only [mul_zero, add_zero]

theorem add_scale_add (v w : Vec3 ℚ) (a b : ℚ) :
    v + w.scale (a + b) = v + w.scale a + w.scale b := by
  change Vec3.mk (v.x + w.x * (a + b)) (v.y + w.y * (a + b)) (v.z + w.z * (a + b)) =
    ⟨v.x + w.x * a + w.x * b, v.y + w.y * a + w.y * b, v.z + w.z * a + w.z * b⟩
  simp only [mul_add, add_assoc]

/-- Consecutive pieces of a box start where those before them, and the offset, add up to. -/
theorem map_carrier_consecutive (target : Shape ℚ) (axis : Axis) (direction : Vec3 ℚ)
    (offset : ℚ) (sizes : List ℚ) :
    (target.box.consecutive axis direction offset sizes).map
      (Shape.carrier · target.lineageParent) = sizes.mapIdx fun k size =>
        .carrier ⟨⟨target.scope.position + direction.scale (offset + (sizes.take k).sum),
          target.scope.size.set axis size⟩, target.rotation⟩ target.lineageParent := by
  induction sizes generalizing offset with
  | nil => rfl
  | cons size sizes ih =>
    rw [OrientedBox.consecutive, List.map_cons, ih, List.mapIdx_cons]
    simp [add_assoc, Shape.box]

section Places

variable [Trigonometry ℚ] {target : Shape ℚ} {axis : Axis} {sizes : List ℚ}

/-- Where a slot of a shape starts: as far along the axis, as the shape is turned, as the sizes of
all slots before it add up to. -/
def slotStart (target : Shape ℚ) (axis : Axis) (sizes : List ℚ) (k : Nat) : Vec3 ℚ :=
  target.scope.position +
    ((Rotation.ofAngles target.rotation).apply (.unit axis)).scale (sizes.take k).sum

/-- The carriers for the slots of a shape. Each has the size of its slot along the axis, and is as
large as the shape along the others. -/
def slotCarriers (target : Shape ℚ) (axis : Axis) (sizes : List ℚ) : List (Shape ℚ) :=
  sizes.mapIdx fun k size =>
    .carrier ⟨⟨slotStart target axis sizes k, target.scope.size.set axis size⟩, target.rotation⟩
      target.lineageParent

theorem slotStart_zero (target : Shape ℚ) (axis : Axis) (sizes : List ℚ) :
    slotStart target axis sizes 0 = target.scope.position := by
  unfold slotStart
  rw [List.take_zero, List.sum_nil, add_scale_zero]

/-- The next slot starts where a slot ends. -/
theorem slotStart_succ {k : Nat} {size : ℚ} (h : sizes[k]? = some size) :
    slotStart target axis sizes (k + 1) = slotStart target axis sizes k +
      ((Rotation.ofAngles target.rotation).apply (.unit axis)).scale size := by
  obtain ⟨hk, rfl⟩ := List.getElem?_eq_some_iff.1 h
  unfold slotStart
  rw [List.sum_take_succ sizes k hk, add_scale_add]

/-- Some sizes cut a shape along an axis as slots ask for: the first slot starts where the shape
does, and each of the others where the one before ends. If the shares of the relative slots do not
cancel out, the last slot ends where the shape does, and no place of the extent is left out. -/
structure Cuts (target : Shape ℚ) (axis : Axis) (slots : List (Slot ℚ)) (sizes : List ℚ) :
    Prop where
  first : slotStart target axis sizes 0 = target.scope.position
  next {k : Nat} {size : ℚ} : sizes[k]? = some size →
    slotStart target axis sizes (k + 1) = slotStart target axis sizes k +
      ((Rotation.ofAngles target.rotation).apply (.unit axis)).scale size
  last : slotSum true slots ≠ 0 →
    slotStart target axis sizes sizes.length = target.scope.position +
      ((Rotation.ofAngles target.rotation).apply (.unit axis)).scale (target.scope.size.get axis)
  covers {t : ℚ} : slotSum true slots ≠ 0 → 0 ≤ t → t ≤ target.scope.size.get axis →
    ∃ k size, sizes[k]? = some size ∧ (sizes.take k).sum ≤ t ∧ t ≤ (sizes.take k).sum + size

theorem cuts_slotSizes (target : Shape ℚ) (axis : Axis) (slots : List (Slot ℚ)) :
    Cuts target axis slots (slotSizes slots (target.scope.size.get axis)) := by
  have hshared := sharedOut_slotSizes slots (target.scope.size.get axis)
  refine ⟨slotStart_zero _ _ _, slotStart_succ, fun hshares => ?_, fun hshares hfirst hlast => ?_⟩
  · unfold slotStart
    rw [List.take_length, hshared.fills hshares]
  · refine exists_piece ?_ hfirst (by rwa [hshared.fills hshares])
    intro hempty
    obtain rfl : slots = [] := List.map_eq_nil_iff.1 hempty
    exact hshares (by simp [slotSum])

/-- The pieces that are cut from a box are those of the carriers. -/
theorem map_carrier_slots (target : Shape ℚ) (axis : Axis) (slots : List (Slot ℚ)) :
    (target.box.slots axis slots).map (Shape.carrier · target.lineageParent) =
      slotCarriers target axis (slotSizes slots (target.scope.size.get axis)) := by
  have hpieces := map_carrier_consecutive target axis
    ((Rotation.ofAngles target.rotation).apply (.unit axis)) 0
    (slotSizes slots (target.scope.size.get axis))
  simp only [zero_add] at hpieces
  exact hpieces

end Places

/-! ## Runs -/

theorem length_computeAll {α : Type} [Scalar α] [Trigonometry α] {current : Scope α}
    {values : List (Value α)} {s s' : RandomStream} {numbers : List α}
    (h : Value.computeAll current values s = .ok (numbers, s')) :
    numbers.length = values.length := by
  induction values generalizing s numbers with
  | nil =>
    cases h
    rfl
  | cons v values ih =>
    obtain ⟨⟨a, s₁⟩, -, h⟩ := bind_eq_ok.1 h
    obtain ⟨⟨rest, s₂⟩, hrest, h⟩ := bind_eq_ok.1 h
    cases h
    simp [ih hrest]

/-- What was stopped does not go on. -/
theorem Effect.foldl_andThen_stopped {α κ : Type} (jobs : List κ)
    (next : κ → Derivation α → Shape α → Effect α) (d : Derivation α) (target : Shape α)
    (stop : Stop (GrammarError α)) :
    jobs.foldl (fun (effect : Effect α) job => effect.andThen (next job))
      ⟨d, target, some stop⟩ = ⟨d, target, some stop⟩ := by
  induction jobs with
  | nil => rfl
  | cons job jobs ih => exact ih

namespace Operation

variable {α : Type} [Scalar α] [Trigonometry α]

/-- Runs an item on a carrier. The target stays as it is. -/
def runAside (item : Item (Operation α)) (carrier : Shape α) (d : Derivation α)
    (target : Shape α) : Effect α :=
  { item.run d carrier with target }

/-- Runs items one after the other, each on its carrier, until one stops; carriers without an item
are passed over. -/
def runOnCarriers (items : List (Option (Item (Operation α)))) (carriers : List (Shape α))
    (d : Derivation α) (target : Shape α) : Effect α :=
  ((items.zip carriers).filterMap fun (item, carrier) => item.map (·, carrier)).foldl
    (fun effect (item, carrier) => effect.andThen (runAside item carrier)) (.done d target)

/-- Items in slots are run on carriers that take the places of the slots. -/
theorem runSlots_eq (items : List (Option (Item (Operation α))))
    (slots : List (OrientedBox α)) (d : Derivation α) (target : Shape α) :
    runSlots items slots d target =
      runOnCarriers items (slots.map (Shape.carrier · target.lineageParent)) d target := by
  unfold runOnCarriers
  induction items generalizing slots d with
  | nil => cases slots <;> simp [runSlots]
  | cons item items ih =>
    cases slots with
    | nil => cases item <;> simp [runSlots]
    | cons slot slots =>
      cases item with
      | none => simpa [runSlots] using ih slots d
      | some item =>
        simp only [runSlots, List.map_cons, List.zip_cons_cons, List.filterMap_cons,
          Option.map_some, List.foldl_cons, Effect.done_andThen, runAside, Item.run]
        cases hrun : runItem item d (.carrier slot target.lineageParent) with
        | mk reached carrier stop =>
          cases stop with
          | none => exact ih slots reached
          | some stop => rw [Effect.foldl_andThen_stopped]

/-- Slot sizes share out an extent; and where the values of a subdivision can be computed, it runs
its items on the carriers of the slots that they ask for, which cut the target. -/
theorem runs_subdivide [Trigonometry ℚ] :
    (∀ (slots : List (Slot ℚ)) (extent : ℚ), SharedOut slots extent (slotSizes slots extent)) ∧
    ∀ (axis : Axis) (values : List (Value ℚ)) (items : List (Option (Item (Operation ℚ))))
      (d : Derivation ℚ) (target : Shape ℚ) (numbers : List ℚ) (stream : RandomStream),
      values.length = items.length →
      Value.computeAll d.currentScope values d.stream = .ok (numbers, stream) →
      let slots := slotsOf values numbers
      let sizes := slotSizes slots (target.scope.size.get axis)
      sizes.length = items.length ∧ Cuts target axis slots sizes ∧
        (subdivide axis values items).run d target =
          runOnCarriers items (slotCarriers target axis sizes) { d with stream } target := by
  refine ⟨sharedOut_slotSizes, fun axis values items d target numbers stream hlength hvalues => ?_⟩
  intro slots sizes
  refine ⟨?_, cuts_slotSizes target axis slots, ?_⟩
  · have hnumbers := length_computeAll hvalues
    simp [sizes, slots, slotSizes, slotsOf, hnumbers, hlength]
  · rw [run, if_neg (not_not.2 hlength), Effect.withValues, hvalues]
    simp only
    rw [runSlots_eq, map_carrier_slots]

/-- Trigonometry with angles in degrees, and with the sines and cosines of zero and of a right angle
in place of those of any angle. -/
@[reducible]
def rightAngles : Trigonometry ℚ where
  degree := 1
  turn := 360
  sin a := if a = 90 then 1 else 0
  cos a := if a = 90 then 0 else 1
  tan _ := 0
  atan2 _ _ := 0
  pow _ _ := 0

/-- A facade that is turned round has a slot of four and shares what is left between two, of which
the first one has no item. -/
theorem runs_subdivide_facade :
    letI := rightAngles
    let facade : Shape ℚ := .ofBox (some "facade") ⟨⟨⟨2, 0, 0⟩, ⟨10, 12, 0⟩⟩, ⟨0, 180, 0⟩⟩
    let values : List (Value ℚ) := [.number false 4, .number true 1, .number true 1]
    let items : List (Option (Item (Operation ℚ))) := [some (.put "shop"), none, some (.put "door")]
    let d : Derivation ℚ := .ofSeed 7
    let sizes := slotSizes (slotsOf values [4, 1, 1]) 10
    sizes = [4, 3, 3] ∧ SharedOut (slotsOf values [4, 1, 1]) 10 sizes ∧
      Cuts facade .x (slotsOf values [4, 1, 1]) sizes ∧
      (subdivide .x values items).run d facade =
        runOnCarriers items (slotCarriers facade .x sizes) d facade ∧
      (slotStart facade .x sizes 2).x = -5 := by
  let := rightAngles
  intro facade values items d sizes
  obtain ⟨hshared, hruns⟩ := runs_subdivide
  obtain ⟨-, hcuts, hrun⟩ := hruns .x values items d facade [4, 1, 1] d.stream rfl rfl
  exact ⟨by decide +kernel, hshared _ _, hcuts, hrun, by decide +kernel⟩

end Operation

end Cityscape.Grammar
