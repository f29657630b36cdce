import Mathlib
import Cityscape.Proofs.Grid.Cells
import Cityscape.Proofs.Random.Bounds
import Cityscape.Terrain.Centre

/-!
# What a city centre is

The search looks at places, and rounds what it adds up to them. On a map with no more than 2²⁴
columns and rows the places are the cells around the centre all the same, one for each offset: so a
centre that is found is land in level and dry surroundings, all of which the map covers. A radius
from 2³¹ on is not looked at as it was given, and on larger maps some cells are passed over.

## Main definitions

* `Grid.at?` — the number in a column and a row.
* `CentreSearch.square`, `CentreSearch.survey` — the offsets of the surroundings in order, and what
  is done at each of them.
* `CentreSearch.IsCentre` — what is asked of a centre, told of the cells of the map.

## Main statements

* `Grid.valueAt_eq_at?` — places that stand for cells.
* `CentreSearch.scanRows_eq_survey` — the search is a survey of the surroundings.
* `CentreSearch.isSuitable_of_signedHalfWord_neg`, `CentreSearch.tryPlaces_of_signedHalfWord_neg` —
  what becomes of a radius that is too large.
* `CentreSearch.find_isCentre` — the search ends, and what it finds is a centre.
-/

namespace Cityscape

open Single

/-! ## Columns and rows -/

namespace Grid

/-- The number in a column and a row, if the grid has these. -/
def at? {α : Type} (g : Grid α) (x y : ℤ) : Option α :=
  if 0 ≤ x ∧ x < g.width ∧ 0 ≤ y ∧ y < g.height then g.cells[(y * g.width + x).toNat]? else none

theorem at?_natCast {α : Type} {g : Grid α} {x y : ℕ} (hx : x < g.width) (hy : y < g.height) :
    (g.get x y).map some = .ok (g.at? x y) := by
  obtain ⟨v, hv⟩ := exists_get hx hy
  have hat : g.at? x y = g.cells[y * g.width + x]? := by
    refine (if_pos (by omega)).trans ?_
    congr 1
  rw [hv, hat]
  unfold get at hv
  split at hv
  next found hfound =>
    cases hv
    rw [hfound]
    rfl
  · cases hv

theorem lt_of_isSome_at? {α : Type} {g : Grid α} {x y : ℤ} (h : (g.at? x y).isSome) :
    0 ≤ x ∧ x < g.width ∧ 0 ≤ y ∧ y < g.height := by
  unfold at? at h
  split at h
  · assumption
  · cases h

variable {g : Grid Float32} {p : Vec2 Float32} {x y : ℤ}

/-- A place whose coordinates are nearest to a column and a row has the number that is there. -/
theorem valueAt_eq_at? (hwidth : g.width ≤ 16777216) (hheight : g.height ≤ 16777216)
    (hp : p.IsNumber) (hx : ∀ n : ℕ, NearestTo p.x n ∧ n < g.width ↔ x = n ∧ n < g.width)
    (hy : ∀ n : ℕ, NearestTo p.y n ∧ n < g.height ↔ y = n ∧ n < g.height) :
    g.valueAt p = .ok (g.at? x y) := by
  have hcell (m n : ℕ) :
      g.cell p = some (m, n) ↔ (x = m ∧ m < g.width) ∧ y = n ∧ n < g.height := by
    rw [cell_eq_some_iff_of_le hwidth hheight hp, hx, hy]
  unfold valueAt
  cases hfound : g.cell p with
  | some c =>
    obtain ⟨⟨rfl, hm⟩, rfl, hn⟩ := (hcell c.1 c.2).1 hfound
    exact at?_natCast hm hn
  | none =>
    refine congrArg Except.ok (if_neg ?_).symm
    rintro ⟨hx0, hx1, hy0, hy1⟩
    obtain ⟨m, rfl⟩ := Int.eq_ofNat_of_zero_le hx0
    obtain ⟨n, rfl⟩ := Int.eq_ofNat_of_zero_le hy0
    have := (hcell m n).2 ⟨⟨rfl, by omega⟩, rfl, by omega⟩
    rw [hfound] at this
    cases this

end Grid

namespace CentreSearch

/-! ## The surroundings -/

/-- The offsets in a row, from a column on. -/
def rowFrom (dy : ℤ) : ℕ → ℤ → List (ℤ × ℤ)
  | 0, _ => []
  | count + 1, dx => (dx, dy) :: rowFrom dy count (dx + 1)

/-- The offsets in rows of equal length, from a row on. -/
def rowsFrom (dx : ℤ) (columns : ℕ) : ℕ → ℤ → List (ℤ × ℤ)
  | 0, _ => []
  | rows + 1, dy => rowFrom dy columns dx ++ rowsFrom dx columns rows (dy + 1)

/-- The offsets of the surroundings, in the order in which they are looked at. -/
def square (radius : ℕ) : List (ℤ × ℤ) :=
  rowsFrom (-radius) (2 * radius + 1) (2 * radius + 1) (-radius)

theorem mem_rowFrom {dy dx : ℤ} {count : ℕ} {d : ℤ × ℤ} :
    d ∈ rowFrom dy count dx ↔ (dx ≤ d.1 ∧ d.1 < dx + count) ∧ d.2 = dy := by
  induction count generalizing dx with
  | zero => simp [rowFrom]
  | succ count ih =>
    rw [rowFrom, List.mem_cons, ih, Prod.ext_iff]
    push_cast
    omega

theorem mem_rowsFrom {dx dy : ℤ} {columns rows : ℕ} {d : ℤ × ℤ} :
    d ∈ rowsFrom dx columns rows dy ↔
      (dx ≤ d.1 ∧ d.1 < dx + columns) ∧ dy ≤ d.2 ∧ d.2 < dy + rows := by
  induction rows generalizing dy with
  | zero => simp [rowsFrom]
  | succ rows ih =>
    rw [rowsFrom, List.mem_append, mem_rowFrom, ih]
    push_cast
    omega

theorem nodup_rowFrom (dy dx : ℤ) (count : ℕ) : (rowFrom dy count dx).Nodup := by
  induction count generalizing dx with
  | zero => exact List.nodup_nil
  | succ count ih =>
    refine List.nodup_cons.2 ⟨fun hmem => ?_, ih _⟩
    have := (mem_rowFrom.1 hmem).1.1
    omega

theorem nodup_rowsFrom (dx dy : ℤ) (columns rows : ℕ) : (rowsFrom dx columns rows dy).Nodup := by
  induction rows generalizing dy with
  | zero => exact List.nodup_nil
  | succ rows ih =>
    refine (nodup_rowFrom dy dx columns).append (ih _) fun d hd hd' => ?_
    have := (mem_rowFrom.1 hd).2
    have := (mem_rowsFrom.1 hd').2.1
    omega

theorem mem_square {radius : ℕ} {d : ℤ × ℤ} :
    d ∈ square radius ↔ |d.1| ≤ radius ∧ |d.2| ≤ radius := by
  rw [square, mem_rowsFrom, abs_le, abs_le]
  push_cast
  omega

/-! ## The survey -/

/-- What the search does at offsets from a cell: it stops where the map ends or the ground is too
high or low, and counts the water. -/
def survey (heights : Grid Float32) (slope level : Float32) (x y : ℤ) :
    List (ℤ × ℤ) → ℕ → Except Fault (Option ℕ)
  | [], water => .ok (some water)
  | d :: offsets, water =>
    match heights.at? (x + d.1) (y + d.2) with
    | none => .ok none
    | some h =>
      if h == 0 then
        if water = mostCounted then .error .overflow
        else survey heights slope level x y offsets (water + 1)
      else if slope < Scalar.abs (h - level) then .ok none
      else survey heights slope level x y offsets water

variable {heights : Grid Float32} {slope level : Float32} {x y : ℤ} {c : Vec2 Float32}
  {offsets : List (ℤ × ℤ)} {water found : ℕ} {fault : Fault}

theorem survey_append (offsets' : List (ℤ × ℤ)) (water : ℕ) :
    survey heights slope level x y (offsets ++ offsets') water =
      survey heights slope level x y offsets water >>= fun
        | none => .ok none
        | some water => survey heights slope level x y offsets' water := by
  induction offsets generalizing water with
  | nil => rfl
  | cons d offsets ih =>
    simp only [List.cons_append, survey]
    split
    · rfl
    · split
      · split
        · rfl
        · exact ih _
      · split
        · rfl
        · exact ih _

/-- The ground at an offset is in the map, and it is water or does not differ from a height by more
than the slope. -/
def IsLevelAt (heights : Grid Float32) (slope level : Float32) (x y : ℤ) (d : ℤ × ℤ) : Prop :=
  ∃ h, heights.at? (x + d.1) (y + d.2) = some h ∧
    ((h == 0) = true ∨ ¬ slope < Scalar.abs (h - level))

/-- The cell at an offset is water. -/
def isWaterAt (heights : Grid Float32) (x y : ℤ) (d : ℤ × ℤ) : Bool :=
  (heights.at? (x + d.1) (y + d.2)).any (· == 0)

/-- A survey that comes to its end went over level ground, and counted the water. -/
theorem survey_spec (h : survey heights slope level x y offsets water = .ok (some found)) :
    found = water + offsets.countP (isWaterAt heights x y) ∧
      ∀ d ∈ offsets, IsLevelAt heights slope level x y d := by
  induction offsets generalizing water with
  | nil =>
    cases h
    exact ⟨rfl, fun d hd => absurd hd List.not_mem_nil⟩
  | cons d offsets ih =>
    rw [survey] at h
    split at h
    · cases h
    next height hat =>
      have hwet : isWaterAt heights x y d = (height == 0) := by rw [isWaterAt, hat]; rfl
      rw [List.countP_cons, hwet]
      split at h
      next hwater =>
        split at h
        · cases h
        obtain ⟨rfl, hrest⟩ := ih h
        refine ⟨by rw [if_pos hwater]; omega, List.forall_mem_cons.2 ⟨?_, hrest⟩⟩
        exact ⟨height, hat, .inl hwater⟩
      next hland =>
        split at h
        · cases h
        next hlevel =>
          obtain ⟨rfl, hrest⟩ := ih h
          refine ⟨by rw [if_neg hland]; rfl, List.forall_mem_cons.2 ⟨?_, hrest⟩⟩
          exact ⟨height, hat, .inr hlevel⟩

/-- A survey fails only after more cells of the map than water can be counted. -/
theorem survey_error (h : survey heights slope level x y offsets water = .error fault) :
    ∃ seen, seen <+: offsets ∧
      (∀ d ∈ seen, (heights.at? (x + d.1) (y + d.2)).isSome) ∧
      mostCounted < water + seen.length := by
  induction offsets generalizing water with
  | nil => cases h
  | cons d offsets ih =>
    rw [survey] at h
    split at h
    · cases h
    next height hat =>
      have hsome : (heights.at? (x + d.1) (y + d.2)).isSome := by rw [hat]; rfl
      -- The cells that were seen behind the first one are seen after it.
      have hcons {water' : ℕ} (hle : water' ≤ water + 1)
          (hrest : survey heights slope level x y offsets water' = .error fault) :
          ∃ seen, seen <+: d :: offsets ∧
            (∀ d ∈ seen, (heights.at? (x + d.1) (y + d.2)).isSome) ∧
            mostCounted < water + seen.length := by
        obtain ⟨seen, hprefix, hin, hmany⟩ := ih hrest
        refine ⟨d :: seen, List.cons_prefix_cons.2 ⟨rfl, hprefix⟩,
          List.forall_mem_cons.2 ⟨hsome, hin⟩, ?_⟩
        rw [List.length_cons]
        omega
      split at h
      · split at h
        next hfull =>
          refine ⟨[d], List.cons_prefix_cons.2 ⟨rfl, List.nil_prefix⟩, ?_, ?_⟩
          · simpa using hsome
          · rw [List.length_singleton]
            omega
        · exact hcons le_rfl h
      · split at h
        · cases h
        · exact hcons (Nat.le_succ water) h

/-- No more different offsets lead to cells than there are cells. -/
theorem length_le_of_nodup (hnodup : offsets.Nodup)
    (hin : ∀ d ∈ offsets, (heights.at? (x + d.1) (y + d.2)).isSome) :
    offsets.length ≤ heights.width * heights.height := by
  have hmaps : Set.MapsTo (fun d : ℤ × ℤ => (x + d.1, y + d.2)) (offsets.toFinset : Set (ℤ × ℤ))
      (Finset.Ico (0 : ℤ) heights.width ×ˢ Finset.Ico (0 : ℤ) heights.height : Finset (ℤ × ℤ)) := by
    intro d hd
    have := Grid.lt_of_isSome_at? (hin d (List.mem_toFinset.1 hd))
    simp only [Finset.coe_product, Set.mem_prod, Finset.coe_Ico, Set.mem_Ico]
    omega
  have hinjective : Set.InjOn (fun d : ℤ × ℤ => (x + d.1, y + d.2)) (offsets.toFinset : Set _) := by
    intro d _ d' _ heq
    simp only [Prod.mk.injEq, add_right_inj] at heq
    exact Prod.ext heq.1 heq.2
  have hcard := Finset.card_le_card_of_injOn _ hmaps hinjective
  rw [List.toFinset_card_of_nodup hnodup, Finset.card_product, Int.card_Ico, Int.card_Ico] at hcard
  simpa using hcard

/-- A survey of different offsets on a map without too many cells does not fail. -/
theorem exists_survey (hcells : heights.width * heights.height ≤ mostCounted)
    (hnodup : offsets.Nodup) : ∃ found, survey heights slope level x y offsets 0 = .ok found := by
  cases h : survey heights slope level x y offsets 0 with
  | ok found => exact ⟨found, rfl⟩
  | error fault =>
    obtain ⟨seen, hprefix, hin, hmany⟩ := survey_error h
    have := length_le_of_nodup (hnodup.sublist hprefix.sublist) hin
    omega

/-! ## The search surveys the surroundings -/

/-- The places around a centre have the numbers of the cells around a cell. -/
def Samples (heights : Grid Float32) (c : Vec2 Float32) (x y : ℤ) (d : ℤ × ℤ) : Prop :=
  heights.valueAt (c + ⟨ofInt d.1, ofInt d.2⟩) = .ok (heights.at? (x + d.1) (y + d.2))

theorem scanRow_eq_survey {dy dx : ℤ} {count : ℕ}
    (h : ∀ d ∈ rowFrom dy count dx, Samples heights c x y d) (water : ℕ) :
    scanRow heights slope c level dy count dx water =
      survey heights slope level x y (rowFrom dy count dx) water := by
  induction count generalizing dx water with
  | zero => rfl
  | succ count ih =>
    obtain ⟨hfirst, hrest⟩ := List.forall_mem_cons.1 h
    have hvalue : heights.valueAt (c + ⟨ofInt dx, ofInt dy⟩) =
      .ok (heights.at? (x + dx) (y + dy)) := hfirst
    rw [rowFrom, scanRow, survey, hvalue]
    cases heights.at? (x + dx) (y + dy) with
    | none => rfl
    | some height =>
      simp only [bind, Except.bind, ih hrest]
      rfl

theorem scanRows_eq_survey {dy : ℤ} {radius : ℤ} {columns rows : ℕ}
    (h : ∀ d ∈ rowsFrom (-radius) columns rows dy, Samples heights c x y d) (water : ℕ) :
    scanRows heights slope c level radius columns rows dy water =
      survey heights slope level x y (rowsFrom (-radius) columns rows dy) water := by
  induction rows generalizing dy water with
  | zero => rfl
  | succ rows ih =>
    obtain ⟨hfirst, hrest⟩ := List.forall_mem_append.1 h
    rw [scanRows, rowsFrom, survey_append, scanRow_eq_survey hfirst]
    congr 1
    funext found
    cases found with
    | none => rfl
    | some found => exact ih hrest found

theorem isRounding_ofInt {k : ℤ} (h : |k| ≤ halfWordLimit) :
    Finite (ofInt k : Float32) ∧ IsRounding k (toReal (ofInt k : Float32)) := by
  have hcount : k.natAbs ≤ halfWordLimit := by
    rw [Int.abs_eq_natAbs] at h
    exact_mod_cast h
  have hfinite : Finite (Float32.ofNat k.natAbs) := (within_ofNat_halfWord hcount).finite
  have hrounding := (rounds_ofNat k.natAbs).isRounding hfinite
  obtain hneg | h0 := lt_or_ge k 0
  · have hk : (k : ℝ) = -(k.natAbs : ℝ) := by
      rw [Nat.cast_natAbs, abs_of_neg hneg, Int.cast_neg, neg_neg]
    obtain ⟨hopposite, hreal⟩ := toReal_neg hfinite
    have hof : (ofInt k : Float32) = -Float32.ofNat k.natAbs := if_pos hneg
    rw [hof, hreal, hk]
    exact ⟨hopposite, hrounding.neg⟩
  · have hk : (k : ℝ) = (k.natAbs : ℝ) := by
      rw [Nat.cast_natAbs, abs_of_nonneg h0]
    have hof : (ofInt k : Float32) = Float32.ofNat k.natAbs := if_neg (not_lt.2 h0)
    rw [hof, hk]
    exact ⟨hfinite, hrounding⟩

/-- Around a centre that stands for a cell every place has the number of the cell it means. -/
theorem samples_of_cell (hwidth : heights.width ≤ 16777216) (hheight : heights.height ≤ 16777216)
    (hc : Finite c.x ∧ Finite c.y) (hx : toReal c.x = x) (hy : toReal c.y = y)
    (hin : (heights.at? x y).isSome) {d : ℤ × ℤ}
    (hd : |d.1| ≤ halfWordLimit ∧ |d.2| ≤ halfWordLimit) : Samples heights c x y d := by
  have hbounds := Grid.lt_of_isSome_at? hin
  obtain ⟨hfirst, hfirstReal⟩ := isRounding_ofInt hd.1
  obtain ⟨hsecond, hsecondReal⟩ := isRounding_ofInt hd.2
  refine Grid.valueAt_eq_at? hwidth hheight ⟨?_, ?_⟩ (fun n => ?_) (fun n => ?_)
  · exact isNumber_of_isDefined (hc.1.add_isDefined hfirst.isDefined)
  · exact isNumber_of_isDefined (hc.2.add_isDefined hsecond.isDefined)
  · exact nearestTo_add_iff hc.1 hx hbounds.1 (by omega) hfirst hfirstReal hwidth
  · exact nearestTo_add_iff hc.2 hy hbounds.2.2.1 (by omega) hsecond hsecondReal hheight

/-! ## Centres -/

/-- How many cells of the surroundings of a cell are water. -/
noncomputable def waterAround (heights : Grid Float32) (x y : ℤ) (radius : ℕ) : ℕ :=
  ((Finset.Icc (-radius : ℤ) radius ×ˢ Finset.Icc (-radius : ℤ) radius).filter
    (isWaterAt heights x y · = true)).card

theorem countP_square (heights : Grid Float32) (x y : ℤ) (radius : ℕ) :
    (square radius).countP (isWaterAt heights x y) = waterAround heights x y radius := by
  have hsquare : (square radius).toFinset =
      Finset.Icc (-radius : ℤ) radius ×ˢ Finset.Icc (-radius : ℤ) radius := by
    ext d
    rw [List.mem_toFinset, mem_square, Finset.mem_product, Finset.mem_Icc, Finset.mem_Icc, abs_le,
      abs_le]
  have hnodup : ((square radius).filter (isWaterAt heights x y)).Nodup :=
    (nodup_rowsFrom _ _ _ _).filter _
  rw [waterAround, ← hsquare, ← List.toFinset_filter, List.countP_eq_length_filter,
    List.toFinset_card_of_nodup hnodup]

/-- How much water there may be, as single precision computes it. -/
def mostWater (q : CentreSearch Float32) : Float32 :=
  Scalar.ofNat (q.radius * 2) * Scalar.ofNat (q.radius * 2) * q.waterRatio

/-- The cell is land of a positive height, and its surroundings are in the map; each of them that is
not water differs from its height by no more than the slope, unless one of these is not a number;
and there is not too much water. -/
structure IsCentre (q : CentreSearch Float32) (heights : Grid Float32) (x y : ℤ)
    (level : Float32) : Prop where
  land : heights.at? x y = some level
  positive : 0 < level
  level : ∀ dx dy : ℤ, |dx| ≤ q.radius → |dy| ≤ q.radius →
    ∃ h, heights.at? (x + dx) (y + dy) = some h ∧
      ((h == 0) = true ∨ (Scalar.IsNumber q.slope → Scalar.IsNumber (h - level) →
        Scalar.abs (h - level) ≤ q.slope))
  dry : Scalar.ofNat (waterAround heights x y q.radius) ≤ q.mostWater

/-- The map is one on which every cell is told from the others, and has no more cells than water can
be counted. -/
structure IsSurveyable (heights : Grid Float32) : Prop where
  width : heights.width ≤ 16777216
  height : heights.height ≤ 16777216
  cells : heights.width * heights.height ≤ mostCounted

theorem IsLevelAt.le {q : CentreSearch Float32} {d : ℤ × ℤ}
    (h : IsLevelAt heights q.slope level x y d) :
    ∃ h, heights.at? (x + d.1) (y + d.2) = some h ∧
      ((h == 0) = true ∨ (Scalar.IsNumber q.slope → Scalar.IsNumber (h - level) →
        Scalar.abs (h - level) ≤ q.slope)) := by
  obtain ⟨height, hat, hlevel⟩ := h
  refine ⟨height, hat, hlevel.imp_right fun hlevel hslope hnumber => ?_⟩
  exact Scalar.Total.le_of_not_lt hslope
    (isNumber_of_isDefined (isDefined_abs (isDefined_of_isNumber hnumber))) hlevel

/-- A place of whole coordinates that falls into a cell has the coordinates of the cell. -/
theorem toReal_of_nearestTo {e : Float32} {n : ℕ} (h : NearestTo (Single.round e) n) :
    toReal (Single.round e) = n := by
  obtain ⟨hfinite, hround⟩ := h
  have he : Finite e := by
    by_contra hnot
    rw [round_of_not_finite hnot] at hfinite
    exact hnot hfinite
  obtain ⟨k, hk⟩ := exists_round_real (toReal e)
  have hreal := (toReal_round_eq he).2.trans hk
  rw [hreal, round_real_intCast] at hround
  rw [hreal]
  exact hround

section

variable {α : Type} [Scalar α] {q : CentreSearch α} {g : Grid α} {p : Vec2 α} {level : α}

/-- What is not above water is no place for a centre. -/
theorem isSuitable_of_not_pos (hvalue : g.valueAt p = .ok (some level)) (hlevel : ¬ 0 < level)
    (mostWater : α) : q.isSuitable g mostWater p = .ok false := by
  unfold isSuitable
  rw [hvalue]
  exact if_pos hlevel

/-- What is asked of a place on land: that its surroundings, as far as the radius goes as a signed
half word, can be surveyed and are not too wet. -/
theorem isSuitable_eq (hleast : signedHalfWord q.radius ≠ -0x80000000)
    (hvalue : g.valueAt p = .ok (some level)) (hlevel : 0 < level) (mostWater : α) :
    q.isSuitable g mostWater p =
      scanRows g q.slope p level (signedHalfWord q.radius)
        (2 * signedHalfWord q.radius + 1).toNat (2 * signedHalfWord q.radius + 1).toNat
        (-signedHalfWord q.radius) 0 >>= fun
          | none => .ok false
          | some water => .ok (decide (Scalar.ofNat water ≤ mostWater)) := by
  unfold isSuitable
  rw [hvalue]
  refine (if_neg (not_not.2 hlevel)).trans ?_
  dsimp only
  rw [if_neg hleast]
  rfl

/-- A radius that is negative as a signed half word leaves no surroundings to survey. -/
theorem isSuitable_of_signedHalfWord_neg (hneg : signedHalfWord q.radius < 0)
    (hleast : signedHalfWord q.radius ≠ -0x80000000) (hvalue : g.valueAt p = .ok (some level))
    (hlevel : 0 < level) (mostWater : α) :
    q.isSuitable g mostWater p = .ok (decide (Scalar.ofNat 0 ≤ mostWater)) := by
  have hside : (2 * signedHalfWord q.radius + 1).toNat = 0 := by omega
  rw [isSuitable_eq hleast hvalue hlevel, hside]
  rfl

/-- With a radius that is negative as a signed half word the first place that is tried is found if
it lies on land, whatever surrounds it. -/
theorem tryPlaces_of_signedHalfWord_neg (hneg : signedHalfWord q.radius < 0)
    (hleast : signedHalfWord q.radius ≠ -0x80000000) {x y : α} {s s₁ s₂ : RandomStream}
    (hx : q.coordinate (Scalar.ofNat g.width - 1) s = (x, s₁))
    (hy : q.coordinate (Scalar.ofNat g.height - 1) s₁ = (y, s₂))
    (hvalue : g.valueAt ⟨x, y⟩ = .ok (some level)) (hlevel : 0 < level) {mostWater : α}
    (hwater : Scalar.ofNat 0 ≤ mostWater) (attempts : ℕ) :
    q.tryPlaces g mostWater (attempts + 1) s = .ok (some ⟨x, y⟩, s₂) := by
  have hsuitable := isSuitable_of_signedHalfWord_neg hneg hleast hvalue hlevel mostWater
  rw [tryPlaces, hx]
  dsimp only
  rw [hy]
  dsimp only
  rw [hsuitable, decide_eq_true hwater]
  rfl

theorem signedHalfWord_of_lt {n : ℕ} (h : n < 0x80000000) : signedHalfWord n = n := by
  unfold signedHalfWord
  exact Int.bmod_eq_of_le (by omega) (by omega)

end

variable {q : CentreSearch Float32} {p : Vec2 Float32}

/-- The cell that a place of whole coordinates falls into. -/
theorem exists_cell_of_valueAt (hmap : IsSurveyable heights) (hp : p.round.IsNumber)
    (hvalue : heights.valueAt p.round = .ok (some level)) :
    ∃ x y : ℤ, (Finite p.round.x ∧ Finite p.round.y) ∧
      (toReal p.round.x = x ∧ toReal p.round.y = y) ∧ heights.at? x y = some level := by
  unfold Grid.valueAt at hvalue
  split at hvalue
  next m n hcell =>
    obtain ⟨⟨hm, hmlt⟩, hn, hnlt⟩ :=
      (Grid.cell_eq_some_iff_of_le hmap.width hmap.height hp).1 hcell
    have hat := Grid.at?_natCast hmlt hnlt
    rw [hvalue] at hat
    exact ⟨m, n, ⟨hm.1, hn.1⟩, ⟨toReal_of_nearestTo hm, toReal_of_nearestTo hn⟩,
      (Except.ok.inj hat).symm⟩
  · cases hvalue

/-- Whether a place of whole coordinates is a centre is decided, and it is right that it is one. -/
theorem isSuitable_spec (hradius : q.radius < 0x80000000) (hmap : IsSurveyable heights)
    (hp : p.round.IsNumber) :
    ∃ suitable, q.isSuitable heights q.mostWater p.round = .ok suitable ∧
      (suitable = true → ∃ (x y : ℤ) (level : Float32),
        (toReal p.round.x = x ∧ toReal p.round.y = y) ∧ q.IsCentre heights x y level) := by
  have hpacked : heights.IsPacked := by
    have := hmap.width
    have := hmap.height
    unfold Grid.IsPacked wordLimit
    omega
  obtain ⟨v, hvalue, -⟩ := Grid.exists_valueAt_eq hpacked (.inl hp)
  cases v with
  | none =>
    refine ⟨false, ?_, nofun⟩
    rw [isSuitable, hvalue]
    rfl
  | some level =>
    by_cases hlevel : 0 < level
    · obtain ⟨x, y, hfinite, hreal, hat⟩ := exists_cell_of_valueAt hmap hp hvalue
      have hsamples : ∀ d ∈ square q.radius, Samples heights p.round x y d := by
        intro d hd
        have := mem_square.1 hd
        refine samples_of_cell hmap.width hmap.height hfinite hreal.1 hreal.2 (by rw [hat]; rfl) ?_
        unfold halfWordLimit
        push_cast
        omega
      have hsurvey : scanRows heights q.slope p.round level q.radius (2 * q.radius + 1)
          (2 * q.radius + 1) (-q.radius) 0 =
            survey heights q.slope level x y (square q.radius) 0 := scanRows_eq_survey hsamples 0
      obtain ⟨found, hfound⟩ : ∃ found,
          survey heights q.slope level x y (square q.radius) 0 = .ok found :=
        exists_survey hmap.cells (nodup_rowsFrom _ _ _ _)
      have hword := signedHalfWord_of_lt hradius
      have hside : (2 * (q.radius : ℤ) + 1).toNat = 2 * q.radius + 1 := by omega
      rw [isSuitable_eq (by omega) hvalue hlevel, hword, hside, hsurvey, hfound]
      cases found with
      | none => exact ⟨false, rfl, nofun⟩
      | some water =>
        obtain ⟨hwater, hlevels⟩ := survey_spec hfound
        refine ⟨_, rfl, fun hdry => ⟨x, y, level, hreal, hat, hlevel, ?_, ?_⟩⟩
        · exact fun dx dy hdx hdy => (hlevels (dx, dy) (mem_square.2 ⟨hdx, hdy⟩)).le
        · rw [← countP_square, ← Nat.zero_add (List.countP _ _), ← hwater]
          exact of_decide_eq_true hdry
    · exact ⟨false, isSuitable_of_not_pos hvalue hlevel _, nofun⟩

/-! ## The search -/

/-- The searched part of an extent, and what is left of the extent, are finite. -/
def Searches (q : CentreSearch Float32) (extent : Float32) : Prop :=
  Single.Finite (extent * q.area) ∧ Single.Finite (extent * (1 - q.area))

instance (q : CentreSearch Float32) (extent : Float32) : Decidable (q.Searches extent) :=
  inferInstanceAs (Decidable (_ ∧ _))

/-- A coordinate that is drawn is a whole number. -/
theorem coordinate_spec {extent : Float32} (h : q.Searches extent) (s : RandomStream) :
    ∃ e, (q.coordinate extent s).1 = Single.round e ∧ Scalar.IsNumber (Single.round e) := by
  have hunit : Within (-1) 1 (s.unit : Float32 × RandomStream).1 :=
    s.unit_within.mono (by decide +kernel) (by decide +kernel)
  have htwo : Single.Finite 2.0 := by decide +kernel
  have hhalf := h.2.div htwo (Within.toReal_pos htwo (by decide +kernel)).ne'
  exact ⟨_, rfl, isNumber_of_isDefined
    (isDefined_roundWhole ((h.1.mul_unit hunit).add_isDefined hhalf.isDefined))⟩

/-- Each attempt is decided, and the first that succeeds found a centre. -/
theorem tryPlaces_spec (hradius : q.radius < 0x80000000) (hmap : IsSurveyable heights)
    (hwidth : q.Searches (Scalar.ofNat heights.width - 1))
    (hheight : q.Searches (Scalar.ofNat heights.height - 1)) (attempts : ℕ) (s : RandomStream) :
    ∃ found s', q.tryPlaces heights q.mostWater attempts s = .ok (found, s') ∧
      ∀ c, found = some c → ∃ (x y : ℤ) (level : Float32),
        (toReal c.x = x ∧ toReal c.y = y) ∧ q.IsCentre heights x y level := by
  induction attempts generalizing s with
  | zero => exact ⟨none, s, rfl, nofun⟩
  | succ attempts ih =>
    rw [tryPlaces]
    obtain ⟨x, hx, hxNumber⟩ := coordinate_spec hwidth s
    obtain ⟨y, hy, hyNumber⟩ := coordinate_spec hheight
      (q.coordinate (Scalar.ofNat heights.width - 1) s).2
    obtain ⟨suitable, hsuitable, hcentre⟩ :=
      isSuitable_spec (p := ⟨x, y⟩) hradius hmap ⟨hxNumber, hyNumber⟩
    change q.isSuitable heights q.mostWater ⟨Single.round x, Single.round y⟩ = .ok suitable
      at hsuitable
    dsimp only
    rw [hx, hy, hsuitable]
    cases suitable with
    | false => exact ih _
    | true =>
      refine ⟨_, _, rfl, fun c hc => ?_⟩
      cases hc
      exact hcentre rfl

/-- The search ends, and what it finds on a map that is not too large is a centre. -/
theorem find_isCentre (q : CentreSearch Float32) (heights : Grid Float32) (s : RandomStream)
    (hradius : q.radius < 0x80000000) (hmap : IsSurveyable heights)
    (hwidth : q.Searches (Scalar.ofNat heights.width - 1))
    (hheight : q.Searches (Scalar.ofNat heights.height - 1)) :
    ∃ found s', q.find heights s = .ok (found, s') ∧
      ∀ c, found = some c → ∃ (x y : ℤ) (level : Float32),
        (toReal c.x = x ∧ toReal c.y = y) ∧ q.IsCentre heights x y level := by
  have hword : ¬ wordLimit < q.radius * 2 := by
    unfold wordLimit
    omega
  rw [find, if_neg hword]
  exact tryPlaces_spec hradius hmap hwidth hheight q.attempts s

/-- A search for level land with little water around it, in the middle half of the map. -/
def levelLand (radius : ℕ) : CentreSearch Float32 where
  radius
  slope := 0.5
  waterRatio := 0.25
  area := 0.5
  attempts := 1

/-- Level land with a pond in one corner. -/
def cornerPond : Grid Float32 := ⟨3, 3, #v[0.0, 1.0, 1.25, 1.0, 1.0, 1.0, 1.0, 1.0, 1.0]⟩

theorem exists_eq_ok_some {β γ : Type} {r : Except Fault (Option β × γ)}
    (h : (r.toOption.bind Prod.fst).isSome) : ∃ b s, r = .ok (some b, s) := by
  obtain _ | ⟨_ | b, s⟩ := r
  · cases h
  · cases h
  · exact ⟨b, s, rfl⟩

/-- In the middle of level land with a pond in one corner, a centre is found. -/
theorem find_isCentre_cornerPond :
    (levelLand 1).radius < 0x80000000 ∧ IsSurveyable cornerPond ∧
      ∃ c s', (levelLand 1).find cornerPond (.ofSeed 0) = .ok (some c, s') ∧
        ∃ (x y : ℤ) (level : Float32), (toReal c.x = x ∧ toReal c.y = y) ∧
          (levelLand 1).IsCentre cornerPond x y level := by
  have hradius : (levelLand 1).radius < 0x80000000 := by decide
  have hmap : IsSurveyable cornerPond := ⟨by decide, by decide, by decide⟩
  obtain ⟨c, s', hfound⟩ := exists_eq_ok_some
    (r := (levelLand 1).find cornerPond (.ofSeed 0)) (by decide +kernel)
  obtain ⟨found, s₁, hfind, hcentre⟩ := find_isCentre (levelLand 1) cornerPond (.ofSeed 0) hradius
    hmap (by decide +kernel) (by decide +kernel)
  cases hfound.symm.trans hfind
  exact ⟨hradius, hmap, c, s', hfound, hcentre c rfl⟩

/-- One cell of land. -/
def islet : Grid Float32 := ⟨1, 1, #v[1.0]⟩

/-- Nowhere on the islet is a centre with surroundings. -/
theorem not_isCentre_islet {radius : ℕ} (hradius : 1 ≤ radius) (x y : ℤ) (level : Float32) :
    ¬ (levelLand radius).IsCentre islet x y level := by
  intro h
  -- The column to the right of the only one is not in the map.
  have hx := Grid.lt_of_isSome_at? (Option.isSome_iff_exists.2 ⟨_, h.land⟩)
  obtain ⟨height, hat, -⟩ := h.level 1 0 (by simpa [levelLand] using hradius) (by simp)
  have hx' := Grid.lt_of_isSome_at? (Option.isSome_iff_exists.2 ⟨_, hat⟩)
  have hwidth : islet.width = 1 := rfl
  omega

/-- The place that is tried on the islet is its cell. -/
theorem valueAt_islet : ∃ x y s₁ s₂,
    (levelLand 0xffffffff).coordinate (Scalar.ofNat islet.width - 1) (.ofSeed 0) = (x, s₁) ∧
      (levelLand 0xffffffff).coordinate (Scalar.ofNat islet.height - 1) s₁ = (y, s₂) ∧
      islet.valueAt ⟨x, y⟩ = .ok (some 1) :=
  ⟨_, _, _, _, Prod.mk.eta.symm, Prod.mk.eta.symm, by decide +kernel⟩

/-- A radius of 2³² is looked at as none, so that a centre is found although the map ends beside it;
one of 2³¹ is not looked at: the search fails; and one of 2³² - 1 leaves nothing to survey, so that
again a centre is found. -/
theorem not_find_isCentre :
    (∃ c s', (levelLand 0x100000000).find islet (.ofSeed 0) = .ok (some c, s') ∧
      ∀ (x y : ℤ) (level : Float32), ¬ (levelLand 0x100000000).IsCentre islet x y level) ∧
    (levelLand 0x80000000).find islet (.ofSeed 0) = .error .overflow ∧
    ∃ c s', (levelLand 0xffffffff).find islet (.ofSeed 0) = .ok (some c, s') ∧
      ∀ (x y : ℤ) (level : Float32), ¬ (levelLand 0xffffffff).IsCentre islet x y level := by
  refine ⟨?_, ?_, ?_⟩
  · obtain ⟨c, s', hfound⟩ := exists_eq_ok_some
      (r := (levelLand 0x100000000).find islet (.ofSeed 0)) (by decide +kernel)
    exact ⟨c, s', hfound, not_isCentre_islet (by decide)⟩
  · have herror : (match (levelLand 0x80000000).find islet (.ofSeed 0) with
      | .error .overflow => true
      | _ => false) = true := by decide +kernel
    generalize (levelLand 0x80000000).find islet (.ofSeed 0) = result at herror ⊢
    match result, herror with
    | .error .overflow, _ => rfl
  · obtain ⟨x, y, s₁, s₂, hx, hy, hvalue⟩ := valueAt_islet
    have hneg : signedHalfWord (levelLand 0xffffffff).radius < 0 := by decide
    have hwater : Scalar.ofNat 0 ≤ (levelLand 0xffffffff).mostWater := by decide +kernel
    have hfound := tryPlaces_of_signedHalfWord_neg hneg (by decide) hx hy hvalue
      (by decide +kernel) hwater 0
    have hword : ¬ wordLimit < (levelLand 0xffffffff).radius * 2 := by decide
    refine ⟨⟨x, y⟩, s₂, ?_, not_isCentre_islet (by decide)⟩
    rw [find, if_neg hword]
    exact hfound

end CentreSearch

end Cityscape
