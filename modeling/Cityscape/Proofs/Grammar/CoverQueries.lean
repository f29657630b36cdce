import Cityscape.Grammar.Condition
import Cityscape.Proofs.Grammar.Cover
import Cityscape.Proofs.Grammar.CurrentScope
import Cityscape.Proofs.Grammar.Rewriting
import Cityscape.Proofs.Scalar.Countdown
import Cityscape.Proofs.Scalar.Sums

/-!
# Queries about covers

A query goes through the history, passes over the shapes that its filter does not admit and over
those that cover nothing of the target, and answers with the first cover that is left. A shape with
the place and the size of the target is found that way, and covers it in full, just when the target
ends at another place than where it starts along every axis: what touches does not cover, and a
facade or another flat shape only touches its own copy.

## Main definitions

* `Scope.IsFinite`, `Scope.HasExtent`, `Scope.Same` — numbers, extents and copies of scopes.
* `ShapeFilter.PassesOver` — what a query passes over.
* `Derivation.IsTwin` — an admitted shape with the place and the size of the target.

## Main statements

* `Shape.covers_same` — when a copy covers a shape.
* `coverBy_eq_none_iff` — a query that answers none has passed over everything.
* `firstCover_twin` — how a twin counts in a query.
-/

namespace Cityscape

/-! ## Equal numbers -/

namespace Single

open Scalar

variable {a a' b b' : Float32}

theorem isNumber_of_beq (h : (a == b) = true) : IsNumber a :=
  beq_trans h (beq_comm a b ▸ h)

theorem lt_congr_beq (ha : (a == a') = true) (hb : (b == b') = true) : b < a ↔ b' < a' := by
  constructor
  · intro h
    exact Total.lt_of_lt_of_le ((Ordered.lt_congr hb a).1 h) (Ordered.le_of_beq ha)
  · intro h
    exact Total.lt_of_lt_of_le ((Ordered.lt_congr hb a').2 h) (Ordered.ge_of_beq ha)

theorem min_beq (ha : (a == a') = true) (hb : (b == b') = true) :
    (Scalar.min a b == Scalar.min a' b') = true := by
  have hself : (a == a) = true := isNumber_of_beq ha
  have hself' : (a' == a') = true := isNumber_of_beq (beq_comm a a' ▸ ha)
  simp only [Scalar.min, lt_congr_beq ha hb, hself, hself']
  split <;> assumption

theorem max_beq (ha : (a == a') = true) (hb : (b == b') = true) :
    (Scalar.max a b == Scalar.max a' b') = true := by
  have hself : (a == a) = true := isNumber_of_beq ha
  have hself' : (a' == a') = true := isNumber_of_beq (beq_comm a a' ▸ ha)
  simp only [Scalar.max, lt_congr_beq hb ha, hself, hself']
  split <;> assumption

theorem Finite.of_beq (hb : Finite b) (h : (a == b) = true) : Finite a := by
  obtain rfl | ⟨s, t, hs, -⟩ := eq_of_beq h
  · exact hb
  · exact congrArg _ hs

theorem Finite.add_beq (ha : Finite a) (ha' : Finite a') (hb : Finite b) (hb' : Finite b')
    (haa' : (a == a') = true) (hbb' : (b == b') = true) : (a + b == a' + b') = true := by
  have hsum : toReal a + toReal b = toReal a' + toReal b' := by
    rw [(beq_iff_toReal ha ha').1 haa', (beq_iff_toReal hb hb').1 hbb']
  have hround := ha.add hb
  have hround' := ha'.add hb'
  exact beq_of_le_of_le (hround.le hround' hsum.le) (hround'.le hround hsum.ge)

/-- The larger of two numbers is not above the smaller one just when they are equal. -/
theorem max_le_min_iff (ha : IsNumber a) (hb : IsNumber b) :
    Scalar.max a b ≤ Scalar.min a b ↔ (b == a) = true := by
  have hself : (a == a) = true := ha
  by_cases hba : b < a
  · have hab : ¬ a < b := Total.not_lt_of_le (Ordered.le_of_lt hba)
    simp only [Scalar.max, Scalar.min, if_pos hba, if_neg hab, hself, if_true]
    refine iff_of_false (fun h => Total.not_lt_of_le h hba) fun h => ?_
    exact Total.not_lt_of_le (Ordered.ge_of_beq h) hba
  · by_cases hab : a < b
    · simp only [Scalar.max, Scalar.min, if_neg hba, if_pos hab, hself, if_true]
      refine iff_of_false (fun h => Total.not_lt_of_le h hab) fun h => ?_
      exact Total.not_lt_of_le (Ordered.le_of_beq h) hab
    · simp only [Scalar.max, Scalar.min, if_neg hba, if_neg hab, hself, if_true]
      have hle := Total.le_of_not_lt hb ha hba
      have hge := Total.le_of_not_lt ha hb hab
      exact iff_of_true ha.le_self (beq_of_le_of_le hge hle)

end Single

/-! ## Shapes with the same place and size -/

theorem Vec3.beq_iff {v w : Vec3 Float32} :
    (v == w) = true ↔ ∀ axis, (v.get axis == w.get axis) = true := by
  have hcomponents : (v == w) = true ↔
      ((v.x == w.x) = true ∧ (v.y == w.y) = true) ∧ (v.z == w.z) = true := by
    rw [← Bool.and_eq_true_iff, ← Bool.and_eq_true_iff]
    rfl
  rw [hcomponents]
  exact ⟨fun h axis => by cases axis; exacts [h.1.1, h.1.2, h.2],
    fun h => ⟨⟨h .x, h .y⟩, h .z⟩⟩

namespace Grammar

open Single

namespace Scope

variable {s t : Scope Float32} {axis : Axis}

/-- Position and extents of a scope are finite. -/
def IsFinite (s : Scope Float32) : Prop :=
  ∀ axis, Finite (s.position.get axis) ∧ Finite (s.size.get axis)

/-- Along every axis a scope ends at another place than where it starts. A flat scope does not, and
neither does one that is so small that its extent is lost in the sum with its position. -/
def HasExtent (s : Scope Float32) : Prop :=
  ∀ axis, (s.position.get axis + s.size.get axis == s.position.get axis) = false

/-- Two scopes have the same position and the same size. -/
def Same (s t : Scope Float32) : Prop :=
  (s.position == t.position) = true ∧ (s.size == t.size) = true

instance (s : Scope Float32) : Decidable s.IsFinite :=
  decidable_of_iff (∀ axis ∈ Axis.all, _) Axis.forall_mem_all

instance (s : Scope Float32) : Decidable s.HasExtent :=
  decidable_of_iff (∀ axis ∈ Axis.all, _) Axis.forall_mem_all

theorem IsFinite.isNumber (h : s.IsFinite) (axis : Axis) :
    Scalar.IsNumber (s.position.get axis) ∧
      Scalar.IsNumber (s.position.get axis + s.size.get axis) := by
  obtain ⟨hposition, hsize⟩ := h axis
  exact ⟨isNumber_of_isDefined hposition.isDefined,
    isNumber_of_isDefined (hposition.add_isDefined hsize.isDefined)⟩

theorem IsFinite.same_self (h : s.IsFinite) : s.Same s :=
  ⟨Vec3.beq_iff.2 fun axis => isNumber_of_isDefined (h axis).1.isDefined,
    Vec3.beq_iff.2 fun axis => isNumber_of_isDefined (h axis).2.isDefined⟩

/-- A scope without an extent along an axis is not seen to have one. -/
theorem not_hasExtent_of_flat (h : s.IsFinite) (axis : Axis)
    (hflat : (s.size.get axis == 0) = true) : ¬ s.HasExtent := by
  intro hextent
  obtain ⟨hnull, hfinite⟩ := null_of_beq_zero hflat
  exact Bool.false_ne_true ((hextent axis).symm.trans ((h axis).1.add_null_beq hnull hfinite))

theorem Same.isFinite (h : s.Same t) (ht : t.IsFinite) : s.IsFinite := fun axis =>
  ⟨(ht axis).1.of_beq (Vec3.beq_iff.1 h.1 axis), (ht axis).2.of_beq (Vec3.beq_iff.1 h.2 axis)⟩

theorem Same.sameInterval (h : s.Same t) (hs : s.IsFinite) (ht : t.IsFinite) (axis : Axis) :
    s.SameInterval t axis := by
  have hposition := Vec3.beq_iff.1 h.1 axis
  have hsize := Vec3.beq_iff.1 h.2 axis
  have hsum := (hs axis).1.add_beq (ht axis).1 (hs axis).2 (ht axis).2 hposition hsize
  exact ⟨min_beq hposition hsum, max_beq hposition hsum⟩

/-- Scopes with the same intervals lie apart along an axis just when they end there where they
start. -/
theorem Same.apart_iff (h : s.Same t) (hs : s.IsFinite) (ht : t.IsFinite) :
    s.Apart t axis ↔ (t.position.get axis + t.size.get axis == t.position.get axis) = true := by
  obtain ⟨hlow, hhigh⟩ := h.sameInterval hs ht axis
  obtain ⟨hposition, hsum⟩ := ht.isNumber axis
  have hdegenerate : (t.interval axis).2 ≤ (t.interval axis).1 ↔
      (t.position.get axis + t.size.get axis == t.position.get axis) = true :=
    max_le_min_iff hposition hsum
  rw [← hdegenerate, Apart]
  constructor
  · rintro (hle | hle)
    · exact (Scalar.Ordered.le_congr hlow _).1 hle
    · exact Scalar.Ordered.le_trans (Scalar.Ordered.ge_of_beq hhigh) hle
  · intro hle
    exact .inl ((Scalar.Ordered.le_congr hlow _).2 hle)

theorem Same.holds (h : s.Same t) (hs : s.IsFinite) (ht : t.IsFinite) : s.Holds t axis := by
  obtain ⟨hlow, hhigh⟩ := h.sameInterval hs ht axis
  exact ⟨Scalar.Ordered.le_of_beq hlow, Scalar.Ordered.ge_of_beq hhigh⟩

end Scope

/-- A copy of a shape covers it in full, or not at all where the shape ends where it starts. -/
theorem Shape.covers_same {s t : Shape Float32} (h : s.scope.Same t.scope)
    (ht : t.scope.IsFinite) :
    (s.covers t = .full ↔ t.scope.HasExtent) ∧ (s.covers t = .none ↔ ¬ t.scope.HasExtent) := by
  have hs : s.scope.IsFinite := h.isFinite ht
  rw [covers_eq_full_iff, covers_eq_none_iff]
  simp only [h.apart_iff hs ht, h.holds hs ht, true_and, Scope.HasExtent, not_forall,
    Bool.not_eq_true, Bool.not_eq_false]

/-! ## What queries pass over -/

section

variable {α : Type} [Scalar α] {d : Derivation α} {filter : ShapeFilter} {target s : Shape α}
  {l l' : List (Shape α)}

/-- A query for the target passes over the target itself, over the shapes that the filter does not
admit, and over those that cover nothing of it. -/
def ShapeFilter.PassesOver (filter : ShapeFilter) (d : Derivation α) (target s : Shape α) : Prop :=
  s.id = target.id ∨
    ∃ b, filter.admits d target s = .ok b ∧ (b = true → s.covers target = .none)

theorem ShapeFilter.passesOver_iff (hid : s.id ≠ target.id)
    (hadmits : filter.admits d target s = .ok true) :
    filter.PassesOver d target s ↔ s.covers target = .none := by
  simp [PassesOver, hid, hadmits]

theorem coverBy_cons_of_passesOver (h : filter.PassesOver d target s) :
    coverBy d target filter (s :: l) = coverBy d target filter l := by
  rw [coverBy]
  split
  next => rfl
  next hid =>
    obtain ⟨b, hadmits, hnone⟩ := h.resolve_left hid
    rw [hadmits]
    cases b with
    | false => rfl
    | true => simp [Bind.bind, Except.bind, hnone rfl]

theorem coverBy_cons_of_covers (hid : s.id ≠ target.id)
    (hadmits : filter.admits d target s = .ok true) (hcovers : s.covers target ≠ .none) :
    coverBy d target filter (s :: l) = .ok (s.covers target) := by
  rw [coverBy, if_neg hid, hadmits]
  simp only [Bind.bind, Except.bind, if_true]
  cases hcover : s.covers target with
  | none => exact absurd hcover hcovers
  | full | part => rfl

/-- A shape that is not passed over ends the query, with its cover or with the fault of the
filter. -/
theorem coverBy_cons_of_not_passesOver (h : ¬ filter.PassesOver d target s) :
    (∃ fault, filter.admits d target s = .error fault ∧
      coverBy d target filter (s :: l) = .error fault) ∨
    s.covers target ≠ .none ∧ coverBy d target filter (s :: l) = .ok (s.covers target) := by
  obtain ⟨hid, hadmitted⟩ := not_or.1 h
  cases hadmits : filter.admits d target s with
  | error fault =>
    refine .inl ⟨fault, rfl, ?_⟩
    rw [coverBy, if_neg hid, hadmits]
    rfl
  | ok b =>
    have hcovers : b = true ∧ s.covers target ≠ .none :=
      Classical.not_imp.1 fun hpasses => hadmitted ⟨b, hadmits, hpasses⟩
    rw [hcovers.1] at hadmits
    exact .inr ⟨hcovers.2, coverBy_cons_of_covers hid hadmits hcovers.2⟩

theorem coverBy_append_of_passesOver (h : ∀ s ∈ l, filter.PassesOver d target s) :
    coverBy d target filter (l ++ l') = coverBy d target filter l' := by
  induction l with
  | nil => rfl
  | cons s l ih =>
    rw [List.forall_mem_cons] at h
    rw [List.cons_append, coverBy_cons_of_passesOver h.1, ih h.2]

/-- The shapes in front of two lists do not tell apart what is told of the lists. -/
theorem coverBy_append_congr {l₁ l₂ : List (Shape α)}
    (h : coverBy d target filter l₁ = coverBy d target filter l₂) :
    coverBy d target filter (l ++ l₁) = coverBy d target filter (l ++ l₂) := by
  induction l with
  | nil => exact h
  | cons s l ih => simp only [List.cons_append, coverBy, ih]

/-- A query answers none if and only if it passes over all shapes. -/
theorem coverBy_eq_none_iff :
    coverBy d target filter l = .ok .none ↔ ∀ s ∈ l, filter.PassesOver d target s := by
  constructor
  · intro h
    induction l with
    | nil => exact nofun
    | cons s l ih =>
      have hpasses : filter.PassesOver d target s := by
        by_contra hstops
        obtain ⟨fault, -, heq⟩ | ⟨hcovers, heq⟩ := coverBy_cons_of_not_passesOver (l := l) hstops
        · cases heq.symm.trans h
        · exact hcovers (Except.ok.inj (heq.symm.trans h))
      rw [coverBy_cons_of_passesOver hpasses] at h
      exact List.forall_mem_cons.2 ⟨hpasses, ih h⟩
  · intro h
    rw [← List.append_nil l, coverBy_append_of_passesOver h]
    rfl

/-- A query ends with an answer if its filter tells of each shape whether it is admitted. -/
theorem exists_coverBy (h : ∀ s ∈ l, ∃ b, filter.admits d target s = .ok b) :
    ∃ cover, coverBy d target filter l = .ok cover := by
  induction l with
  | nil => exact ⟨.none, rfl⟩
  | cons s l ih =>
    obtain ⟨⟨b, hadmits⟩, hrest⟩ := List.forall_mem_cons.1 h
    by_cases hpasses : filter.PassesOver d target s
    · rw [coverBy_cons_of_passesOver hpasses]
      exact ih hrest
    · obtain ⟨fault, herror, -⟩ | ⟨-, heq⟩ := coverBy_cons_of_not_passesOver (l := l) hpasses
      · cases hadmits.symm.trans herror
      · exact ⟨_, heq⟩

omit [Scalar α] in
/-- A filter tells of each shape whether it is admitted; the one that asks for the lineage of the
target needs parents that come first. -/
theorem ShapeFilter.exists_admits {k : ShapeId} (hnumbered : d.Numbered)
    (htarget : d.shapes[k]? = some target)
    (hparents : filter = .noParent → Derivation.ParentsFirst d.shapes) (s : Shape α) :
    ∃ b, filter.admits d target s = .ok b := by
  cases filter with
  | all => exact ⟨_, rfl⟩
  | active => exact ⟨_, rfl⟩
  | symbol name => exact ⟨_, rfl⟩
  | noParent =>
    rw [admits]
    cases s.id with
    | none => exact ⟨_, rfl⟩
    | some id =>
      obtain ⟨b, hb, -⟩ := Derivation.isLineage_eq_ok (hparents rfl) htarget
        (hnumbered k target htarget) id
      exact ⟨!b, congrArg (Except.map _) hb⟩

end

/-! ## Twins -/

/-- At place `i` of the history there is a shape with the position and the size of the target, which
is the shape at another place `k`, and the filter admits it. -/
structure Derivation.IsTwin (d : Derivation Float32) (filter : ShapeFilter) (i k : ShapeId)
    (twin target : Shape Float32) : Prop where
  getElem?_twin : d.shapes[i]? = some twin
  getElem?_target : d.shapes[k]? = some target
  place : i ≠ k
  admitted : filter.admits d target twin = .ok true
  same : twin.scope.Same target.scope

section

variable {d : Derivation Float32} {filter : ShapeFilter} {i k : ShapeId}
  {twin target : Shape Float32}

theorem Derivation.IsTwin.id_ne (h : d.IsTwin filter i k twin target) (hnumbered : d.Numbered) :
    twin.id ≠ target.id := by
  rw [hnumbered i twin h.getElem?_twin, hnumbered k target h.getElem?_target]
  exact fun heq => h.place (Option.some.inj heq)

/-- The history around a twin. -/
theorem Derivation.IsTwin.toList_eq (h : d.IsTwin filter i k twin target) :
    d.shapes.toList = d.shapes.toList.take i ++ twin :: d.shapes.toList.drop (i + 1) := by
  have hget : d.shapes.toList[i]? = some twin := by
    rw [Array.getElem?_toList]
    exact h.getElem?_twin
  obtain ⟨hi, heq⟩ := List.getElem?_eq_some_iff.1 hget
  rw [← heq, List.cons_getElem_drop_succ, List.take_append_drop]

end

/-! ### A shape that is entered twice -/

/-- A shape as it enters the history. -/
def Shape.entered (s : Shape Float32) (id : ShapeId) : Shape Float32 :=
  { s with id := some id, status := .active }

namespace Derivation

/-- The history of a shape and its copy. -/
def twice (s : Shape Float32) : Derivation Float32 := ((ofSeed 0).spawn s).spawn s

variable {s : Shape Float32}

theorem numbered_twice (s : Shape Float32) : (twice s).Numbered :=
  ((numbered_clear (.ofSeed 0)).spawn s).spawn s

theorem parentsFirst_twice (h : s.parent = none) : ParentsFirst (twice s).shapes := by
  intro id parent hparent
  rw [twice, hasParent_spawn, hasParent_spawn, h] at hparent
  obtain (⟨t, ht, -⟩ | ⟨-, hnone⟩) | ⟨-, hnone⟩ := hparent
  · cases ht
  · cases hnone
  · cases hnone

theorem isTwin_twice {filter : ShapeFilter} (hfinite : s.scope.IsFinite)
    (hadmits : filter.admits (twice s) (s.entered 1) (s.entered 0) = .ok true) :
    (twice s).IsTwin filter 0 1 (s.entered 0) (s.entered 1) :=
  ⟨rfl, rfl, Nat.zero_ne_one, hadmits, hfinite.same_self⟩

end Derivation

/-! ### How a twin counts -/

/-- A twin of a target with extents along all axes counts in a query: the answer is not none, there
is an answer if parents come first where the filter asks for the lineage, and the cover is full if
the query passes over the shapes before the twin. A twin of any other target does not count: the
query answers as if it were not there, and none if it passes over all other shapes. -/
theorem firstCover_twin {d : Derivation Float32} {filter : ShapeFilter} {i k : ShapeId}
    {twin target : Shape Float32} (hnumbered : d.Numbered) (htwin : d.IsTwin filter i k twin target)
    (hfinite : target.scope.IsFinite) :
    (firstCover d target filter = .ok .none ↔ ¬ target.scope.HasExtent ∧
      ∀ s ∈ d.shapes.toList.eraseIdx i, filter.PassesOver d target s) ∧
    (target.scope.HasExtent →
      ((filter = .noParent → Derivation.ParentsFirst d.shapes) →
        ∃ cover, firstCover d target filter = .ok cover ∧ cover ≠ .none) ∧
      ((∀ s ∈ d.shapes.toList.take i, filter.PassesOver d target s) →
        firstCover d target filter = .ok .full)) ∧
    (¬ target.scope.HasExtent →
      firstCover d target filter = coverBy d target filter (d.shapes.toList.eraseIdx i)) := by
  obtain ⟨hfull, hnone⟩ := Shape.covers_same htwin.same hfinite
  have hid : twin.id ≠ target.id := htwin.id_ne hnumbered
  have hpasses : filter.PassesOver d target twin ↔ ¬ target.scope.HasExtent :=
    (ShapeFilter.passesOver_iff hid htwin.admitted).trans hnone
  have hhistory := htwin.toList_eq
  have hiff : firstCover d target filter = .ok .none ↔ ¬ target.scope.HasExtent ∧
      ∀ s ∈ d.shapes.toList.eraseIdx i, filter.PassesOver d target s := by
    rw [firstCover, coverBy_eq_none_iff, List.eraseIdx_eq_take_drop_succ, List.forall_mem_append,
      ← hpasses]
    conv_lhs => rw [hhistory, List.forall_mem_append, List.forall_mem_cons]
    exact and_left_comm
  refine ⟨hiff, fun hextent => ⟨fun hparents => ?_, fun hbefore => ?_⟩, fun hflat => ?_⟩
  · obtain ⟨cover, hcover⟩ := exists_coverBy (l := d.shapes.toList) fun s _ =>
      filter.exists_admits hnumbered htwin.getElem?_target hparents s
    exact ⟨cover, hcover, fun heq => (hiff.1 (heq ▸ hcover)).1 hextent⟩
  · have hcovers : twin.covers target = .full := hfull.2 hextent
    rw [firstCover, hhistory, coverBy_append_of_passesOver hbefore,
      coverBy_cons_of_covers hid htwin.admitted (by rw [hcovers]; nofun), hcovers]
  · -- The twin covers nothing of the target here, so the query passes over it like over any other.
    rw [firstCover, List.eraseIdx_eq_take_drop_succ]
    conv_lhs => rw [hhistory]
    exact coverBy_append_congr (coverBy_cons_of_passesOver (hpasses.2 hflat))

/-- Two crates: the first one counts in a query for the second. -/
theorem firstCover_twin_crates :
    let crate : Shape Float32 := .ofBox (some "crate") ⟨⟨⟨1, 0, 0⟩, ⟨4, 3, 2⟩⟩, 0⟩
    (Derivation.twice crate).IsTwin .noParent 0 1 (crate.entered 0) (crate.entered 1) ∧
      crate.scope.IsFinite ∧ crate.scope.HasExtent ∧
      Derivation.ParentsFirst (Derivation.twice crate).shapes ∧
      (∃ cover, firstCover (Derivation.twice crate) (crate.entered 1) .noParent = .ok cover ∧
        cover ≠ .none) ∧
      firstCover (Derivation.twice crate) (crate.entered 1) .noParent = .ok .full := by
  intro crate
  have hfinite : crate.scope.IsFinite := by decide +kernel
  have hextent : crate.scope.HasExtent := by decide +kernel
  have htwin : (Derivation.twice crate).IsTwin .noParent 0 1 (crate.entered 0) (crate.entered 1) :=
    Derivation.isTwin_twice hfinite rfl
  have hparents := Derivation.parentsFirst_twice (s := crate) rfl
  obtain ⟨-, hcounts, -⟩ := firstCover_twin (Derivation.numbered_twice crate) htwin hfinite
  exact ⟨htwin, hfinite, hextent, hparents, (hcounts hextent).1 fun _ => hparents,
    (hcounts hextent).2 nofun⟩

/-- Two facades, and two crates so far out that the sums of their positions and sizes are rounded
back to the positions: a query for the second one answers none. -/
theorem firstCover_twin_facades :
    let facade : Shape Float32 := .ofBox (some "facade") ⟨⟨0, ⟨4, 3, 0⟩⟩, 0⟩
    let crate : Shape Float32 := .ofBox (some "crate") ⟨⟨⟨16777216, 0, 0⟩, ⟨1, 1, 1⟩⟩, 0⟩
    ∀ s ∈ [facade, crate],
      (Derivation.twice s).IsTwin .all 0 1 (s.entered 0) (s.entered 1) ∧ s.scope.IsFinite ∧
        firstCover (Derivation.twice s) (s.entered 1) .all = .ok .none := by
  intro facade crate s hs
  have hflat : s.scope.IsFinite ∧ ¬ s.scope.HasExtent := by
    rw [List.mem_cons, List.mem_singleton] at hs
    obtain rfl | rfl := hs
    · exact ⟨by decide +kernel,
        Scope.not_hasExtent_of_flat (by decide +kernel) .z (by decide +kernel)⟩
    · exact ⟨by decide +kernel, by decide +kernel⟩
  obtain ⟨hfinite, hflat⟩ := hflat
  have htwin : (Derivation.twice s).IsTwin .all 0 1 (s.entered 0) (s.entered 1) :=
    Derivation.isTwin_twice hfinite rfl
  have hnone : (s.entered 0).covers (s.entered 1) = .none :=
    (Shape.covers_same htwin.same hfinite).2.2 hflat
  have hfirst : ShapeFilter.all.PassesOver (Derivation.twice s) (s.entered 1) (s.entered 0) :=
    .inr ⟨true, rfl, fun _ => hnone⟩
  have hall : ∀ t ∈ [s.entered 0, s.entered 1],
      ShapeFilter.all.PassesOver (Derivation.twice s) (s.entered 1) t :=
    List.forall_mem_cons.2 ⟨hfirst, List.forall_mem_singleton.2 (.inl rfl)⟩
  exact ⟨htwin, hfinite, coverBy_eq_none_iff.2 hall⟩

end Grammar

end Cityscape
