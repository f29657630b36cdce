import Cityscape.Grammar.Shape
import Cityscape.Proofs.Scalar.Extremes

/-!
# How volumes cover each other

Whether a shape covers another one is decided along each axis by two intervals: they may lie apart,
and one may hold the other. Both go together as they should, whatever numbers the intervals end at:
being apart does not depend on the order of the two, an interval holds what is held by one that it
holds, and what lies apart from an interval lies apart from all that it holds. So covers are a
consistent relation between shapes.

## Main definitions

* `Scope.Apart`, `Scope.Holds` — how the intervals of two scopes lie along an axis.

## Main statements

* `Shape.covers_eq_none_iff`, `Shape.covers_eq_full_iff` — covers by intervals.
* `Shape.covers_consistent` — how the covers of two and of three shapes go together.
-/

namespace Cityscape

theorem Single.beq_of_le_of_le {a b : Float32} (hab : a ≤ b) (hba : b ≤ a) : (a == b) = true := by
  obtain ⟨r, s, ha, hb, hrs⟩ := le_iff_rank.1 hab
  obtain ⟨s', r', hb', ha', hsr⟩ := le_iff_rank.1 hba
  cases ha.symm.trans ha'
  cases hb.symm.trans hb'
  exact beq_iff_rank.2 ⟨r, ha, le_antisymm hrs hsr ▸ hb⟩

theorem Axis.forall_mem_all {P : Axis → Prop} : (∀ axis ∈ all, P axis) ↔ ∀ axis, P axis :=
  ⟨fun h axis => h axis (by cases axis <;> decide), fun h axis _ => h axis⟩

namespace Grammar

/-! ## Intervals along an axis -/

namespace Scope

variable {α : Type} [Scalar α] {s t u : Scope α} {axis : Axis}

/-- Along an axis, two scopes have no inner point in common. -/
def Apart (s t : Scope α) (axis : Axis) : Prop :=
  (t.interval axis).2 ≤ (s.interval axis).1 ∨ (s.interval axis).2 ≤ (t.interval axis).1

/-- Along an axis, the interval of a scope contains that of another one. -/
def Holds (s t : Scope α) (axis : Axis) : Prop :=
  (s.interval axis).1 ≤ (t.interval axis).1 ∧ (t.interval axis).2 ≤ (s.interval axis).2

/-- Along an axis, two scopes have equal intervals. -/
def SameInterval (s t : Scope α) (axis : Axis) : Prop :=
  ((s.interval axis).1 == (t.interval axis).1) = true ∧
    ((s.interval axis).2 == (t.interval axis).2) = true

theorem apart_comm : s.Apart t axis ↔ t.Apart s axis := or_comm

variable [Scalar.Ordered α]

theorem Holds.trans (h : s.Holds t axis) (h' : t.Holds u axis) : s.Holds u axis :=
  ⟨Scalar.Ordered.le_trans h.1 h'.1, Scalar.Ordered.le_trans h'.2 h.2⟩

/-- What lies apart from an interval lies apart from all that it holds. -/
theorem Holds.apart (h : s.Holds t axis) (happart : s.Apart u axis) : t.Apart u axis :=
  happart.imp (Scalar.Ordered.le_trans · h.1) (Scalar.Ordered.le_trans h.2 ·)

omit [Scalar.Ordered α] in
theorem Holds.sameInterval {s t : Scope Float32} (h : s.Holds t axis) (h' : t.Holds s axis) :
    s.SameInterval t axis :=
  ⟨Single.beq_of_le_of_le h.1 h'.1, Single.beq_of_le_of_le h'.2 h.2⟩

end Scope

/-! ## Covers -/

namespace Shape

section

variable {α : Type} [Scalar α] {s t : Shape α}

theorem coverAlong_eq_none_iff {axes : List Axis} {contained : Bool} :
    s.coverAlong t axes contained = .none ↔ ∃ axis ∈ axes, s.scope.Apart t.scope axis := by
  induction axes generalizing contained with
  | nil => cases contained <;> simp [coverAlong]
  | cons axis axes ih =>
    rw [coverAlong, List.exists_mem_cons_iff]
    simp only [Scope.Apart] at ih ⊢
    split
    next happart => exact iff_of_true rfl (.inl happart)
    next hmeet => rw [ih, or_iff_right hmeet]

theorem coverAlong_eq_full_iff {axes : List Axis} {contained : Bool} :
    s.coverAlong t axes contained = .full ↔ contained = true ∧
      ∀ axis ∈ axes, s.scope.Holds t.scope axis ∧ ¬ s.scope.Apart t.scope axis := by
  induction axes generalizing contained with
  | nil => cases contained <;> simp [coverAlong]
  | cons axis axes ih =>
    rw [coverAlong, List.forall_mem_cons]
    simp only [Scope.Apart, Scope.Holds] at ih ⊢
    split
    next happart => exact iff_of_false nofun fun h => h.2.1.2 happart
    next hmeet =>
      rw [ih, Bool.and_eq_true, Bool.and_eq_true, decide_eq_true_iff, decide_eq_true_iff]
      tauto

/-- A cover is nothing if and only if the two shapes lie apart along some axis. -/
theorem covers_eq_none_iff : s.covers t = .none ↔ ∃ axis, s.scope.Apart t.scope axis := by
  rw [covers, coverAlong_eq_none_iff, ← not_iff_not]
  simp only [not_exists, not_and]
  exact Axis.forall_mem_all

/-- A cover is full if and only if the target is held along every axis and does not lie apart. -/
theorem covers_eq_full_iff :
    s.covers t = .full ↔
      ∀ axis, s.scope.Holds t.scope axis ∧ ¬ s.scope.Apart t.scope axis := by
  rw [covers, coverAlong_eq_full_iff, eq_self_iff_true, true_and]
  exact Axis.forall_mem_all

theorem covers_eq_none_comm : s.covers t = .none ↔ t.covers s = .none := by
  rw [covers_eq_none_iff, covers_eq_none_iff]
  exact exists_congr fun axis => Scope.apart_comm

variable [Scalar.Ordered α] {u : Shape α}

/-- What a shape does not cover is not covered by what it covers in full either. -/
theorem covers_eq_none_of_full (h : s.covers t = .full) (hnone : s.covers u = .none) :
    t.covers u = .none := by
  rw [covers_eq_none_iff] at hnone ⊢
  obtain ⟨axis, happart⟩ := hnone
  exact ⟨axis, (covers_eq_full_iff.1 h axis).1.apart happart⟩

theorem covers_full_trans (h : s.covers t = .full) (h' : t.covers u = .full) :
    s.covers u = .full := by
  rw [covers_eq_full_iff] at h h' ⊢
  intro axis
  refine ⟨(h axis).1.trans (h' axis).1, fun happart => (h' axis).2 ?_⟩
  exact (h axis).1.apart happart

end

/-- Covers of shapes are decided by their intervals and go together, whether or not their numbers
are finite: a cover is nothing or it is not, in either direction; shapes that cover each other in
full have the same intervals; what is covered in full by a shape that is covered in full is covered
in full; and a shape covers some of everything that a shape covers some of which it covers in
full. -/
theorem covers_consistent (s t u : Shape Float32) :
    (s.covers t = .none ↔ ∃ axis, s.scope.Apart t.scope axis) ∧
      (s.covers t = .full ↔ ∀ axis, s.scope.Holds t.scope axis ∧ ¬ s.scope.Apart t.scope axis) ∧
      (s.covers t = .none ↔ t.covers s = .none) ∧
      (s.covers t = .full → t.covers s = .full → ∀ axis, s.scope.SameInterval t.scope axis) ∧
      (s.covers t = .full → t.covers u = .full → s.covers u = .full) ∧
      (s.covers t = .full → t.covers u ≠ .none → s.covers u ≠ .none) := by
  refine ⟨covers_eq_none_iff, covers_eq_full_iff, covers_eq_none_comm, fun h h' axis => ?_,
    covers_full_trans, fun h hsome hnone => ?_⟩
  · exact (covers_eq_full_iff.1 h axis).1.sameInterval (covers_eq_full_iff.1 h' axis).1
  · exact hsome (covers_eq_none_of_full h hnone)

/-- A mass, the same mass given from the opposite corner, and a core inside of both. -/
theorem covers_consistent_masses :
    let mass : Shape Float32 := .ofBox (some "mass") ⟨⟨0, ⟨4, 4, 4⟩⟩, 0⟩
    let reversed : Shape Float32 := .ofBox (some "mass") ⟨⟨⟨4, 4, 4⟩, ⟨-4, -4, -4⟩⟩, 0⟩
    let core : Shape Float32 := .ofBox (some "core") ⟨⟨⟨1, 1, 1⟩, ⟨2, 2, 2⟩⟩, 0⟩
    mass.covers reversed = .full ∧ reversed.covers mass = .full ∧ reversed.covers core = .full ∧
      (∀ axis, mass.scope.SameInterval reversed.scope axis) ∧ mass.covers core = .full ∧
      mass.covers core ≠ .none := by
  intro mass reversed core
  have hback : mass.covers reversed = .full := by decide +kernel
  have hforth : reversed.covers mass = .full := by decide +kernel
  have hcore : reversed.covers core = .full := by decide +kernel
  have hsome : reversed.covers core ≠ .none := by rw [hcore]; decide
  obtain ⟨-, -, -, hsame, htrans, hsound⟩ := covers_consistent mass reversed core
  exact ⟨hback, hforth, hcore, hsame hback hforth, htrans hback hcore, hsound hback hsome⟩

end Shape

end Grammar

end Cityscape
