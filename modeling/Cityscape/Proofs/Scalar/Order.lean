import Cityscape.Proofs.Scalar.Laws

/-!
# The order of numbers

Numbers are compared by rank: by their sign and kind first, then by exponent and mantissa. What is
not a number has no rank and compares with nothing.

## Main definitions

* `Scalar.Ordered` — what can be relied on when numbers are compared.
* `Single.rank` — the rank of a single-precision number.

## Main statements

* `Single.compare_eq_rank` — numbers compare as their ranks do, so single-precision numbers are
  ordered.
-/

namespace Cityscape

/-- Comparisons go together: equal numbers lie on no side of each other, and what lies below a
number lies below all that are not smaller. Nothing is said about numbers that do not compare. -/
class Scalar.Ordered (α : Type) [Scalar α] : Prop where
  le_of_lt {a b : α} : a < b → a ≤ b
  le_trans {a b c : α} : a ≤ b → b ≤ c → a ≤ c
  lt_of_le_of_lt {a b c : α} : a ≤ b → b < c → a < c
  le_of_beq {a b : α} : (a == b) = true → a ≤ b
  ge_of_beq {a b : α} : (a == b) = true → b ≤ a

namespace Scalar.Ordered

variable {α : Type} [Scalar α] [Scalar.Ordered α] {a b : α}

/-- Equal numbers lie above the same numbers. -/
theorem le_congr (h : (a == b) = true) (c : α) : c ≤ a ↔ c ≤ b :=
  ⟨fun hc => le_trans hc (le_of_beq h), fun hc => le_trans hc (ge_of_beq h)⟩

/-- Equal numbers lie below the same numbers. -/
theorem lt_congr (h : (a == b) = true) (c : α) : a < c ↔ b < c :=
  ⟨fun hc => lt_of_le_of_lt (ge_of_beq h) hc, fun hc => lt_of_le_of_lt (le_of_beq h) hc⟩

end Scalar.Ordered

namespace Single

open Float.Model (UnpackedFloat)
open Float.Model.UnpackedFloat

/-! ## Ranks -/

/-- The place of a number among the others: negative infinity, negative numbers, zeros, positive
numbers, positive infinity; numbers of the same sign by exponent and then by mantissa. -/
def rank : UnpackedFloat → Option (ℤ ×ₗ ℤ ×ₗ ℤ)
  | .notANumber => none
  | .infinity .negative => some (toLex (-2, toLex (0, 0)))
  | .finite .negative m e _ => some (toLex (-1, toLex (-e, -m)))
  | .zero _ => some (toLex (0, toLex (0, 0)))
  | .finite .positive m e _ => some (toLex (1, toLex (e, m)))
  | .infinity .positive => some (toLex (2, toLex (0, 0)))

theorem compare_natCast (m n : ℕ) : compare (m : ℤ) (n : ℤ) = compare m n := by
  simp [Int.compare_eq_ite_lt, Nat.compare_eq_ite_lt]

theorem compare_neg (a b : ℤ) : compare (-a) (-b) = (compare a b).swap := by
  rw [Int.compare_swap]
  simp [Int.compare_eq_ite_lt]

theorem compare_eq_rank (f g : UnpackedFloat) :
    f.compare g = (rank f).bind fun a => (rank g).map fun b => compare a b := by
  cases f with
  | notANumber => rfl
  | infinity s =>
    cases g with
    | notANumber => cases s <;> rfl
    | infinity t => cases s <;> cases t <;> rfl
    | zero t => cases s <;> rfl
    | finite t n d hn => cases s <;> cases t <;> rfl
  | zero s =>
    cases g with
    | notANumber => rfl
    | infinity t => cases t <;> rfl
    | zero t => rfl
    | finite t n d hn => cases t <;> rfl
  | finite s m e hm =>
    cases g with
    | notANumber => cases s <;> rfl
    | infinity t => cases s <;> cases t <;> rfl
    | zero t => cases s <;> rfl
    | finite t n d hn =>
      have hpositive : ((compare e d).then (compare m n)) =
          compare (toLex (e, (m : ℤ))) (toLex (d, (n : ℤ))) := by
        rw [← compare_natCast]
        rfl
      have hnegative : ((compare e d).then (compare m n)).swap =
          compare (toLex (-e, -(m : ℤ))) (toLex (-d, -(n : ℤ))) := by
        rw [← compare_natCast, Ordering.swap_then, ← compare_neg, ← compare_neg]
        rfl
      cases s <;> cases t
      · exact congrArg some hnegative
      · rfl
      · rfl
      · exact congrArg some hpositive

/-- A rank is the rank of one number only, unless it is that of the zeros. -/
theorem eq_of_rank {f g : UnpackedFloat} {r : ℤ ×ₗ ℤ ×ₗ ℤ} (hf : rank f = some r)
    (hg : rank g = some r) : f = g ∨ ∃ s t, f = .zero s ∧ g = .zero t := by
  have hsame : rank f = rank g := hf.trans hg.symm
  cases f with
  | notANumber => cases hf
  | infinity s =>
    cases g with
    | notANumber => cases hg
    | infinity t => cases s <;> cases t <;> simp [rank] at hsame ⊢
    | zero t => cases s <;> simp [rank] at hsame
    | finite t n d hn => cases s <;> cases t <;> simp [rank] at hsame
  | zero s =>
    cases g with
    | notANumber => cases hg
    | infinity t => cases t <;> simp [rank] at hsame
    | zero t => exact .inr ⟨s, t, rfl, rfl⟩
    | finite t n d hn => cases t <;> simp [rank] at hsame
  | finite s m e hm =>
    cases g with
    | notANumber => cases hg
    | infinity t => cases s <;> cases t <;> simp [rank] at hsame
    | zero t => cases s <;> simp [rank] at hsame
    | finite t n d hn =>
      cases s <;> cases t <;> simp [rank] at hsame
      · obtain ⟨rfl, rfl⟩ := hsame
        exact .inl rfl
      · obtain ⟨rfl, rfl⟩ := hsame
        exact .inl rfl

variable {a b c : Float32}

theorem le_iff_rank : a ≤ b ↔ ∃ r s, rank (parts a) = some r ∧ rank (parts b) = some s ∧ r ≤ s := by
  rw [le_iff, UnpackedFloat.le, compare_eq_rank]
  cases rank (parts a) <;> cases rank (parts b) <;>
    simp [Ordering.isLE_iff_ne_gt, compare_le_iff_le]

theorem lt_iff_rank : a < b ↔ ∃ r s, rank (parts a) = some r ∧ rank (parts b) = some s ∧ r < s := by
  rw [lt_iff, UnpackedFloat.lt, compare_eq_rank]
  cases rank (parts a) <;> cases rank (parts b) <;> simp [compare_lt_iff_lt]

theorem beq_iff_rank :
    (a == b) = true ↔ ∃ r, rank (parts a) = some r ∧ rank (parts b) = some r := by
  rw [beq_eq, UnpackedFloat.beq, compare_eq_rank]
  cases rank (parts a) with
  | none => simp
  | some r => cases rank (parts b) <;> simp [compare_eq_iff_eq, eq_comm (a := r)]

theorem beq_comm (a b : Float32) : (a == b) = (b == a) := by
  rw [Bool.eq_iff_iff, beq_iff_rank, beq_iff_rank]
  exact exists_congr fun r => And.comm

theorem beq_trans (hab : (a == b) = true) (hbc : (b == c) = true) : (a == c) = true := by
  obtain ⟨r, ha, hb⟩ := beq_iff_rank.1 hab
  obtain ⟨s, hb', hc⟩ := beq_iff_rank.1 hbc
  cases hb.symm.trans hb'
  exact beq_iff_rank.2 ⟨r, ha, hc⟩

end Single

/-- Single-precision numbers are ordered by their ranks. -/
instance : Scalar.Ordered Float32 where
  le_of_lt {a b} h := by
    obtain ⟨r, s, ha, hb, h⟩ := Single.lt_iff_rank.1 h
    exact Single.le_iff_rank.2 ⟨r, s, ha, hb, h.le⟩
  le_trans {a b c} hab hbc := by
    obtain ⟨r, s, ha, hb, hrs⟩ := Single.le_iff_rank.1 hab
    obtain ⟨s', t, hb', hc, hst⟩ := Single.le_iff_rank.1 hbc
    cases hb.symm.trans hb'
    exact Single.le_iff_rank.2 ⟨r, t, ha, hc, hrs.trans hst⟩
  lt_of_le_of_lt {a b c} hab hbc := by
    obtain ⟨r, s, ha, hb, hrs⟩ := Single.le_iff_rank.1 hab
    obtain ⟨s', t, hb', hc, hst⟩ := Single.lt_iff_rank.1 hbc
    cases hb.symm.trans hb'
    exact Single.lt_iff_rank.2 ⟨r, t, ha, hc, hrs.trans_lt hst⟩
  le_of_beq {a b} h := by
    obtain ⟨r, ha, hb⟩ := Single.beq_iff_rank.1 h
    exact Single.le_iff_rank.2 ⟨r, r, ha, hb, le_refl r⟩
  ge_of_beq {a b} h := by
    obtain ⟨r, ha, hb⟩ := Single.beq_iff_rank.1 h
    exact Single.le_iff_rank.2 ⟨r, r, hb, ha, le_refl r⟩

end Cityscape
