import Cityscape.Proofs.Scalar.Order

/-!
# Greatest numbers

The larger of two numbers bounds them both. A number that does not compare with itself is passed
over, so it is the others that are bounded.

## Main definitions

* `Scalar.IsNumber` — a number compares with itself.
* `Scalar.Total` — any two numbers that compare with themselves compare with each other.

## Main statements

* `Scalar.le_max_of_le`, `Scalar.le_max_right` — the larger of two numbers.
* `Scalar.le_foldl_max` — the largest of a list.
-/

namespace Cityscape

namespace Scalar

variable {α : Type} [Scalar α]

/-- The number compares with itself, which is what only an undefined one does not. -/
def IsNumber (a : α) : Prop := (a == a) = true

instance (a : α) : Decidable (IsNumber a) := inferInstanceAs (Decidable (_ = true))

/-- Any two numbers that compare with themselves compare with each other, in one way only. -/
class Total (α : Type) [Scalar α] : Prop extends Scalar.Ordered α where
  isNumber_of_le {a b : α} : a ≤ b → IsNumber a ∧ IsNumber b
  le_of_not_lt {a b : α} : IsNumber a → IsNumber b → ¬ a < b → b ≤ a
  not_lt_of_le {a b : α} : a ≤ b → ¬ b < a

variable [Total α] {a b c : α}

theorem IsNumber.le_self (h : IsNumber a) : a ≤ a := Ordered.le_of_beq h

theorem Total.lt_of_lt_of_le (hab : a < b) (hbc : b ≤ c) : a < c := by
  have ha : IsNumber a := (Total.isNumber_of_le (Ordered.le_of_lt hab)).1
  by_contra hlt
  have hca : c ≤ a := Total.le_of_not_lt ha (Total.isNumber_of_le hbc).2 hlt
  exact Total.not_lt_of_le (Ordered.le_trans hbc hca) hab

/-- What is not above the first of two numbers is not above the larger one. -/
theorem le_max_of_le (h : a ≤ b) (c : α) : a ≤ Scalar.max b c := by
  unfold Scalar.max
  split
  next hlt => exact Ordered.le_trans h (Ordered.le_of_lt hlt)
  · have hb : (b == b) = true := (Total.isNumber_of_le h).2
    rw [if_pos hb]
    exact h

theorem le_max_right (h : IsNumber b) (a : α) : b ≤ Scalar.max a b := by
  unfold Scalar.max
  split
  · exact h.le_self
  next hlt =>
    split
    next ha => exact Total.le_of_not_lt ha h hlt
    · exact h.le_self

/-- The largest of some numbers is not below the one that it is sought from. -/
theorem le_foldl_max_of_le {β : Type} (f : β → α) (l : List β) (h : a ≤ b) :
    a ≤ l.foldl (fun r x => Scalar.max r (f x)) b := by
  induction l generalizing b with
  | nil => exact h
  | cons x l ih => exact ih (le_max_of_le h (f x))

/-- The largest of some numbers is not below any of them. -/
theorem le_foldl_max {β : Type} {f : β → α} {l : List β} {x : β} (hx : x ∈ l)
    (h : IsNumber (f x)) (b : α) : f x ≤ l.foldl (fun r x => Scalar.max r (f x)) b := by
  induction l generalizing b with
  | nil => cases hx
  | cons y l ih =>
    rcases List.mem_cons.1 hx with rfl | hx
    · exact le_foldl_max_of_le f l (le_max_right h b)
    · exact ih hx (Scalar.max b (f y))

end Scalar

/-- Single-precision numbers with a rank compare by it. -/
instance : Scalar.Total Float32 where
  isNumber_of_le {a b} h := by
    obtain ⟨r, s, ha, hb, -⟩ := Single.le_iff_rank.1 h
    exact ⟨Single.beq_iff_rank.2 ⟨r, ha, ha⟩, Single.beq_iff_rank.2 ⟨s, hb, hb⟩⟩
  le_of_not_lt {a b} ha hb hlt := by
    obtain ⟨r, hr, -⟩ := Single.beq_iff_rank.1 ha
    obtain ⟨s, hs, -⟩ := Single.beq_iff_rank.1 hb
    refine Single.le_iff_rank.2 ⟨s, r, hs, hr, not_lt.1 fun hrs => hlt ?_⟩
    exact Single.lt_iff_rank.2 ⟨r, s, hr, hs, hrs⟩
  not_lt_of_le {a b} hle hlt := by
    obtain ⟨r, s, ha, hb, hrs⟩ := Single.le_iff_rank.1 hle
    obtain ⟨s', r', hb', ha', hsr⟩ := Single.lt_iff_rank.1 hlt
    cases hb.symm.trans hb'
    cases ha.symm.trans ha'
    exact absurd hsr (not_lt.2 hrs)

end Cityscape
