import Cityscape.Proofs.Random.Widths

/-!
# What values compute

A value is computed unless one of its random numbers cannot be drawn. The computation of a value
comes to the values it is made of, each with the random stream that the ones before have left. A
random number whose bounds are finite is drawn, and lies between them, where the width between the
bounds is finite; where it is not, the whole computation ends there.

## Main definitions

* `Value.Visits` — the values that a computation comes to.
* `Value.Draws` — a random number with finite bounds.

## Main statements

* `Value.compute_eq_error_of_visits` — a computation ends where one that it comes to ends.
* `Value.compute_outcome` — what is computed, and when nothing is.
-/

namespace Cityscape.Grammar.Value

open RandomStream Single

/-! ## The course of a computation -/

section

variable {α : Type} [Scalar α] [Trigonometry α] {current : Scope α} {v u : Value α}
  {s t : RandomStream} {fault : Fault}

/-- The computation of a value comes to a value, with the stream that there is by then. -/
inductive Visits (current : Scope α) : Value α → RandomStream → Value α → RandomStream → Prop
  | self (v : Value α) (s : RandomStream) : Visits current v s v s
  | lhs {relative : Bool} {operator : Operator} {lhs rhs u : Value α} {s t : RandomStream}
      (h : Visits current lhs s u t) : Visits current (.operation relative operator lhs rhs) s u t
  | rhs {relative : Bool} {operator : Operator} {lhs rhs u : Value α} {a : α}
      {s s' t : RandomStream} (hlhs : lhs.compute current s = .ok (a, s'))
      (h : Visits current rhs s' u t) : Visits current (.operation relative operator lhs rhs) s u t
  | low {relative : Bool} {low high u : Value α} {s t : RandomStream}
      (h : Visits current low s u t) : Visits current (.random relative low high) s u t
  | high {relative : Bool} {low high u : Value α} {a : α} {s s' t : RandomStream}
      (hlow : low.compute current s = .ok (a, s')) (h : Visits current high s' u t) :
      Visits current (.random relative low high) s u t

/-- A computation ends where one that it comes to ends. -/
theorem compute_eq_error_of_visits (h : Visits current v s u t)
    (hu : u.compute current t = .error fault) : v.compute current s = .error fault := by
  induction h with
  | self => exact hu
  | lhs h ih => exact bind_eq_error.2 (.inl (ih hu))
  | rhs hlhs h ih =>
    exact bind_eq_error.2 (.inr ⟨_, hlhs, bind_eq_error.2 (.inl (ih hu))⟩)
  | low h ih => exact bind_eq_error.2 (.inl (ih hu))
  | high hlow h ih =>
    exact bind_eq_error.2 (.inr ⟨_, hlow, bind_eq_error.2 (.inl (ih hu))⟩)

end

/-! ## Random numbers -/

section

variable [Trigonometry Float32] {current : Scope Float32} {v u : Value Float32}
  {s t : RandomStream} {a b : Float32} {fault : Fault}

/-- The value is a random number whose bounds are computed to finite numbers. -/
inductive Draws (current : Scope Float32) (s : RandomStream) (a b : Float32) :
    Value Float32 → Prop
  | random {relative : Bool} {low high : Value Float32} {s' s'' : RandomStream}
      (hlow : low.compute current s = .ok (a, s'))
      (hhigh : high.compute current s' = .ok (b, s'')) (ha : Finite a) (hb : Finite b) :
      Draws current s a b (.random relative low high)

/-- A random number is drawn between the smaller and the larger bound where their width is
finite. -/
theorem Draws.exists_compute (h : Draws current s a b v) (hspan : Finite (span a b)) :
    ∃ x s', v.compute current s = .ok (x, s') ∧ Within (Scalar.min a b) (Scalar.max a b) x := by
  obtain ⟨hlow, hhigh, ha, hb⟩ := h
  obtain ⟨x, s', hx, hwithin⟩ := exists_range ha hb hspan _
  exact ⟨x, s', bind_eq_ok.2 ⟨_, hlow, bind_eq_ok.2 ⟨_, hhigh, hx⟩⟩, hwithin⟩

/-- A random number whose bounds are too far apart is not drawn. -/
theorem Draws.compute_eq_error (h : Draws current s a b v) (hspan : ¬ Finite (span a b)) :
    v.compute current s = .error .badInterval := by
  obtain ⟨hlow, hhigh, ha, hb⟩ := h
  have hrange := range_error ha hb hspan
  exact bind_eq_error.2 (.inr ⟨_, hlow, bind_eq_error.2 (.inr ⟨_, hhigh, hrange _⟩)⟩)

/-! ## Outcomes -/

/-- A computation that ends has come to a random number whose bounds are too far apart. -/
theorem exists_draws_of_error (h : v.compute current s = .error fault) :
    fault = .badInterval ∧
      ∃ u t a b, Visits current v s u t ∧ Draws current t a b u ∧ ¬ Finite (span a b) := by
  induction v generalizing s with
  | number | scope | cover => cases h
  | operation relative operator lhs rhs ihLhs ihRhs =>
    rw [compute] at h
    obtain hlhs | ⟨a, hlhs, h⟩ := bind_eq_error.1 h
    · obtain ⟨hfault, u, t, c, d, hvisits, hrest⟩ := ihLhs hlhs
      exact ⟨hfault, u, t, c, d, .lhs hvisits, hrest⟩
    obtain hrhs | ⟨b, hrhs, h⟩ := bind_eq_error.1 h
    · obtain ⟨hfault, u, t, c, d, hvisits, hrest⟩ := ihRhs hrhs
      exact ⟨hfault, u, t, c, d, .rhs hlhs hvisits, hrest⟩
    cases h
  | random relative low high ihLow ihHigh =>
    rw [compute] at h
    obtain hlow | ⟨a, hlow, h⟩ := bind_eq_error.1 h
    · obtain ⟨hfault, u, t, c, d, hvisits, hrest⟩ := ihLow hlow
      exact ⟨hfault, u, t, c, d, .low hvisits, hrest⟩
    obtain hhigh | ⟨b, hhigh, h⟩ := bind_eq_error.1 h
    · obtain ⟨hfault, u, t, c, d, hvisits, hrest⟩ := ihHigh hhigh
      exact ⟨hfault, u, t, c, d, .high hlow hvisits, hrest⟩
    obtain ⟨hfault, ⟨ha, hb⟩, hspan⟩ := (range_eq_error_iff _).1 h
    exact ⟨hfault, _, s, a.1, b.1, .self _ _, .random hlow hhigh ha hb, hspan⟩

/-- A value is computed unless the computation comes to a random number whose bounds are finite, but
too far apart; it then ends there. Every other random number with finite bounds lies between the
smaller and the larger one. -/
theorem compute_outcome (current : Scope Float32) (v : Value Float32) (s : RandomStream) :
    ((∃ x s', v.compute current s = .ok (x, s')) ∨ v.compute current s = .error .badInterval) ∧
      (v.compute current s = .error .badInterval ↔
        ∃ u t a b, Visits current v s u t ∧ Draws current t a b u ∧ ¬ Finite (span a b)) ∧
      ∀ u t a b, Visits current v s u t → Draws current t a b u → Finite (span a b) →
        ∃ x t', u.compute current t = .ok (x, t') ∧
          Within (Scalar.min a b) (Scalar.max a b) x := by
  refine ⟨?_, ⟨fun h => (exists_draws_of_error h).2, ?_⟩, fun u t a b _ h => h.exists_compute⟩
  · cases h : v.compute current s with
    | ok result => exact .inl ⟨result.1, result.2, rfl⟩
    | error fault =>
      obtain ⟨rfl, -⟩ := exists_draws_of_error h
      exact .inr rfl
  · rintro ⟨u, t, a, b, hvisits, hdraws, hspan⟩
    exact compute_eq_error_of_visits hvisits (hdraws.compute_eq_error hspan)

end

/-- One more than a random number whose bounds are given the other way round. -/
def reversed : Value Float32 :=
  .operation false .add (.number false 1) (.random false (.number false 5) (.number false 2))

theorem compute_outcome_reversed : Finite (span 5 2) ∧
    (∃ x s', compute 0 (.random false (.number false 5) (.number false 2)) (.ofSeed 0) =
      .ok (x, s') ∧ Within (Scalar.min 5 2) (Scalar.max 5 2) x) :=
  ⟨by decide +kernel, (compute_outcome 0 reversed (.ofSeed 0)).2.2 _ _ 5 2 (.rhs rfl (.self _ _))
    (.random rfl rfl (by decide +kernel) (by decide +kernel)) (by decide +kernel)⟩

/-- A power with the exponent zero, which is one whatever number is drawn. -/
def powerOfFar : Value Float32 :=
  .operation false .power (.random false (.number false (-3e38)) (.number false 3e38))
    (.number false 0)

/-- The bounds of the only random number are finite, but nothing is computed. -/
theorem compute_powerOfFar : (Finite (-3e38) ∧ Finite 3e38) ∧
    compute 0 powerOfFar (.ofSeed 0) = .error .badInterval := by
  refine ⟨by decide +kernel, ?_⟩
  have hdraws : Draws 0 (.ofSeed 0) (-3e38) 3e38
      (.random false (.number false (-3e38)) (.number false 3e38)) :=
    .random rfl rfl (by decide +kernel) (by decide +kernel)
  exact compute_eq_error_of_visits (.lhs (.self _ _)) (hdraws.compute_eq_error (by decide +kernel))

end Cityscape.Grammar.Value
