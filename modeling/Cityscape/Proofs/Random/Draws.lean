import Cityscape.Fault
import Cityscape.Random.Stream
import Cityscape.Scalar.Single

/-!
# Draws

A number is drawn again until one is not rejected, so a draw gives a number that was not rejected or
does not come to an end. It meets no fault as long as there is something to draw.

## Main definitions

* `Flawless` — a computation gives a result with a property or does not come to an end.
* `RandomStream.Starves` — some draw from the stream does not come to an end.

## Main statements

* `RandomStream.below_flawless` — draws from an interval.
* `RandomStream.pick_flawless` — draws of a count.
-/

namespace Cityscape

/-! ## Computations without faults -/

/-- A computation gives a result with a property, or it does not come to an end. -/
inductive Flawless {β : Type} (p : β → Prop) : Except Fault β → Prop
  | endless : Flawless p (.error .endless)
  | ok {b : β} (h : p b) : Flawless p (.ok b)

namespace Flawless

variable {β γ : Type} {p : β → Prop} {q : γ → Prop} {x : Except Fault β} {f : β → Except Fault γ}

theorem bind (hx : Flawless p x) (hf : ∀ b, p b → Flawless q (f b)) : Flawless q (x >>= f) := by
  cases hx with
  | endless => exact .endless
  | ok h => exact hf _ h

theorem of_exists (hx : ∃ b, x = .ok b ∧ p b) : Flawless p x := by
  obtain ⟨b, rfl, h⟩ := hx
  exact .ok h

/-- What follows a computation that always gives a result. -/
theorem of_exists_bind (hx : ∃ b, x = .ok b) (hf : ∀ b, Flawless q (f b)) :
    Flawless q (x >>= f) := by
  obtain ⟨b, rfl⟩ := hx
  exact hf b

end Flawless

/-! ## Draws -/

namespace RandomStream

/-- Drawing from an interval that is not empty and has a finite width meets no fault. -/
theorem below_flawless {low high : Float32}
    (h : low < high ∧ Scalar.isFinite (high - low)) (s : RandomStream) :
    Flawless (fun _ => True) (s.below low high) := by
  have hdraw (fuel : Nat) (s : RandomStream) :
      Flawless (fun _ => True) (drawBelow low high (high - low) fuel s) := by
    induction fuel generalizing s with
    | zero => exact .endless
    | succ fuel ih =>
      unfold drawBelow
      dsimp only
      split
      · exact .ok trivial
      · exact ih _
  unfold below
  rw [if_pos h]
  exact hdraw _ s

/-- The count that is drawn lies below the bound. -/
theorem pick_flawless {n : Nat} (hn : 0 < n) (s : RandomStream) :
    Flawless (fun r => r.1 < n) (s.pick n) := by
  have hdraw (zone fuel : Nat) (s : RandomStream) :
      Flawless (fun r => r.1 < n) (drawPick n zone fuel s) := by
    induction fuel generalizing s with
    | zero => exact .endless
    | succ fuel ih =>
      unfold drawPick
      dsimp only
      split
      · refine .ok ((Nat.div_lt_iff_lt_mul (by decide)).2 ?_)
        rw [Nat.mul_comm]
        exact Nat.mul_lt_mul_of_pos_left s.longWord.1.toNat_lt hn
      · exact ih _
  unfold pick
  rw [if_neg (Nat.ne_of_gt hn)]
  exact hdraw _ _ s

/-- Some draw from the stream, which is not a draw from nothing, has all its numbers rejected. -/
def Starves (s : RandomStream) : Prop :=
  (∃ n, 0 < n ∧ s.pick n = .error .endless) ∨
    ∃ low high : Float32, (low < high ∧ Scalar.isFinite (high - low)) ∧
      s.below low high = .error .endless

end RandomStream

end Cityscape
