/-!
# Faults

What stops a computation for good. A fault is not an answer of a generator but the end of the run
that meets it: the caller asked for something that its own promises exclude, or numbers left the
range in which the computation means anything.

## Main definitions

* `Fault` — the causes.
* `Stop` — why a computation that may also refuse its input did not finish.
-/

namespace Cityscape

/-- The causes that end a run. -/
inductive Fault
  /-- A cell or an entry was asked for that does not exist. -/
  | outOfRange
  | overflow
  /-- A rectangle was asked for around a point with an extent that is not at least zero. -/
  | negativeExtent
  /-- A random number was asked for from an interval that is empty or has no finite width. -/
  | badInterval
  /-- A road was asked for between crossroads that do not exist. -/
  | unknownCrossroad
  | endless
  deriving DecidableEq, Repr

/-- Why a computation did not finish: it refused its input for a reason of type `ε`, or it met a
fault. -/
inductive Stop (ε : Type)
  | refused (error : ε)
  | fault (fault : Fault)

/-- What a computation in two steps gave, its first step gave something for. -/
theorem bind_eq_ok {ε β γ : Type} {x : Except ε β} {f : β → Except ε γ} {c : γ} :
    x >>= f = .ok c ↔ ∃ b, x = .ok b ∧ f b = .ok c := by
  cases x with
  | error e => simp [bind, Except.bind]
  | ok b => simp [bind, Except.bind]

/-- What a computation in two steps failed with, one of its steps failed with. -/
theorem bind_eq_error {ε β γ : Type} {x : Except ε β} {f : β → Except ε γ} {e : ε} :
    x >>= f = .error e ↔ x = .error e ∨ ∃ b, x = .ok b ∧ f b = .error e := by
  cases x with
  | error e => simp [bind, Except.bind]
  | ok b => simp [bind, Except.bind]

theorem exists_eq_ok {ε β : Type} {x : Except ε β} (h : x.isOk) : ∃ b, x = .ok b := by
  cases x with
  | error e => cases h
  | ok b => exact ⟨b, rfl⟩

def wordLimit : Nat := 0xffffffffffffffff

def halfWordLimit : Nat := 0xffffffff

end Cityscape
