import Cityscape.Grammar.Operation
import Cityscape.Scalar.Single

/-!
# Refused operations

An operation checks its parameters, its target and the numbers of its values before it enters the
first shape or model into the history and before it changes its target. So when it refuses, nothing
has happened but that the numbers of its values may have been drawn. Only a subdivision is
different: the items in its slots are run one after the other, and what the earlier ones entered
stays when a later one refuses.

## Main definitions

* `Operation.IsPlain` — the operations that run no items.
* `Operation.values` — the values whose numbers an operation computes before it can refuse.
* `Derivation.Draws` — the random streams that computing values may leave behind.
* `Effect.Spares` — a refusal leaves the target and all of the state but the random stream as they
  were.

## Main statements

* `Operation.eq_of_run_refused` — what a plain operation leaves behind when it refuses.
-/

namespace Cityscape.Grammar

variable {α : Type} [Scalar α] [Trigonometry α]

/-- The random streams that computing values may leave behind: the one there is if no number was
drawn, and otherwise the one after the numbers of all of them. -/
def Derivation.Draws (d : Derivation α) (values : List (Value α)) (stream : RandomStream) : Prop :=
  stream = d.stream ∨
    ∃ numbers, Value.computeAll d.currentScope values d.stream = .ok (numbers, stream)

/-! ## Effects -/

namespace Effect

/-- If an effect is a refusal, the target is the one there was, and the state differs from the one
there was at most in the random stream, from which only numbers of the values were drawn. -/
def Spares (d : Derivation α) (target : Shape α) (values : List (Value α)) (e : Effect α) : Prop :=
  ∀ error, e.stop = some (.refused error) →
    e.target = target ∧ ∃ stream, e.derivation = { d with stream } ∧ d.Draws values stream

variable {d : Derivation α} {target : Shape α} {values : List (Value α)}

theorem spares_done (d' : Derivation α) (target' : Shape α) :
    (done d' target').Spares d target values := by
  intro error hstop
  cases hstop

theorem spares_abort (d' : Derivation α) (target' : Shape α) (fault : Fault) :
    (abort d' target' fault).Spares d target values := by
  intro error hstop
  cases hstop

theorem spares_refuse (error : GrammarError α) :
    (refuse d target error).Spares d target values :=
  fun _ _ => ⟨rfl, d.stream, rfl, .inl rfl⟩

/-- What comes after the values draws no further numbers. -/
theorem spares_withValues {next : Derivation α → List α → Effect α}
    (hnext : ∀ d numbers, (next d numbers).Spares d target []) :
    (withValues d target values next).Spares d target values := by
  unfold withValues
  split
  next fault _ => exact spares_abort d target fault
  next numbers stream hvalues =>
    intro error hstop
    obtain ⟨htarget, stream', hderivation, hdraws⟩ :=
      hnext { d with stream } numbers error hstop
    have hstream : stream' = stream := by
      obtain hsame | ⟨rest, hrest⟩ := hdraws
      · exact hsame
      · cases hrest
        rfl
    subst hstream
    exact ⟨htarget, stream', hderivation, .inr ⟨numbers, hvalues⟩⟩

end Effect

/-! ## Operations -/

namespace Operation

open Effect (spares_done spares_abort spares_refuse spares_withValues)

/-- An operation other than a subdivision. -/
def IsPlain : Operation α → Prop
  | subdivide .. => False
  | _ => True

/-- The values whose numbers an operation computes before it can refuse. The angles of a turn are
not among them, as a turn never refuses. -/
def values : Operation α → List (Value α)
  | component _ parameters _ => parameters
  | tile _ values _ | subdivide _ values _ | move values | resize values => values
  | roof _ angle _ => [angle]
  | turn .. | save | restore | model _ => []

variable (d : Derivation α) (target : Shape α)

theorem runComponent_spares (kind : ComponentKind) (parameters : List (Value α))
    (symbols : List String) :
    (runComponent kind parameters symbols d target).Spares d target parameters := by
  unfold runComponent
  split
  · exact spares_refuse _
  dsimp only
  split
  · -- A single component, chosen by its number.
    split
    · exact spares_refuse _
    · refine spares_withValues fun d numbers => ?_
      split
      · exact spares_refuse _
      · exact spares_done _ _
  · -- All components, for all symbols or by their counts.
    split
    · exact spares_done _ _
    split
    · exact spares_refuse _
    · refine spares_withValues fun d numbers => ?_
      split
      · exact spares_abort _ _ _
      split
      · exact spares_refuse _
      · exact spares_done _ _

theorem runTile_spares (axes : List Bool) (values : List (Value α)) (symbols : List String) :
    (runTile axes values symbols d target).Spares d target values := by
  unfold runTile
  split
  · exact spares_refuse _
  split
  · exact spares_refuse _
  split
  · exact spares_refuse _
  · refine spares_withValues fun d numbers => ?_
    dsimp only
    split
    · split
      · exact spares_done _ _
      · exact spares_refuse _
    · exact spares_refuse _

theorem runMove_spares (values : List (Value α)) :
    (runMove values d target).Spares d target values := by
  unfold runMove
  split
  · exact spares_refuse _
  · exact spares_withValues fun d numbers => spares_done _ _

theorem runResize_spares (values : List (Value α)) :
    (runResize values d target).Spares d target values := by
  unfold runResize
  split
  · exact spares_refuse _
  · exact spares_withValues fun d numbers => spares_done _ _

theorem runTurn_spares (x y z : Option (Value α)) :
    (runTurn x y z d target).Spares d target [] := by
  unfold runTurn
  dsimp only
  split
  · exact spares_abort _ _ _
  · exact spares_done _ _

theorem runRestore_spares : (runRestore d target).Spares d target [] := by
  unfold runRestore
  split
  · exact spares_refuse _
  · exact spares_done _ _

theorem runRoof_spares (kind : RoofKind) (angle : Value α) (output : String) :
    (runRoof kind angle output d target).Spares d target [angle] := by
  unfold runRoof
  split
  · exact spares_refuse _
  · exact spares_withValues fun d numbers => spares_done _ _

/-- Every check of a plain operation comes before its first change. -/
theorem run_spares {f : Operation α} (hf : f.IsPlain) :
    (f.run d target).Spares d target f.values := by
  cases f with
  | component kind parameters symbols =>
    rw [run]
    exact runComponent_spares d target kind parameters symbols
  | tile axes values symbols =>
    rw [run]
    exact runTile_spares d target axes values symbols
  | subdivide => exact hf.elim
  | move values =>
    rw [run]
    exact runMove_spares d target values
  | resize values =>
    rw [run]
    exact runResize_spares d target values
  | turn x y z =>
    rw [run]
    exact runTurn_spares d target x y z
  | save =>
    rw [run]
    exact spares_done _ _
  | restore =>
    rw [run]
    exact runRestore_spares d target
  | roof kind angle output =>
    rw [run]
    exact runRoof_spares d target kind angle output
  | model name =>
    rw [run]
    exact spares_done _ _

/-- When a plain operation refuses, its target is the one it was applied to, and in the state the
history, the queue, the placed models and their names, the shape under evaluation, its scope and
the number of evaluations are those there were. At most numbers of its values were drawn. -/
theorem eq_of_run_refused {f : Operation α} (hf : f.IsPlain) {error : GrammarError α}
    (h : (f.run d target).stop = some (.refused error)) :
    (f.run d target).target = target ∧
      ∃ stream, (f.run d target).derivation = { d with stream } ∧ d.Draws f.values stream :=
  run_spares d target hf error h

/-- A face is chosen at random among numbers that no box has: the number is drawn, and then the
choice is refused. -/
theorem eq_of_run_refused_face :
    let number : Value Float32 := .random false (.number false 7.6) (.number false 8.4)
    let face : Operation Float32 := .component .face [number] ["wall"]
    let target : Shape Float32 := .ofBox (some "house") ⟨⟨0, ⟨4, 4, 4⟩⟩, 0⟩
    let d := (Derivation.ofSeed 7).spawn target
    let e := face.run d target
    face.IsPlain ∧ e.stop = some (.refused (.indexOutOfRange .face 8 6)) ∧
      (e.target = target ∧
        ∃ stream, e.derivation = { d with stream } ∧ d.Draws [number] stream) ∧
      (d.stream.taken, e.derivation.stream.taken) = (0, 1) := by
  intro number face target d e
  have hrefused : (match e.stop with
      | some (.refused (.indexOutOfRange kind index count)) =>
        decide (kind = .face ∧ index = 8 ∧ count = 6)
      | some (.refused _) | some (.fault _) | none => false) = true := by decide +kernel
  have hstop : e.stop = some (.refused (.indexOutOfRange .face 8 6)) := by
    split at hrefused
    next hstop =>
      obtain ⟨rfl, rfl, rfl⟩ := of_decide_eq_true hrefused
      exact hstop
    all_goals cases hrefused
  exact ⟨trivial, hstop, eq_of_run_refused d target trivial hstop, by decide +kernel⟩

/-- A subdivision that refuses may have entered shapes: the item in its first slot puts out a symbol
before the item in the second one, which does nothing, is refused. -/
example :
    let half : Value Float32 := .number true 0.5
    let target : Shape Float32 := .ofBox (some "house") ⟨⟨0, ⟨4, 4, 4⟩⟩, 0⟩
    let e := (subdivide .x [half, half] [some (.put "wall"), some ⟨[], none⟩]).run
      (Derivation.ofSeed 7) target
    e.stop.isSome ∧ (e.derivation.shapes.map (·.symbol)) = #[some "wall"] := by
  decide +kernel

end Operation

end Cityscape.Grammar
