import Cityscape.Proofs.Grammar.Spawning
import Cityscape.Scalar.Single
import Mathlib.Data.List.Count
import Mathlib.Tactic.SplitIfs

/-!
# Saved scopes as brackets

Saving a scope opens a bracket and restoring one closes it. Nothing else touches the saved scopes of
a target: the other operations at most change its box, and the items inside a subdivision run on
carriers of their own. So what was saved before a bracketed list of operations is still there after
it, whatever became of the box in between, and restoring brings it back.

## Main definitions

* `Operation.Bracketed` — a list in which brackets match.
* `Operation.StopsAt` — the operation at which a run stops.
* `Effect.Restores` — a target is given back its box.

## Main statements

* `Operation.run_saved` — only saving and restoring change the saved scopes.
* `Operation.runAll_above` — restoring no more than was saved on top leaves what is below alone.
* `Operation.runAll_save_restore` — a bracketed list between saving and restoring.
-/

namespace Cityscape.Grammar

variable {α : Type}

/-! ## Effects that finish -/

namespace Effect

variable {e : Effect α} {next : Derivation α → Shape α → Effect α}

theorem eq_done (h : e.stop = none) : e = .done e.derivation e.target := by
  obtain ⟨d, target, stop⟩ := e
  obtain rfl : stop = none := h
  rfl

theorem stop_andThen {stop : Stop (GrammarError α)} (h : e.stop = some stop) :
    (e.andThen next).stop = some stop := by
  obtain ⟨d, target, stop'⟩ := e
  obtain rfl : stop' = some stop := h
  rfl

/-- What finishes in two steps finishes in each of them. -/
theorem done_of_andThen {d' : Derivation α} {target' : Shape α}
    (h : e.andThen next = .done d' target') :
    ∃ d target, e = .done d target ∧ next d target = .done d' target' := by
  obtain ⟨d, target, _ | stop⟩ := e
  · exact ⟨d, target, rfl, h⟩
  · cases h

end Effect

namespace Operation

/-! ## Brackets -/

/-- Whether an operation saves the scope. -/
def isSave : Operation α → Bool
  | save => true
  | _ => false

/-- Whether an operation restores a scope. -/
def isRestore : Operation α → Bool
  | restore => true
  | _ => false

/-- No more scopes are restored than were saved before in the list, and in the end all of them
are. -/
structure Bracketed (fs : List (Operation α)) : Prop where
  opened (n : Nat) : (fs.take n).countP isRestore ≤ (fs.take n).countP isSave
  closed : fs.countP isRestore = fs.countP isSave

instance (fs : List (Operation α)) : Decidable (Bracketed fs) :=
  decidable_of_iff ((∀ n ≤ fs.length, (fs.take n).countP isRestore ≤ (fs.take n).countP isSave) ∧
      fs.countP isRestore = fs.countP isSave) (by
    refine ⟨fun ⟨hopened, hclosed⟩ => ⟨fun n => ?_, hclosed⟩,
      fun h => ⟨fun n _ => h.opened n, h.closed⟩⟩
    obtain hn | hn := Nat.le_total n fs.length
    · exact hopened n hn
    · rw [List.take_of_length_le hn]
      exact Nat.le_of_eq hclosed)

/-- An operation saves, restores, or does neither. -/
theorem save_or_restore_or (f : Operation α) :
    f = save ∨ f = restore ∨ f.isSave = false ∧ f.isRestore = false := by
  cases f <;> simp [isSave, isRestore]

variable [Scalar α] [Trigonometry α]

/-! ## What operations do to the saved scopes -/

section

variable {d : Derivation α} {target : Shape α}

theorem withValues_saved {values : List (Value α)} {next : Derivation α → List α → Effect α}
    (h : ∀ d numbers, (next d numbers).target.saved = target.saved) :
    (Effect.withValues d target values next).target.saved = target.saved := by
  unfold Effect.withValues
  split
  · rfl
  · exact h _ _

theorem runComponent_saved (kind : ComponentKind) (parameters : List (Value α))
    (symbols : List String) :
    (runComponent kind parameters symbols d target).target.saved = target.saved := by
  unfold runComponent
  split_ifs
  · rfl
  · rfl
  · refine withValues_saved fun d numbers => ?_
    dsimp only
    split_ifs <;> rfl
  · rfl
  · rfl
  · refine withValues_saved fun d numbers => ?_
    dsimp only
    split_ifs <;> rfl

theorem runTile_saved (axes : List Bool) (values : List (Value α)) (symbols : List String) :
    (runTile axes values symbols d target).target.saved = target.saved := by
  unfold runTile
  split_ifs
  · rfl
  · rfl
  · rfl
  · refine withValues_saved fun d numbers => ?_
    dsimp only
    split
    · split <;> rfl
    · rfl

theorem runTurn_saved (x y z : Option (Value α)) :
    (runTurn x y z d target).target.saved = target.saved := by
  unfold runTurn
  dsimp only
  split <;> rfl

/-- The items in the slots run on carriers, and the target stays as it is. -/
theorem target_runSlots (items : List (Option (Item (Operation α))))
    (slots : List (OrientedBox α)) (d : Derivation α) (target : Shape α) :
    (runSlots items slots d target).target = target := by
  induction items generalizing slots d with
  | nil => simp only [runSlots]; rfl
  | cons item items ih =>
    cases slots with
    | nil => cases item <;> (simp only [runSlots]; rfl)
    | cons slot slots =>
      cases item with
      | none =>
        rw [runSlots]
        exact ih slots d
      | some item =>
        rw [runSlots]
        split
        · exact ih slots _
        · rfl

/-- Only saving and restoring change the saved scopes of a target. -/
theorem run_saved {f : Operation α} (hsave : f.isSave = false) (hrestore : f.isRestore = false) :
    (f.run d target).target.saved = target.saved := by
  cases f with
  | save => cases hsave
  | restore => cases hrestore
  | component kind parameters symbols =>
    rw [run]
    exact runComponent_saved ..
  | tile axes values symbols =>
    rw [run]
    exact runTile_saved ..
  | subdivide axis values items =>
    rw [run]
    split_ifs
    · rfl
    · exact withValues_saved fun d numbers => by rw [target_runSlots]
  | move values =>
    rw [run, runMove]
    split_ifs
    · rfl
    · exact withValues_saved fun _ _ => rfl
  | resize values =>
    rw [run, runResize]
    split_ifs
    · rfl
    · exact withValues_saved fun _ _ => rfl
  | turn x y z =>
    rw [run]
    exact runTurn_saved ..
  | roof kind angle output =>
    rw [run, runRoof]
    split_ifs
    · rfl
    · exact withValues_saved fun _ _ => rfl
  | model name => rfl

end

/-! ## Runs -/

/-- A run of operations stops at one of them: those before it finish, and it does not. -/
inductive StopsAt (f : Operation α) (stop : Stop (GrammarError α)) :
    List (Operation α) → Derivation α → Shape α → Prop
  | here {rest : List (Operation α)} {d : Derivation α} {target : Shape α}
      (h : (f.run d target).stop = some stop) : StopsAt f stop (f :: rest) d target
  | later {g : Operation α} {rest : List (Operation α)} {d d' : Derivation α}
      {target target' : Shape α} (hdone : g.run d target = .done d' target')
      (h : StopsAt f stop rest d' target') : StopsAt f stop (g :: rest) d target

section

variable {f : Operation α} {fs gs : List (Operation α)} {stop : Stop (GrammarError α)}
  {d d' : Derivation α} {target target' : Shape α}

theorem runAll_cons (f : Operation α) (fs : List (Operation α)) (d : Derivation α)
    (target : Shape α) : runAll (f :: fs) d target = (f.run d target).andThen (runAll fs) := by
  rw [runAll]

theorem runAll_append (fs gs : List (Operation α)) (d : Derivation α) (target : Shape α) :
    runAll (fs ++ gs) d target = (runAll fs d target).andThen (runAll gs) := by
  induction fs generalizing d target with
  | nil => simp [runAll]
  | cons f fs ih =>
    rw [List.cons_append, runAll_cons, runAll_cons]
    obtain ⟨d', target', _ | stop⟩ := f.run d target
    · exact ih d' target'
    · rfl

theorem StopsAt.stop_runAll (h : StopsAt f stop fs d target) :
    (runAll fs d target).stop = some stop := by
  induction h with
  | here h =>
    rw [runAll_cons]
    exact Effect.stop_andThen h
  | later hdone h ih =>
    rw [runAll_cons, hdone]
    exact ih

theorem StopsAt.append (h : StopsAt f stop fs d target) (gs : List (Operation α)) :
    StopsAt f stop (fs ++ gs) d target := by
  induction h with
  | here h => exact .here h
  | later hdone h ih => exact .later hdone ih

/-- A run that finishes leaves its target in its place. -/
theorem samePlace_of_done (h : runAll fs d target = .done d' target') :
    target.SamePlace target' := by
  have hplace := (runAll_follows fs d target).place
  rwa [h] at hplace

theorem run_restore_cons {scope : Scope α} {saved : List (Scope α)}
    (h : target.saved = scope :: saved) : restore.run d target =
      .done (d.syncScope { target with scope, saved }) { target with scope, saved } := by
  rw [run, runRestore]
  simp only [h]

/-- An operation that restores only if a scope lies on top of some others leaves those alone. It
finishes, or stops without having restored. -/
theorem run_above {top base : List (Scope α)} (hsaved : target.saved = top ++ base)
    (hopened : [f].countP isRestore ≤ top.length + [f].countP isSave) :
    (f.isRestore = false ∧ ∃ stop, (f.run d target).stop = some stop) ∨
      ∃ d' target' top', f.run d target = .done d' target' ∧ target'.saved = top' ++ base ∧
        top'.length + [f].countP isRestore = top.length + [f].countP isSave := by
  obtain rfl | rfl | ⟨hsave, hrestore⟩ := f.save_or_restore_or
  · refine .inr ⟨d, _, target.scope :: top, by rw [run], by rw [hsaved]; rfl, ?_⟩
    simp [isSave, isRestore]
  · cases top with
    | nil => simp [isSave, isRestore] at hopened
    | cons scope top =>
      refine .inr ⟨_, _, top, run_restore_cons hsaved, rfl, ?_⟩
      simp [isSave, isRestore]
  · have hkept : (f.run d target).target.saved = target.saved := run_saved hsave hrestore
    cases hrun : f.run d target with
    | mk d' target' stop =>
      rw [hrun] at hkept
      cases stop with
      | none =>
        refine .inr ⟨d', target', top, rfl, hkept.trans hsaved, ?_⟩
        simp [hsave, hrestore]
      | some stop => exact .inl ⟨hrestore, stop, rfl⟩

/-- A run that restores no more scopes than were saved on top of some others leaves those alone. It
stops at an operation that does not restore, or finishes with as many scopes on top as were saved
and not restored. -/
theorem runAll_above {top base : List (Scope α)} (hsaved : target.saved = top ++ base)
    (hopened : ∀ n, (fs.take n).countP isRestore ≤ top.length + (fs.take n).countP isSave) :
    (∃ f ∈ fs, f.isRestore = false ∧ ∃ stop, StopsAt f stop fs d target) ∨
      ∃ d' target' top', runAll fs d target = .done d' target' ∧ target'.saved = top' ++ base ∧
        top'.length + fs.countP isRestore = top.length + fs.countP isSave := by
  induction fs generalizing d target top with
  | nil => exact .inr ⟨d, target, top, by rw [runAll], hsaved, rfl⟩
  | cons f fs ih =>
    obtain ⟨hrestore, stop, hstop⟩ | ⟨d', target', top', hdone, hsaved', hlength⟩ :=
      run_above hsaved (hopened 1)
    · exact .inl ⟨f, List.mem_cons_self, hrestore, stop, .here hstop⟩
    rw [List.countP_singleton, List.countP_singleton] at hlength
    have hopened' (n : Nat) :
        (fs.take n).countP isRestore ≤ top'.length + (fs.take n).countP isSave := by
      have hmore := hopened (n + 1)
      rw [List.take_succ_cons, List.countP_cons, List.countP_cons] at hmore
      omega
    obtain ⟨g, hg, hrestore, stop, hstops⟩ | ⟨d'', target'', top'', hrest, hsaved'', hlength'⟩ :=
      ih hsaved' hopened'
    · exact .inl ⟨g, List.mem_cons_of_mem f hg, hrestore, stop, .later hdone hstops⟩
    · refine .inr ⟨d'', target'', top'', ?_, hsaved'', ?_⟩
      · rw [runAll_cons, hdone]
        exact hrest
      · rw [List.countP_cons, List.countP_cons]
        omega

end

end Operation

/-! ## Restored boxes -/

/-- An effect finished, and its target has the scope, the saved scopes and the place that it had. If
it is the shape under evaluation, values read that scope. -/
structure Effect.Restores (d : Derivation α) (target : Shape α) (e : Effect α) : Prop where
  finished : e.stop = none
  scope : e.target.scope = target.scope
  saved : e.target.saved = target.saved
  place : target.SamePlace e.target
  currentScope : target.id.isSome → d.current = target.id →
    e.derivation.currentScope = target.scope

namespace Operation

variable [Scalar α] [Trigonometry α]

/-- Operations between saving and restoring, in which brackets match, either stop at one of them,
which does not restore, or leave their target with everything that it had but its rotation. -/
theorem runAll_save_restore {fs : List (Operation α)} (h : Bracketed fs) (d : Derivation α)
    (target : Shape α) :
    (∃ f ∈ fs, f.isRestore = false ∧ ∃ stop, StopsAt f stop (save :: (fs ++ [restore])) d target ∧
        (runAll (save :: (fs ++ [restore])) d target).stop = some stop) ∨
      (runAll (save :: (fs ++ [restore])) d target).Restores d target := by
  -- the scope of the target is the one below everything that the list saves
  let opened := { target with saved := target.scope :: target.saved }
  have hsave : run save d target = .done d opened := by rw [run]
  have hsaved : opened.saved = [] ++ target.scope :: target.saved := rfl
  have hopened (n : Nat) : (fs.take n).countP isRestore ≤
      ([] : List (Scope α)).length + (fs.take n).countP isSave := by simpa using h.opened n
  obtain ⟨f, hf, hrestore, stop, hstops⟩ | ⟨d', target', top, hdone, hsaved', hlength⟩ :=
    runAll_above (d := d) hsaved hopened
  · have hstops' : StopsAt f stop (save :: (fs ++ [restore])) d target :=
      .later hsave (hstops.append [restore])
    exact .inl ⟨f, hf, hrestore, stop, hstops', hstops'.stop_runAll⟩
  · right
    obtain rfl : top = [] := List.eq_nil_of_length_eq_zero (by
      rw [h.closed] at hlength
      simpa using hlength)
    obtain ⟨hsymbol, hid, hparent⟩ := samePlace_of_done hdone
    obtain ⟨l, -, henters⟩ := (runAll_follows fs d opened).gains
    rw [hdone] at henters
    rw [runAll_cons, hsave, Effect.done_andThen, runAll_append, hdone, Effect.done_andThen,
      runAll_cons, run_restore_cons hsaved', Effect.done_andThen, runAll]
    refine ⟨rfl, rfl, rfl, ⟨hsymbol, hid, hparent⟩, fun hnumbered hcurrent => ?_⟩
    have hcurrent' : d'.current = target.id := henters.current.trans hcurrent
    change (d'.syncScope _).currentScope = target.scope
    rw [Derivation.syncScope, if_pos ⟨by rwa [hid], hid.trans hcurrent'.symm⟩]

/-- A tower is moved, cut and made taller between saving and restoring; each of its halves saves and
restores as well. -/
def setback : List (Operation Float32) :=
  [.move [.number false 1, .number false 0, .number false 1], .save,
    .subdivide .x [.number true 1, .number true 1]
      [some ⟨[.save, .resize [.number true 1, .number false 2, .number true 1], .save, .restore],
        some "half"⟩, none],
    .turn (some (.number false 90)) none none,
    .resize [.number true 1, .number true 2, .number true 1], .restore]

/-- A tower. -/
def tower : Shape Float32 :=
  { Shape.ofBox (some "tower") ⟨⟨⟨0, 0, 0⟩, ⟨8, 20, 8⟩⟩, ⟨0, 0, 0⟩⟩ with id := some 0 }

/-- A state in which the tower is under evaluation. -/
def site : Derivation Float32 := { Derivation.ofSeed 0 with current := some 0 }

theorem runAll_save_restore_setback : Bracketed setback ∧
    (runAll (save :: (setback ++ [restore])) site tower).Restores site tower := by
  have h : Bracketed setback := by decide
  have hfinished : (runAll (save :: (setback ++ [restore])) site tower).stop = none :=
    Option.isNone_iff_eq_none.1 (by decide +kernel)
  refine ⟨h, (runAll_save_restore h site tower).resolve_left ?_⟩
  rintro ⟨f, -, -, stop, -, hstop⟩
  cases hfinished.symm.trans hstop

end Operation

end Cityscape.Grammar
