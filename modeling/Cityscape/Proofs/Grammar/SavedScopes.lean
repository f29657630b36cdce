import Cityscape.Proofs.Grammar.AppendOnly
import Cityscape.Proofs.Grammar.Brackets
import Cityscape.Proofs.Grammar.CurrentScope

/-!
# Saved scopes of new shapes

Shapes are derived from others without the scopes that those saved. The one exception is a carrier
in a slot of a subdivision: when its item puts out a symbol, the carrier enters the history itself,
with every scope that the item saved and did not restore. So a shape may come up for its evaluation
with scopes that a rule for it can restore, and whether it does can be told from the items in slots.

## Main definitions

* `Operation.Holds`, `RuleSet.HasSlot` — the items that run in slots, at any depth.
* `Shape.SavedIn` — where the saved scopes of a new shape come from.
* `Derivation.Queued` — the shapes that wait have a property.

## Main statements

* `Operation.runAll_cases` — how many scopes a run of operations leaves, or where it stops.
* `Operation.run_entersOnly` — what operations enter, by recursion over the items inside of them.
* `RuleSet.saved_of_derive` — saved scopes in the course of a derivation.
-/

namespace Cityscape.Grammar

variable {α : Type}

open Cityscape.Grammar.Derivation (EntersOnly)

/-! ## How many scopes are left -/

namespace Operation

variable [Scalar α] [Trigonometry α] {f : Operation α} {fs : List (Operation α)}
  {d : Derivation α} {target : Shape α}

/-- An operation that finishes has put a scope on top of the saved ones, taken one away, or neither.
One that restores stops only if there is none. -/
theorem run_cases (f : Operation α) (d : Derivation α) (target : Shape α) :
    (∃ d' target', f.run d target = .done d' target' ∧
        target'.saved.length + [f].countP isRestore =
          target.saved.length + [f].countP isSave) ∨
      ∃ stop, (f.run d target).stop = some stop ∧
        (f.isRestore = true → stop = .refused .emptyScopeStack) := by
  by_cases hopened : [f].countP isRestore ≤ target.saved.length + [f].countP isSave
  · obtain ⟨hrestore, stop, hstop⟩ | ⟨d', target', top, hdone, hsaved, hlength⟩ :=
      run_above (d := d) (List.append_nil target.saved).symm hopened
    · exact .inr ⟨stop, hstop, fun h => by simp [hrestore] at h⟩
    · rw [List.append_nil] at hsaved
      exact .inl ⟨d', target', hdone, hsaved ▸ hlength⟩
  · -- only restoring asks for a scope
    have hrestore : f = restore ∧ target.saved = [] := by
      obtain rfl | rfl | ⟨-, hrestore⟩ := f.save_or_restore_or
      · simp [isRestore] at hopened
      · simpa [isRestore, isSave] using hopened
      · simp [hrestore] at hopened
    obtain ⟨rfl, hsaved⟩ := hrestore
    refine .inr ⟨.refused .emptyScopeStack, ?_, fun _ => rfl⟩
    rw [run, runRestore]
    simp only [hsaved]
    rfl

/-- A run of operations that finishes leaves as many scopes as were there and were saved, less those
that were restored. Where it stops at restoring, there is no scope. -/
theorem runAll_cases (fs : List (Operation α)) (d : Derivation α) (target : Shape α) :
    (∃ d' target', runAll fs d target = .done d' target' ∧
        target'.saved.length + fs.countP isRestore = target.saved.length + fs.countP isSave) ∨
      ∃ f ∈ fs, ∃ stop, StopsAt f stop fs d target ∧
        (f.isRestore = true → stop = .refused .emptyScopeStack) := by
  induction fs generalizing d target with
  | nil => exact .inl ⟨d, target, by rw [runAll], rfl⟩
  | cons f fs ih =>
    obtain ⟨d', target', hdone, hlength⟩ | ⟨stop, hstop, hempty⟩ := run_cases f d target
    · obtain ⟨d'', target'', hrest, hlength'⟩ | ⟨g, hg, stop, hstops, hempty⟩ := ih d' target'
      · refine .inl ⟨d'', target'', ?_, ?_⟩
        · rw [runAll_cons, hdone]
          exact hrest
        · rw [List.countP_singleton, List.countP_singleton] at hlength
          rw [List.countP_cons, List.countP_cons]
          omega
      · exact .inr ⟨g, List.mem_cons_of_mem f hg, stop, .later hdone hstops, hempty⟩
    · exact .inr ⟨f, List.mem_cons_self, stop, .here hstop, hempty⟩

theorem length_saved_of_done {d' : Derivation α} {target' : Shape α}
    (h : runAll fs d target = .done d' target') :
    target'.saved.length + fs.countP isRestore = target.saved.length + fs.countP isSave := by
  obtain ⟨d'', target'', hdone, hlength⟩ | ⟨f, -, stop, hstops, -⟩ := runAll_cases fs d target
  · cases h.symm.trans hdone
    exact hlength
  · cases hstops.stop_runAll.symm.trans (congrArg Effect.stop h)

end Operation

/-! ## What operations enter -/

/-- An item runs in a slot of an operation, at any depth. -/
inductive Operation.Holds (item : Item (Operation α)) : Operation α → Prop
  | slot {axis : Axis} {values : List (Value α)} {items : List (Option (Item (Operation α)))}
    (h : some item ∈ items) : Holds item (.subdivide axis values items)
  | deeper {axis : Axis} {values : List (Value α)} {items : List (Option (Item (Operation α)))}
    {outer : Item (Operation α)} {f : Operation α} (houter : some outer ∈ items)
    (hf : f ∈ outer.operations) (h : Holds item f) : Holds item (.subdivide axis values items)

/-- A new shape has no saved scopes, or it was the carrier on which an item ran that put out its
symbol; then it has those that the item saved and did not restore. -/
inductive Shape.SavedIn (slots : Item (Operation α) → Prop) (s : Shape α) : Prop
  | nothing (h : s.saved = [])
  | slot {item : Item (Operation α)} (hitem : slots item) (hsymbol : s.symbol.isSome)
    (houtput : item.output = s.symbol)
    (hlength : s.saved.length + item.operations.countP Operation.isRestore =
      item.operations.countP Operation.isSave)

namespace Shape

variable {slots : Item (Operation α) → Prop} {s t : Shape α}

theorem SavedIn.congr (h : s.SavedIn slots) (hsymbol : t.symbol = s.symbol)
    (hsaved : t.saved = s.saved) : t.SavedIn slots := by
  cases h with
  | nothing h => exact .nothing (hsaved.trans h)
  | slot hitem hnamed houtput hlength =>
    rw [← hsymbol] at hnamed houtput
    rw [← hsaved] at hlength
    exact .slot hitem hnamed houtput hlength

/-- Where no item in a slot saves more scopes than it restores and then puts out a symbol, new
shapes have none. -/
theorem SavedIn.eq_nil (h : s.SavedIn slots) (hslots : ∀ item, slots item → item.output.isSome →
    item.operations.countP Operation.isSave ≤ item.operations.countP Operation.isRestore) :
    s.saved = [] := by
  cases h with
  | nothing h => exact h
  | slot hitem hnamed houtput hlength =>
    have hle := hslots _ hitem (houtput ▸ hnamed)
    exact List.eq_nil_of_length_eq_zero (by omega)

end Shape

namespace Operation

section

variable [Scalar α] [Trigonometry α] {p : Shape α → Prop} {d : Derivation α} {target : Shape α}

omit [Scalar α] [Trigonometry α] in
theorem entersOnly_andThen {e : Effect α} {next : Derivation α → Shape α → Effect α}
    (he : EntersOnly p d e.derivation)
    (hnext : ∀ d' target', e = .done d' target' →
      EntersOnly p d' (next d' target').derivation) :
    EntersOnly p d (e.andThen next).derivation := by
  obtain ⟨d', target', _ | stop⟩ := e
  · exact he.trans (hnext d' target' rfl)
  · exact he

theorem entersOnly_withValues {values : List (Value α)}
    {next : Derivation α → List α → Effect α}
    (h : ∀ d numbers, EntersOnly p d (next d numbers).derivation) :
    EntersOnly p d (Effect.withValues d target values next).derivation := by
  unfold Effect.withValues
  split
  · exact .refl d
  · exact (EntersOnly.withStream d _).trans (h _ _)

theorem runComponent_entersOnly (hp : ∀ symbol part, p (target.child symbol part))
    (kind : ComponentKind) (parameters : List (Value α)) (symbols : List String) :
    EntersOnly p d (runComponent kind parameters symbols d target).derivation := by
  unfold runComponent
  split_ifs
  · exact .refl d
  · exact .refl d
  · refine entersOnly_withValues fun d numbers => ?_
    dsimp only
    split_ifs
    · exact .refl d
    · exact entersOnly_spawnParts hp ..
  · exact entersOnly_spawnParts hp ..
  · exact .refl d
  · refine entersOnly_withValues fun d numbers => ?_
    dsimp only
    split_ifs
    · exact .refl d
    · exact .refl d
    · exact entersOnly_spawnGroups hp ..

theorem runTile_entersOnly (hp : ∀ symbol part, p (target.child symbol part)) (axes : List Bool)
    (values : List (Value α)) (symbols : List String) :
    EntersOnly p d (runTile axes values symbols d target).derivation := by
  unfold runTile
  split_ifs
  · exact .refl d
  · exact .refl d
  · exact .refl d
  · refine entersOnly_withValues fun d numbers => ?_
    dsimp only
    split
    · split
      · exact entersOnly_spawnParts hp ..
      · exact .refl d
    · exact .refl d

end

variable [Scalar α] [Trigonometry α] {slots : Item (Operation α) → Prop}

omit [Scalar α] [Trigonometry α] in
/-- A shape with a symbol puts out a child, and a carrier keeps the scopes that the item on it has
left. -/
theorem putOut_entersOnly (item : Item (Operation α)) (d : Derivation α) {target : Shape α}
    (h : target.symbol = none → slots item ∧
      target.saved.length + item.operations.countP isRestore = item.operations.countP isSave) :
    EntersOnly (·.SavedIn slots) d (putOut item.output d target).derivation := by
  unfold putOut
  split
  next => exact .refl d
  next => exact entersOnly_spawnChild (fun _ _ => .nothing rfl) ..
  next houtput hsymbol =>
    obtain ⟨hitem, hlength⟩ := h hsymbol
    exact .spawn d (.slot hitem rfl houtput hlength)

omit [Scalar α] [Trigonometry α] in
theorem putOut_of_symbol (output : Option String) (d : Derivation α) {target : Shape α}
    (h : target.symbol.isSome) : ∃ d', putOut output d target = .done d' target := by
  unfold putOut
  split
  next => exact ⟨d, rfl⟩
  next => exact ⟨_, rfl⟩
  next hsymbol => simp [hsymbol] at h

omit [Scalar α] [Trigonometry α] in
theorem putOut_of_carrier (symbol : String) (d : Derivation α) {target : Shape α}
    (h : target.symbol = none) : putOut (some symbol) d target =
      .done (d.spawn { target with symbol := some symbol })
        { target with symbol := some symbol } := by
  unfold putOut
  simp only [h]

mutual

/-- Operations without slots enter shapes without saved scopes, and the items in slots those that
they leave to their carriers. -/
theorem run_entersOnly (f : Operation α) (hf : ∀ item, f.Holds item → slots item)
    (d : Derivation α) (target : Shape α) :
    EntersOnly (·.SavedIn slots) d (f.run d target).derivation := by
  have hchild : ∀ symbol part, (target.child symbol part).SavedIn slots := fun _ _ => .nothing rfl
  match f with
  | component kind parameters symbols =>
    rw [run]
    exact runComponent_entersOnly hchild ..
  | tile axes values symbols =>
    rw [run]
    exact runTile_entersOnly hchild ..
  | subdivide axis values items =>
    rw [run]
    split_ifs
    · exact .refl d
    · refine entersOnly_withValues fun d numbers => ?_
      exact runSlots_entersOnly items (fun item hitem => ⟨hf item (.slot hitem),
        fun g hg inner h => hf inner (.deeper hitem hg h)⟩) _ d target
  | move values =>
    rw [run, runMove]
    split_ifs
    · exact .refl d
    · exact entersOnly_withValues fun _ _ => .syncScope ..
  | resize values =>
    rw [run, runResize]
    split_ifs
    · exact .refl d
    · exact entersOnly_withValues fun _ _ => .syncScope ..
  | turn x y z =>
    rw [run, runTurn]
    dsimp only
    split
    · exact .refl d
    · exact .withStream d _
  | save =>
    rw [run]
    exact .refl d
  | restore =>
    rw [run, runRestore]
    split
    · exact .refl d
    · exact .syncScope ..
  | roof kind angle output =>
    rw [run, runRoof]
    split_ifs
    · exact .refl d
    · exact entersOnly_withValues fun _ _ => entersOnly_spawnChild hchild ..
  | model name =>
    rw [run]
    exact .spawnModel ..

theorem runAll_entersOnly (fs : List (Operation α))
    (hfs : ∀ f ∈ fs, ∀ item, f.Holds item → slots item) (d : Derivation α) (target : Shape α) :
    EntersOnly (·.SavedIn slots) d (runAll fs d target).derivation := by
  match fs with
  | [] =>
    rw [runAll]
    exact .refl d
  | f :: rest =>
    rw [runAll]
    exact entersOnly_andThen (run_entersOnly f (hfs f List.mem_cons_self) d target)
      fun _ _ _ => runAll_entersOnly rest (fun g hg => hfs g (List.mem_cons_of_mem f hg)) _ _

theorem runItem_entersOnly (item : Item (Operation α))
    (hinner : ∀ f ∈ item.operations, ∀ item, f.Holds item → slots item) (d : Derivation α)
    (target : Shape α) (htarget : target.symbol = none → slots item ∧ target.saved = []) :
    EntersOnly (·.SavedIn slots) d (runItem item d target).derivation := by
  match item with
  | ⟨operations, output⟩ =>
    rw [runItem]
    split_ifs
    · exact .refl d
    · have hrun := runAll_entersOnly operations hinner d target
      refine entersOnly_andThen hrun fun d' target' hdone => ?_
      refine putOut_entersOnly ⟨operations, output⟩ d' fun hsymbol => ?_
      have hplace := samePlace_of_done hdone
      obtain ⟨hitem, hsaved⟩ := htarget (hplace.symbol.symm.trans hsymbol)
      have hlength := length_saved_of_done hdone
      rw [hsaved, List.length_nil, Nat.zero_add] at hlength
      exact ⟨hitem, hlength⟩

/-- The items in the slots run on carriers, which have no saved scopes when they begin. -/
theorem runSlots_entersOnly (items : List (Option (Item (Operation α))))
    (hitems : ∀ item, some item ∈ items → slots item ∧
      ∀ f ∈ item.operations, ∀ inner, f.Holds inner → slots inner)
    (boxes : List (OrientedBox α)) (d : Derivation α) (target : Shape α) :
    EntersOnly (·.SavedIn slots) d (runSlots items boxes d target).derivation := by
  match items, boxes with
  | [], _ | none :: _, [] | some _ :: _, [] => exact .refl d
  | none :: items, _ :: boxes =>
    rw [runSlots]
    exact runSlots_entersOnly items (fun item h => hitems item (List.mem_cons_of_mem _ h)) boxes d
      target
  | some item :: items, box :: boxes =>
    obtain ⟨hitem, hinner⟩ := hitems item List.mem_cons_self
    have hfirst := runItem_entersOnly item hinner d (.carrier box target.lineageParent)
      fun _ => ⟨hitem, rfl⟩
    have hrest := runSlots_entersOnly items
      (fun item h => hitems item (List.mem_cons_of_mem _ h)) boxes
    rw [runSlots]
    split
    next heffect =>
      rw [heffect] at hfirst
      exact hfirst.trans (hrest _ target)
    next heffect =>
      rw [heffect] at hfirst
      exact hfirst

end

end Operation

/-! ## Shapes that wait -/

namespace Derivation

variable {d d' w : Derivation α} {p : Shape α → Prop} {s t : Shape α} {l : List (Shape α)}
  {c : ShapeId}

/-- The shapes that wait are different ones, and have a property. -/
structure Queued (p : Shape α → Prop) (d : Derivation α) : Prop where
  nodup : d.queue.toList.Nodup
  waits : ∀ i ∈ d.queue.toList, ∃ s, d.shapes[i]? = some s ∧ p s

theorem Queued.lt_size (h : d.Queued p) {i : ShapeId} (hi : i ∈ d.queue.toList) :
    i < d.shapes.size := by
  obtain ⟨s, hs, -⟩ := h.waits i hi
  exact (Array.getElem?_eq_some_iff.1 hs).1

theorem queued_clear [Scalar α] (d : Derivation α) : d.clear.Queued p := by
  constructor <;> simp [clear]

theorem Queued.spawn (h : d.Queued p)
    (hs : p { s with id := some d.shapes.size, status := .active }) : (d.spawn s).Queued p := by
  have hqueue : (d.spawn s).queue.toList = d.queue.toList ++ [d.shapes.size] := by
    simp [Derivation.spawn]
  constructor
  · rw [hqueue, List.nodup_append]
    refine ⟨h.nodup, by simp, fun i hi j hj heq => ?_⟩
    rw [List.mem_singleton.1 hj] at heq
    exact absurd heq (Nat.ne_of_lt (h.lt_size hi))
  · intro i hi
    rw [hqueue] at hi
    obtain hold | hnew := List.mem_append.1 hi
    · obtain ⟨t, ht, hpt⟩ := h.waits i hold
      refine ⟨t, ?_, hpt⟩
      rw [getElem?_spawn, if_neg (Nat.ne_of_lt (h.lt_size hold)), ht]
    · obtain rfl := List.mem_singleton.1 hnew
      exact ⟨_, by rw [getElem?_spawn, if_pos rfl], hs⟩

/-- The shape that is taken has the property, and does not wait any more. -/
theorem Queued.next (h : d.Queued p) (hnext : d.next? = some (s, w)) :
    p s ∧ w.Queued p ∧ ∃ c, d.shapes[c]? = some s ∧ c < w.shapes.size ∧ c ∉ w.queue.toList := by
  unfold next? at hnext
  split at hnext
  · cases hnext
  next c queue hpop =>
    have hqueue : d.queue.toList = c :: queue.toList := Fifo.toList_of_pop? hpop
    have hnodup := h.nodup
    rw [hqueue, List.nodup_cons] at hnodup
    obtain ⟨t, ht, hpt⟩ := h.waits c (by simp [hqueue])
    rw [ht] at hnext
    cases hnext
    refine ⟨hpt, ⟨hnodup.2, fun i hi => h.waits i ?_⟩, c, ht, ?_, hnodup.1⟩
    · rw [hqueue]
      exact List.mem_cons_of_mem c hi
    · exact (Array.getElem?_eq_some_iff.1 ht).1

theorem next?_eq_some (h : d.next?.isSome) (t : Shape α × Derivation α) :
    d.next? = some (d.next?.getD t) := by
  obtain ⟨taken, htaken⟩ := Option.isSome_iff_exists.1 h
  rw [htaken, Option.getD_some]

/-- New shapes wait behind the others. -/
theorem Queued.of_enters (h : d.Queued p)
    (hl : ∀ s ∈ l, ∀ id, p { s with id := some id, status := .active }) (he : Enters l d d')
    (hc : c < d.shapes.size) (hwait : c ∉ d.queue.toList) :
    d'.Queued p ∧ c ∉ d'.queue.toList := by
  have hall : (d.spawnAll l).Queued p ∧ c ∉ (d.spawnAll l).queue.toList := by
    clear he
    induction l generalizing d with
    | nil => exact ⟨h, hwait⟩
    | cons s l ih =>
      refine ih (h.spawn (hl s List.mem_cons_self _))
        (fun t ht => hl t (List.mem_cons_of_mem s ht)) ?_ ?_
      · simp only [Derivation.spawn, Array.size_push]
        exact Nat.lt_succ_of_lt hc
      · simp only [Derivation.spawn, Fifo.toList_push, List.mem_append, List.mem_singleton]
        exact not_or.2 ⟨hwait, Nat.ne_of_lt hc⟩
  obtain ⟨⟨hnodup, hwaits⟩, hout⟩ := hall
  rw [← he.queue] at hnodup hwaits hout
  rw [← he.shapes] at hwaits
  exact ⟨⟨hnodup, hwaits⟩, hout⟩

/-- Only the entry of a shape that does not wait is stored. -/
theorem Queued.finish (h : d.Queued p) (hid : t.id = some c) (hwait : c ∉ d.queue.toList)
    (status : Status) : (d.finish t status).Queued p := by
  simp only [Derivation.finish, hid]
  refine ⟨h.nodup, fun i hi => ?_⟩
  have hne : c ≠ i := fun heq => hwait (heq ▸ hi)
  obtain ⟨s, hs, hps⟩ := h.waits i hi
  exact ⟨s, by rw [Array.getElem?_setIfInBounds_ne hne, hs], hps⟩

end Derivation

/-! ## Actions -/

namespace Item

variable [Scalar α] [Trigonometry α] {d : Derivation α} {target : Shape α}

/-- An item that is not empty runs its operations, and then its output. -/
theorem run_of_ne (item : Item (Operation α)) (h : item ≠ ⟨[], none⟩) (d : Derivation α)
    (target : Shape α) : item.run d target =
      (Operation.runAll item.operations d target).andThen (Operation.putOut item.output) := by
  obtain ⟨operations, output⟩ := item
  unfold run
  rw [Operation.runItem, if_neg]
  rintro ⟨hoperations, rfl⟩
  rw [List.isEmpty_iff.1 hoperations] at h
  exact h rfl

theorem stop_run_of_stopsAt (item : Item (Operation α)) {f : Operation α}
    {stop : Stop (GrammarError α)} (h : f.StopsAt stop item.operations d target) :
    (item.run d target).stop = some stop := by
  have hne : item ≠ ⟨[], none⟩ := by
    rintro rfl
    cases h
  rw [item.run_of_ne hne]
  exact Effect.stop_andThen h.stop_runAll

/-- What an item leaves on a shape with a symbol, or where it stops. -/
theorem run_cases (item : Item (Operation α)) (d : Derivation α) (h : target.symbol.isSome) :
    (∃ d' target', item.run d target = .done d' target' ∧ target'.symbol.isSome ∧
        target'.saved.length + item.operations.countP Operation.isRestore =
          target.saved.length + item.operations.countP Operation.isSave) ∨
      item = ⟨[], none⟩ ∨
        ∃ (f : Operation α) (stop : Stop (GrammarError α)),
          f.StopsAt stop item.operations d target ∧
            (f.isRestore = true → stop = .refused .emptyScopeStack) := by
  by_cases hne : item = ⟨[], none⟩
  · exact .inr (.inl hne)
  obtain ⟨d', target', hdone, hlength⟩ | ⟨f, -, stop, hstops, hempty⟩ :=
    Operation.runAll_cases item.operations d target
  · have hsymbol : target'.symbol.isSome := by
      rw [(Operation.samePlace_of_done hdone).symbol]
      exact h
    obtain ⟨d'', hput⟩ := Operation.putOut_of_symbol item.output d' hsymbol
    refine .inl ⟨d'', target', ?_, hsymbol, hlength⟩
    rw [item.run_of_ne hne, hdone]
    exact hput
  · exact .inr (.inr ⟨f, stop, hstops, hempty⟩)

/-- A carrier takes the symbol that an item on it puts out, and enters the history with the scopes
that the item has saved and not restored. -/
theorem run_carrier (item : Item (Operation α)) {symbol : String} {d' : Derivation α}
    {target' : Shape α} (houtput : item.output = some symbol) (htarget : target.symbol = none)
    (hsaved : target.saved = []) (h : item.run d target = .done d' target') :
    ∃ d'' : Derivation α, d' = d''.spawn target' ∧ target'.symbol = some symbol ∧
      target'.saved.length + item.operations.countP Operation.isRestore =
        item.operations.countP Operation.isSave := by
  have hne : item ≠ ⟨[], none⟩ := by
    rintro rfl
    cases houtput
  rw [item.run_of_ne hne] at h
  obtain ⟨d₁, target₁, hdone, hput⟩ := Effect.done_of_andThen h
  have hlength := Operation.length_saved_of_done hdone
  have hsymbol : target₁.symbol = none := (Operation.samePlace_of_done hdone).symbol.trans htarget
  rw [houtput, Operation.putOut_of_carrier symbol d₁ hsymbol] at hput
  cases hput
  rw [hsaved, List.length_nil, Nat.zero_add] at hlength
  exact ⟨d₁, rfl, rfl, hlength⟩

end Item

namespace Action

/-- The operations of all items of an action. -/
def operations (action : Action α) : List (Operation α) := action.items.flatMap (·.operations)

variable [Scalar α] [Trigonometry α]

/-- A run of items stops at one that holds nothing, or at an operation of one; the items before it
finish. -/
inductive StopsAt : Option (Operation α) → Stop (GrammarError α) → List (Item (Operation α)) →
    Derivation α → Shape α → Prop
  | empty {rest : List (Item (Operation α))} {d : Derivation α} {target : Shape α} :
    StopsAt none (.refused .emptyItem) (⟨[], none⟩ :: rest) d target
  | operation {item : Item (Operation α)} {rest : List (Item (Operation α))} {f : Operation α}
    {stop : Stop (GrammarError α)} {d : Derivation α} {target : Shape α}
    (h : f.StopsAt stop item.operations d target) : StopsAt (some f) stop (item :: rest) d target
  | later {item : Item (Operation α)} {rest : List (Item (Operation α))} {f : Option (Operation α)}
    {stop : Stop (GrammarError α)} {d d' : Derivation α} {target target' : Shape α}
    (hdone : item.run d target = .done d' target') (h : StopsAt f stop rest d' target') :
    StopsAt f stop (item :: rest) d target

variable {items : List (Item (Operation α))} {d : Derivation α} {target : Shape α}
  {f : Option (Operation α)} {stop : Stop (GrammarError α)}

theorem StopsAt.stop_runItems (h : StopsAt f stop items d target) :
    (runItems items d target).stop = some stop := by
  induction h with
  | empty => rfl
  | @operation item rest f stop d target h =>
    exact Effect.stop_andThen (item.stop_run_of_stopsAt h)
  | later hdone h ih =>
    rw [runItems, hdone]
    exact ih

/-- A run of items on a shape with a symbol leaves as many scopes as were there and were saved, less
those that were restored, or it stops. Where it stops at restoring, there is no scope. -/
theorem runItems_cases (items : List (Item (Operation α))) (d : Derivation α)
    (h : target.symbol.isSome) :
    (∃ d' target', runItems items d target = .done d' target' ∧ target'.saved.length +
        (items.flatMap (·.operations)).countP Operation.isRestore =
          target.saved.length + (items.flatMap (·.operations)).countP Operation.isSave) ∨
      ∃ f stop, StopsAt f stop items d target ∧
        ∀ g ∈ f, g.isRestore = true → stop = .refused .emptyScopeStack := by
  induction items generalizing d target with
  | nil => exact .inl ⟨d, target, rfl, rfl⟩
  | cons item items ih =>
    obtain ⟨d', target', hdone, hsymbol, hlength⟩ | rfl | ⟨f, stop, hstops, hempty⟩ :=
      item.run_cases d h
    · obtain ⟨d'', target'', hrest, hlength'⟩ | ⟨f, stop, hstops, hempty⟩ := ih d' hsymbol
      · refine .inl ⟨d'', target'', ?_, ?_⟩
        · rw [runItems, hdone]
          exact hrest
        · rw [List.flatMap_cons, List.countP_append, List.countP_append]
          omega
      · exact .inr ⟨f, stop, .later hdone hstops, hempty⟩
    · exact .inr ⟨none, _, .empty, nofun⟩
    · refine .inr ⟨some f, stop, .operation hstops, fun g hg => ?_⟩
      cases hg
      exact hempty

end Action

/-! ## Rules -/

section

variable [Scalar α] [Trigonometry α] {slots : Item (Operation α) → Prop} {d : Derivation α}
  {target : Shape α}

theorem Action.runItems_entersOnly (items : List (Item (Operation α)))
    (hitems : ∀ item ∈ items, ∀ f ∈ item.operations, ∀ inner, f.Holds inner → slots inner)
    (d : Derivation α) (h : target.symbol.isSome) :
    EntersOnly (·.SavedIn slots) d (runItems items d target).derivation := by
  induction items generalizing d target with
  | nil => exact .refl d
  | cons item items ih =>
    have hnamed : target.symbol ≠ none := Option.isSome_iff_ne_none.1 h
    have hitem : EntersOnly (·.SavedIn slots) d (item.run d target).derivation :=
      Operation.runItem_entersOnly item (hitems item List.mem_cons_self) d target
        fun hsymbol => absurd hsymbol hnamed
    rw [runItems]
    refine Operation.entersOnly_andThen hitem fun d' target' hdone => ?_
    have hplace := (Operation.runItem_follows item d h).place.symbol
    rw [show Operation.runItem item d target = .done d' target' from hdone] at hplace
    refine ih (fun item hmem => hitems item (List.mem_cons_of_mem _ hmem)) d' ?_
    rw [show target'.symbol = target.symbol from hplace]
    exact h

omit [Trigonometry α] in
/-- Only an action of the list is selected. -/
theorem Rule.mem_of_selectFrom {u : α} {actions : List (Action α)} {low high : α}
    {action : Action α} (h : selectFrom u actions low high = some action) : action ∈ actions := by
  induction actions generalizing low high with
  | nil => cases h
  | cons first actions ih =>
    rw [selectFrom] at h
    split at h
    · cases h
      exact List.mem_cons_self
    · exact List.mem_cons_of_mem first (ih h)

theorem Rule.apply_entersOnly (r : Rule α)
    (hr : ∀ action ∈ r.actions, ∀ f ∈ action.operations, ∀ item, f.Holds item → slots item)
    (d : Derivation α) (h : target.symbol.isSome) :
    EntersOnly (·.SavedIn slots) d (r.apply d target).derivation := by
  unfold apply
  split
  · exact .refl d
  dsimp only
  split
  · exact .refl d
  split
  next action hselect =>
    refine (EntersOnly.withStream d _).trans (Action.runItems_entersOnly action.items ?_ _ h)
    intro item hitem f hf
    exact hr action (mem_of_selectFrom hselect) f (List.mem_flatMap.2 ⟨item, hitem, hf⟩)
  · exact .withStream d _

end

namespace RuleSet

variable [Scalar α] [Trigonometry α] {rules : RuleSet α} {v w : Derivation α} {shape : Shape α}

/-- An item runs in a slot of an operation of a rule set, at any depth. -/
def HasSlot (rules : RuleSet α) (item : Item (Operation α)) : Prop :=
  ∃ r ∈ rules.levels.flatten, ∃ action ∈ r.actions, ∃ f ∈ action.operations, f.Holds item

theorem rewrite_entersOnly (rules : RuleSet α) (d : Derivation α) (target : Shape α) :
    EntersOnly (·.SavedIn rules.HasSlot) d (rules.rewrite d target).2.derivation := by
  unfold rewrite
  obtain ⟨stream, stop, heq, -⟩ | ⟨r, hr, stream, hsymbol, heq⟩ :=
    rewriteBy_cases rules.levels.flatten d target
  · rw [heq]
    exact .withStream d stream
  · rw [heq]
    refine (EntersOnly.withStream d stream).trans ?_
    exact r.apply_entersOnly (fun action haction f hf item hitem =>
      ⟨r, hr, action, haction, f, hf, hitem⟩) _ (Shape.isSome_symbol hsymbol)

/-- Whenever a shape is taken, those that wait have the saved scopes with which they entered. -/
theorem queued_of_passes {d : Derivation α} {start : Shape α} (hstart : start.saved = [])
    (h : rules.Passes d.clear start v) : v.Queued (·.SavedIn rules.HasSlot) := by
  induction h with
  | refl => exact d.queued_clear.spawn (.nothing hstart)
  | tail hpass hstep ih =>
    obtain ⟨shape, target, w, e, fired, hnext, -, hrewrite⟩ := hstep
    obtain ⟨-, hw, c, hc, hlt, hwait⟩ := ih.next hnext
    obtain ⟨l, hl, henters⟩ := rules.rewrite_entersOnly w shape
    obtain ⟨-, -, hplace⟩ := rules.rewrite_enters w shape
    rw [hrewrite] at henters hplace
    have hid : target.id = some c := hplace.id.trans (numbered_of_passes hpass c shape hc)
    obtain ⟨he, hout⟩ := hw.of_enters (fun s hs _ => (hl s hs).congr rfl rfl) henters hlt hwait
    exact he.finish hid hout _

/-- In a derivation that begins with a shape without saved scopes, a shape enters the history, and
comes up for its evaluation, with no saved scopes or with those that an item in a slot has saved and
not restored before it put out the symbol of the shape. If no such item saves more than it restores,
there are none. An item in a slot that finishes with an output does enter such a shape. And an
action that restores more scopes than its target has and it saves does not finish; where it stops at
restoring, there is no scope. -/
theorem saved_of_derive (rules : RuleSet α) (d : Derivation α) (start : Shape α)
    (hstart : start.saved = []) :
    (∃ v, rules.Passes d.clear start v ∧ rules.Ends v (rules.derive d.clear start)) ∧
    (∀ v, rules.Passes d.clear start v → ∀ shape w, v.next? = some (shape, w) →
      shape.SavedIn rules.HasSlot ∧
        EntersOnly (·.SavedIn rules.HasSlot) w (rules.rewrite w shape).2.derivation) ∧
    ((∀ item, rules.HasSlot item → item.output.isSome →
        item.operations.countP Operation.isSave ≤ item.operations.countP Operation.isRestore) →
      ∀ s : Shape α, s.SavedIn rules.HasSlot → s.saved = []) ∧
    (∀ (item : Item (Operation α)) (symbol : String) (e e' : Derivation α) (box : OrientedBox α)
        (parent : Option ShapeId) (s : Shape α), item.output = some symbol →
      item.run e (.carrier box parent) = .done e' s →
        (∃ e'' : Derivation α, e' = e''.spawn s) ∧ s.symbol = some symbol ∧
          s.saved.length + item.operations.countP Operation.isRestore =
            item.operations.countP Operation.isSave) ∧
    ∀ (action : Action α) (e : Derivation α) (target : Shape α), target.symbol.isSome →
      target.saved.length + action.operations.countP Operation.isSave <
        action.operations.countP Operation.isRestore →
      ∃ f stop, Action.StopsAt f stop action.items e target ∧
        (action.run e target).stop = some stop ∧
          ∀ g ∈ f, g.isRestore = true → stop = .refused .emptyScopeStack := by
  refine ⟨rules.exists_ends_of_derive d start, fun v hv shape w hnext => ?_,
    fun hslots s hs => hs.eq_nil hslots, fun item symbol e e' box parent s houtput hdone => ?_,
    fun action e target hsymbol hmore => ?_⟩
  · exact ⟨((queued_of_passes hstart hv).next hnext).1, rules.rewrite_entersOnly w shape⟩
  · obtain ⟨e'', he, hsymbol, hlength⟩ := item.run_carrier houtput rfl rfl hdone
    exact ⟨⟨e'', he⟩, hsymbol, hlength⟩
  · obtain ⟨e', target', -, hlength⟩ | ⟨f, stop, hstops, hempty⟩ :=
      Action.runItems_cases action.items e hsymbol
    · unfold Action.operations at hmore
      omega
    · exact ⟨f, stop, hstops, hstops.stop_runItems, hempty⟩

/-- A block is cut for a bay. The item in the slot saves the scope of the bay before it puts out the
symbol, and the rule for bays restores it. -/
def bays : RuleSet Float32 :=
  let cut : Operation Float32 := .subdivide .x [.number true 1, .number true 1]
    [some ⟨[.save], some "bay"⟩, none]
  ⟨"block", none, [[.always "block" [⟨[cut], none⟩], .always "bay" [⟨[.restore], none⟩]]]⟩

def block : Shape Float32 := .ofBox (some "block") ⟨⟨⟨0, 0, 0⟩, ⟨4, 4, 4⟩⟩, ⟨0, 0, 0⟩⟩

theorem saved_of_derive_bays : block.saved = [] ∧
    ∃ v shape w, bays.Passes (Derivation.ofSeed 0).clear block v ∧ v.next? = some (shape, w) ∧
      shape.symbol = some "bay" ∧ shape.saved.length = 1 ∧ shape.SavedIn bays.HasSlot := by
  refine ⟨rfl, ?_⟩
  -- the state in which the block is taken, and the one after its evaluation
  let u := (Derivation.ofSeed 0).clear.spawn block
  let first := u.next?.getD (block, u)
  let result := bays.rewrite first.2 first.1
  let v := result.2.derivation.finish result.2.target (if result.1 then .evaluated else .terminal)
  let second := v.next?.getD (block, v)
  have hfirst : u.next? = some first := Derivation.next?_eq_some (by decide +kernel) _
  have hsecond : v.next? = some second := Derivation.next?_eq_some (by decide +kernel) _
  have hresult : result.2.stop = none := Option.isNone_iff_eq_none.1 (by decide +kernel)
  have hpasses : bays.Passes (Derivation.ofSeed 0).clear block v :=
    .tail .refl (.intro first.1 result.2.target first.2 result.2.derivation result.1 hfirst
      (by decide +kernel) (Prod.ext rfl (Effect.eq_done hresult)))
  exact ⟨v, second.1, second.2, hpasses, hsecond, by decide +kernel, by decide +kernel,
    ((saved_of_derive bays (.ofSeed 0) block rfl).2.1 v hpasses _ _ hsecond).1⟩

/-- A bay comes up with a saved scope, and the rule that restores it finishes. -/
theorem derive_bays : block.saved = [] ∧
    (bays.deriveQueue 1 ((Derivation.ofSeed 0).clear.spawn block)).1.shapes.toList.map
        (fun s => (s.symbol, s.status, s.saved.length)) =
      [(some "block", .evaluated, 0), (some "bay", .active, 1)] ∧
    (bays.derive (Derivation.ofSeed 0).clear block).2.isNone = true := by
  refine ⟨rfl, ?_, ?_⟩ <;> decide +kernel

end RuleSet

end Cityscape.Grammar
