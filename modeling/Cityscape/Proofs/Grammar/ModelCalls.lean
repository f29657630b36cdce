import Cityscape.Proofs.Grammar.AppendOnly
import Cityscape.Proofs.Grammar.CurrentScope
import Cityscape.Proofs.Grammar.ModelTable
import Cityscape.Proofs.Grammar.Outline

/-!
# Calls that place models

Among the moments of a derivation are those at which a model is placed. Nothing else changes the
names and the parts of a state, so the parts of the outcome are those of the calls at these moments,
in their order: the part with a number comes from the one moment at which there were as many parts
before it.

## Main definitions

* `Moment.Places` — a moment at which a model is placed, as the part with a number.
* `Logs`, `Logged` — the models that come up are those of the calls at some moments.
* `RuleSet.MeetsFrom` — the moments of a derivation from a state on.

## Main statements

* `Operation.run_logged` — the models that an operation places are those of the calls at the moments
  in applying it, at any depth.
* `RuleSet.tabulates_of_derive` — the models of a derivation are those of the calls at its moments.
-/

namespace Cityscape.Grammar

variable {α : Type}

/-! ## Names and parts -/

namespace Derivation

/-- The table of names and the model parts of a state. -/
def models (d : Derivation α) : Array String × Array (ModelPart α) := (d.modelNames, d.parts)

variable {d d' w : Derivation α} {s : Shape α}

@[simp] theorem models_spawn (d : Derivation α) (s : Shape α) : (d.spawn s).models = d.models := rfl

@[simp] theorem models_finish (d : Derivation α) (s : Shape α) (status : Status) :
    (d.finish s status).models = d.models :=
  Prod.ext (modelNames_finish d s status) (parts_finish d s status)

@[simp] theorem models_syncScope (d : Derivation α) (s : Shape α) :
    (d.syncScope s).models = d.models := by
  unfold syncScope
  split <;> rfl

theorem models_of_next? (h : d.next? = some (s, w)) : w.models = d.models := by
  obtain ⟨c, queue, -, rfl⟩ := eq_of_next? h
  rfl

theorem models_foldl {β : Type} {f : Derivation α → β → Derivation α}
    (hf : ∀ d b, (f d b).models = d.models) (l : List β) (d : Derivation α) :
    (l.foldl f d).models = d.models := by
  induction l generalizing d with
  | nil => rfl
  | cons b l ih => exact (ih (f d b)).trans (hf d b)

theorem size_parts_spawnModel (d : Derivation α) (name : String) (s : Shape α) :
    (d.spawnModel name s).parts.size = d.parts.size + 1 := by
  unfold spawnModel
  split <;> simp

theorem size_parts_spawnModels (d : Derivation α) (calls : List (String × Shape α)) :
    (d.spawnModels calls).parts.size = d.parts.size + calls.length := by
  induction calls generalizing d with
  | nil => rfl
  | cons call calls ih =>
    rw [List.length_cons, ← Nat.add_assoc, Nat.add_right_comm,
      ← size_parts_spawnModel d call.1 call.2]
    exact ih _

/-- Where a model comes to stand depends on the names and the parts only. -/
theorem models_spawnModel (h : d.models = d'.models) (name : String) (s : Shape α) :
    (d.spawnModel name s).models = (d'.spawnModel name s).models := by
  obtain ⟨hnames, hparts⟩ := Prod.mk.inj h
  unfold spawnModel
  rw [hnames]
  split <;> simp [models, hparts]

theorem models_spawnModels (h : d.models = d'.models) (calls : List (String × Shape α)) :
    (d.spawnModels calls).models = (d'.spawnModels calls).models := by
  induction calls generalizing d d' with
  | nil => exact h
  | cons call calls ih => exact ih (models_spawnModel h call.1 call.2)

end Derivation

/-! ## Operations that place no models -/

section

variable {d : Derivation α} {target : Shape α}

theorem Effect.models_withValues [Scalar α] [Trigonometry α] {values : List (Value α)}
    {next : Derivation α → List α → Effect α}
    (h : ∀ d numbers, (next d numbers).derivation.models = d.models) :
    (Effect.withValues d target values next).derivation.models = d.models := by
  unfold Effect.withValues
  split
  · rfl
  · exact h _ _

namespace Operation

@[simp] theorem models_spawnChild (target : Shape α) (d : Derivation α) (symbol : String)
    (part : OrientedBox α) : (spawnChild target d symbol part).models = d.models :=
  Derivation.models_spawn ..

@[simp] theorem models_spawnParts (target : Shape α) (parts : List (OrientedBox α))
    (symbols : List String) (d : Derivation α) :
    (spawnParts target parts symbols d).models = d.models :=
  Derivation.models_foldl (fun d part =>
    Derivation.models_foldl (fun d symbol => models_spawnChild target d symbol part) symbols d)
    parts d

@[simp] theorem models_spawnGroups (target : Shape α) (parts : List (OrientedBox α))
    (groups : List (String × Nat)) (d : Derivation α) :
    (spawnGroups target parts groups d).models = d.models := by
  induction groups generalizing parts d with
  | nil => rfl
  | cons group groups ih =>
    obtain ⟨symbol, count⟩ := group
    exact (ih (parts.drop count) _).trans
      (Derivation.models_foldl (fun d part => models_spawnChild target d symbol part) _ d)

@[simp] theorem models_putOut (output : Option String) (d : Derivation α) (target : Shape α) :
    (putOut output d target).derivation.models = d.models := by
  unfold putOut
  split <;> rfl

variable [Scalar α] [Trigonometry α]

theorem models_runComponent (kind : ComponentKind) (parameters : List (Value α))
    (symbols : List String) (d : Derivation α) (target : Shape α) :
    (runComponent kind parameters symbols d target).derivation.models = d.models := by
  unfold runComponent
  split
  · rfl
  split
  · split
    · rfl
    · refine Effect.models_withValues fun d numbers => ?_
      dsimp only
      split
      · rfl
      · exact models_spawnParts ..
  split
  · exact models_spawnParts ..
  split
  · rfl
  · refine Effect.models_withValues fun d numbers => ?_
    dsimp only
    split
    · rfl
    split
    · rfl
    · exact models_spawnGroups ..

theorem models_runTile (axes : List Bool) (values : List (Value α)) (symbols : List String)
    (d : Derivation α) (target : Shape α) :
    (runTile axes values symbols d target).derivation.models = d.models := by
  unfold runTile
  split
  · rfl
  split
  · rfl
  split
  · rfl
  refine Effect.models_withValues fun d numbers => ?_
  dsimp only
  split
  · split
    · exact models_spawnParts ..
    · rfl
  · rfl

/-- Apart from cutting a shape into slots, placing a model is the only operation that changes names
or parts. -/
theorem models_run {f : Operation α} (hcut : ∀ axis values items, f ≠ .subdivide axis values items)
    (hmodel : ∀ name, f ≠ .model name) : (f.run d target).derivation.models = d.models := by
  cases f with
  | component kind parameters symbols => exact models_runComponent ..
  | tile axes values symbols => exact models_runTile ..
  | subdivide axis values items => exact absurd rfl (hcut axis values items)
  | move values =>
    simp only [run, runMove]
    split
    · rfl
    · exact Effect.models_withValues fun d deltas => Derivation.models_syncScope ..
  | resize values =>
    simp only [run, runResize]
    split
    · rfl
    · exact Effect.models_withValues fun d sizes => Derivation.models_syncScope ..
  | turn x y z =>
    simp only [run, runTurn]
    split <;> rfl
  | save => rfl
  | restore =>
    simp only [run, runRestore]
    split
    · rfl
    · exact Derivation.models_syncScope ..
  | roof kind angle output =>
    simp only [run, runRoof]
    split
    · rfl
    · exact Effect.models_withValues fun d numbers => models_spawnChild ..
  | model name => exact absurd rfl (hmodel name)

end Operation

end

/-! ## Logs -/

/-- At a moment, a model is about to be placed, and its part gets a number. -/
structure Moment.Places (m : Moment α) (i : ℕ) (call : String × Shape α) : Prop where
  event : m.event = .call (.model call.1) call.2
  number : m.derivation.parts.size = i

/-- The models that come up from one state to another are those of some calls, which are the calls
at the moments that place models, in the order of the numbers of their parts. -/
structure Logs (moments : Moment α → Prop) (calls : List (String × Shape α))
    (d d' : Derivation α) : Prop where
  models : d'.models = (d.spawnModels calls).models
  places : ∀ i call, (∃ m, moments m ∧ m.Places i call) ↔
    d.parts.size ≤ i ∧ calls[i - d.parts.size]? = some call

/-- The models that come up from one state to another are those of the calls at some moments. -/
def Logged (moments : Moment α → Prop) (d d' : Derivation α) : Prop :=
  ∃ calls, Logs moments calls d d'

section

variable {d d' d'' : Derivation α} {moments moments' : Moment α → Prop}
  {calls calls' : List (String × Shape α)} {m : Moment α}

theorem Logs.size_parts (h : Logs moments calls d d') :
    d'.parts.size = d.parts.size + calls.length := by
  rw [← d.size_parts_spawnModels calls]
  exact congrArg (·.2.size) h.models

/-- The calls tell the names and the parts that there are then. -/
theorem Logs.tabulates (h : Logs moments calls' d d')
    (hd : Tabulates calls d.modelNames d.parts) :
    Tabulates (calls ++ calls') d'.modelNames d'.parts := by
  obtain ⟨hnames, hparts⟩ := Prod.mk.inj h.models
  rw [hnames, hparts]
  exact hd.spawnModels calls'

theorem Logs.append (h : Logs moments calls d d') (h' : Logs moments' calls' d' d'') :
    Logs (fun m => moments m ∨ moments' m) (calls ++ calls') d d'' where
  models := by
    have hsplit : d.spawnModels (calls ++ calls') = (d.spawnModels calls).spawnModels calls' :=
      List.foldl_append
    rw [hsplit, h'.models]
    exact Derivation.models_spawnModels h.models calls'
  places i call := by
    have heither : (∃ m, (moments m ∨ moments' m) ∧ m.Places i call) ↔
        (∃ m, moments m ∧ m.Places i call) ∨ ∃ m, moments' m ∧ m.Places i call := by
      simp only [or_and_right, exists_or]
    rw [heither, h.places, h'.places, h.size_parts]
    by_cases hi : i - d.parts.size < calls.length
    · rw [List.getElem?_append_left hi]
      have hnot : ¬ d.parts.size + calls.length ≤ i := by omega
      simp [hnot]
    · rw [List.getElem?_append_right (Nat.not_lt.1 hi), List.getElem?_eq_none (Nat.not_lt.1 hi),
        Nat.sub_sub]
      have hle : d.parts.size + calls.length ≤ i ↔ d.parts.size ≤ i := by omega
      simp [hle]

theorem Logged.none (h : d'.models = d.models) : Logged (fun _ => False) d d' :=
  ⟨[], h, by simp⟩

theorem Logged.append (h : Logged moments d d') (h' : Logged moments' d' d'') :
    Logged (fun m => moments m ∨ moments' m) d d'' := by
  obtain ⟨calls, hcalls⟩ := h
  obtain ⟨calls', hcalls'⟩ := h'
  exact ⟨calls ++ calls', hcalls.append hcalls'⟩

/-- Only the moments that place models matter. -/
theorem Logged.congr (h : Logged moments d d')
    (hiff : ∀ m i call, m.Places i call → (moments' m ↔ moments m)) : Logged moments' d d' := by
  obtain ⟨calls, hmodels, hplaces⟩ := h
  refine ⟨calls, hmodels, fun i call => (exists_congr fun m => ?_).trans (hplaces i call)⟩
  exact and_congr_left fun hm => hiff m i call hm

theorem Logged.before (hbefore : d'.models = d.models) (h : Logged moments d' d'') :
    Logged moments d d'' :=
  ((Logged.none hbefore).append h).congr fun _ _ _ _ => by simp

theorem Logged.after (h : Logged moments d d') (hafter : d''.models = d'.models) :
    Logged moments d d'' :=
  (h.append (Logged.none hafter)).congr fun _ _ _ _ => by simp

/-- What comes after an effect counts only if the effect did not stop. -/
theorem Logged.andThen {e : Effect α} {next : Derivation α → Shape α → Effect α}
    (h : Logged moments d e.derivation)
    (h' : Logged moments' e.derivation (next e.derivation e.target).derivation) :
    Logged (fun m => moments m ∨ e.stop = .none ∧ moments' m) d (e.andThen next).derivation := by
  obtain ⟨d', target', _ | stop⟩ := e
  · exact (h.append h').congr fun _ _ _ _ => by simp
  · exact h.congr fun _ _ _ _ => by simp

end

/-! ## Operations -/

section

variable [Scalar α] [Trigonometry α] {d : Derivation α} {target : Shape α} {m : Moment α}

namespace Operation

variable {owner : Option (Shape α)} {f : Operation α} {fs : List (Operation α)}
  {item : Item (Operation α)} {items : List (Option (Item (Operation α)))}
  {slot : OrientedBox α} {slots : List (OrientedBox α)} {parent : Option ShapeId}

theorem Meets.event_eq (h : f.Meets owner d target m)
    (hcut : ∀ axis values items, f ≠ .subdivide axis values items) : m.event = .call f target := by
  cases h with
  | now => rfl
  | inside => exact absurd rfl (hcut _ _ _)

theorem meetsInAll_cons_iff : MeetsInAll (f :: fs) owner d target m ↔ f.Meets owner d target m ∨
    (f.run d target).stop = none ∧
      MeetsInAll fs owner (f.run d target).derivation (f.run d target).target m := by
  constructor
  · rintro (hfirst | ⟨hdone, hlater⟩)
    · exact .inl hfirst
    · exact .inr ⟨hdone, hlater⟩
  · rintro (hfirst | ⟨hdone, hlater⟩)
    · exact .head hfirst
    · exact .tail hdone hlater

theorem meetsInSlots_cons_iff {owner : Shape α} :
    MeetsInSlots (some item :: items) (slot :: slots) owner parent d m ↔
      MeetsInAll item.operations (some owner) d (.carrier slot parent) m ∨
        (item.run d (.carrier slot parent)).stop = none ∧
          MeetsInSlots items slots owner parent (item.run d (.carrier slot parent)).derivation
            m := by
  constructor
  · rintro (_ | hfirst | ⟨hdone, hlater⟩)
    · exact .inl hfirst
    · exact .inr ⟨hdone, hlater⟩
  · rintro (hfirst | ⟨hdone, hlater⟩)
    · exact .here hfirst
    · exact .next hdone hlater

/-- The operation that places a model is the one moment at which it is applied. -/
theorem model_logged (name : String) (owner : Option (Shape α)) (d : Derivation α)
    (target : Shape α) :
    Logged ((model name).Meets owner d target) d ((model name).run d target).derivation := by
  refine ⟨[(name, target)], rfl, fun i call => ⟨?_, ?_⟩⟩
  · rintro ⟨m, hmeets, hevent, rfl⟩
    cases hmeets
    cases hevent
    simp
  · rintro ⟨hle, hcall⟩
    obtain ⟨hi, rfl⟩ := List.getElem?_eq_some_iff.1 hcall
    have hsize : d.parts.size = i := by
      simp only [List.length_cons, List.length_nil] at hi
      omega
    simp only [hsize, Nat.sub_self]
    exact ⟨_, .now _ owner d target, rfl, hsize⟩

/-- Cutting a shape places the models that come up in its slots, if its values can be computed. -/
theorem subdivide_logged {axis : Axis} {values : List (Value α)}
    (h : ∀ slots owner d, Logged (MeetsInSlots items slots owner target.lineageParent d) d
      (runSlots items slots d target).derivation) :
    Logged ((subdivide axis values items).Meets owner d target) d
      ((subdivide axis values items).run d target).derivation := by
  simp only [run]
  split
  next hlength =>
    refine (Logged.none rfl).congr fun m i call hm => iff_of_false (fun hmeets => ?_) id
    cases hmeets with
    | now => cases hm.event
    | inside hlength' => exact hlength hlength'
  next hlength =>
    unfold Effect.withValues
    split
    next hfault =>
      refine (Logged.none rfl).congr fun m i call hm => iff_of_false (fun hmeets => ?_) id
      cases hmeets with
      | now => cases hm.event
      | inside _ hcomputed => cases hfault.symm.trans hcomputed
    next numbers stream hcomputed =>
      have hdrawn : Derivation.models { d with stream } = d.models := rfl
      refine ((h _ (owner.getD target) { d with stream }).before hdrawn).congr
        fun m i call hm => ⟨fun hmeets => ?_, .inside (not_not.1 hlength) hcomputed⟩
      cases hmeets with
      | now => cases hm.event
      | inside _ hcomputed' hmeets =>
        cases hcomputed.symm.trans hcomputed'
        exact hmeets

mutual

/-- The models that an operation places are those of the calls at the moments in applying it. -/
theorem run_logged (f : Operation α) (owner : Option (Shape α)) (d : Derivation α)
    (target : Shape α) : Logged (f.Meets owner d target) d (f.run d target).derivation := by
  match f with
  | subdivide axis values items =>
    exact subdivide_logged fun slots owner d => runSlots_logged items slots owner d target
  | model name => exact model_logged name owner d target
  | component .. | tile .. | move _ | resize _ | turn .. | save | restore | roof .. =>
    refine (Logged.none (models_run (by simp) (by simp))).congr fun m i call hm => ?_
    refine iff_of_false (fun hmeets => ?_) id
    cases hm.event.symm.trans (hmeets.event_eq (by simp))

theorem runAll_logged (fs : List (Operation α)) (owner : Option (Shape α)) (d : Derivation α)
    (target : Shape α) :
    Logged (MeetsInAll fs owner d target) d (runAll fs d target).derivation := by
  match fs with
  | [] => exact (Logged.none rfl).congr fun _ _ _ _ => iff_of_false nofun id
  | f :: rest =>
    exact ((run_logged f owner d target).andThen (runAll_logged rest owner _ _)).congr
      fun _ _ _ _ => meetsInAll_cons_iff

theorem runItem_logged (item : Item (Operation α)) (owner : Option (Shape α)) (d : Derivation α)
    (target : Shape α) :
    Logged (MeetsInAll item.operations owner d target) d (runItem item d target).derivation := by
  match item with
  | ⟨operations, output⟩ =>
    have hall := runAll_logged operations owner d target
    simp only [runItem]
    split
    next hempty =>
      obtain rfl : operations = [] := List.isEmpty_iff.1 hempty.1
      exact hall
    next =>
      have hput : Logged (fun _ => False) (runAll operations d target).derivation
          (putOut output (runAll operations d target).derivation
            (runAll operations d target).target).derivation := .none (models_putOut ..)
      exact (hall.andThen hput).congr fun _ _ _ _ => by simp

theorem runSlots_logged (items : List (Option (Item (Operation α))))
    (slots : List (OrientedBox α)) (owner : Shape α) (d : Derivation α) (target : Shape α) :
    Logged (MeetsInSlots items slots owner target.lineageParent d) d
      (runSlots items slots d target).derivation := by
  match items, slots with
  | [], _ | none :: _, [] | some _ :: _, [] =>
    exact (Logged.none rfl).congr fun _ _ _ _ => iff_of_false nofun id
  | none :: items, _ :: slots =>
    refine (runSlots_logged items slots owner d target).congr fun _ _ _ _ => ⟨?_, .skip⟩
    rintro (hlater | _ | _)
    exact hlater
  | some item :: items, slot :: slots =>
    have heq : (runSlots (some item :: items) (slot :: slots) d target).derivation =
        ((runItem item d (.carrier slot target.lineageParent)).andThen fun d _ =>
          runSlots items slots d target).derivation := by
      simp only [runSlots]
      rcases runItem item d (.carrier slot target.lineageParent) with ⟨_, _, _ | _⟩ <;> rfl
    rw [heq]
    exact ((runItem_logged item (some owner) d _).andThen
      (runSlots_logged items slots owner _ target)).congr fun _ _ _ _ => meetsInSlots_cons_iff

end

end Operation

/-! ## Rules -/

theorem Action.meets_cons_iff {item : Item (Operation α)} {items : List (Item (Operation α))} :
    Action.Meets (item :: items) d target m ↔
      Operation.MeetsInAll item.operations none d target m ∨ (item.run d target).stop = none ∧
        Action.Meets items (item.run d target).derivation (item.run d target).target m := by
  constructor
  · rintro (hfirst | ⟨hdone, hlater⟩)
    · exact .inl hfirst
    · exact .inr ⟨hdone, hlater⟩
  · rintro (hfirst | ⟨hdone, hlater⟩)
    · exact .head hfirst
    · exact .tail hdone hlater

theorem Action.runItems_logged (items : List (Item (Operation α))) (d : Derivation α)
    (target : Shape α) :
    Logged (Action.Meets items d target) d (runItems items d target).derivation := by
  induction items generalizing d target with
  | nil => exact (Logged.none rfl).congr fun _ _ _ _ => iff_of_false nofun id
  | cons item items ih =>
    exact ((Operation.runItem_logged item none d target).andThen (ih _ _)).congr
      fun _ _ _ _ => meets_cons_iff

theorem Rule.Checks.not_places {conditions : List (Condition α)} {stream : RandomStream} {i : ℕ}
    {call : String × Shape α} (h : Rule.Checks d target conditions stream m) :
    ¬ m.Places i call := by
  induction h with
  | head => exact fun hm => by cases hm.event
  | tail _ _ ih => exact ih

/-- Applying a rule places the models of the action that is drawn. -/
theorem Rule.apply_logged (r : Rule α) (d : Derivation α) (target : Shape α) :
    Logged (fun m => ¬ (r.probabilitySum ≤ 0 ∨ 1 + 1e-5 < r.probabilitySum) ∧
      ∃ action, r.select (d.stream.unit : α × RandomStream).1 = some action ∧
        Action.Meets action.items { d with stream := (d.stream.unit : α × RandomStream).2 } target
          m) d (r.apply d target).derivation := by
  unfold apply
  split
  next hempty =>
    refine (Logged.none rfl).congr fun _ _ _ _ => iff_of_false ?_ id
    rintro ⟨-, action, hselect, -⟩
    simp [select, List.isEmpty_iff.1 hempty.2, selectFrom] at hselect
  dsimp only
  split
  next hsum => exact (Logged.none rfl).congr fun _ _ _ _ => iff_of_false (fun h => h.1 hsum) id
  next hsum =>
    have hdrawn : Derivation.models { d with stream := (d.stream.unit : α × RandomStream).2 } =
        d.models := rfl
    split
    next action hselect =>
      refine ((Action.runItems_logged action.items _ target).before hdrawn).congr
        fun _ _ _ _ => ⟨?_, fun hmeets => ⟨hsum, action, hselect, hmeets⟩⟩
      rintro ⟨-, action', hselect', hmeets⟩
      cases hselect.symm.trans hselect'
      exact hmeets
    next hselect =>
      refine (Logged.none hdrawn).congr fun _ _ _ _ => iff_of_false ?_ id
      rintro ⟨-, action, hselect', -⟩
      cases hselect.symm.trans hselect'

namespace RuleSet

theorem rewriteBy_logged (rules : List (Rule α)) (d : Derivation α) (target : Shape α) :
    Logged (Meets rules d target) d (rewriteBy rules d target).2.derivation := by
  induction rules generalizing d with
  | nil => exact (Logged.none rfl).congr fun _ _ _ _ => iff_of_false nofun id
  | cons r rules ih =>
    have hdrawn (stream : RandomStream) : Derivation.models { d with stream } = d.models := rfl
    rw [rewriteBy]
    split
    next stream hmatched =>
      refine ((r.apply_logged { d with stream } target).before (hdrawn stream)).congr
        fun m i call hm => ⟨fun hmeets => ?_, ?_⟩
      · cases hmeets with
        | check _ hchecks => exact absurd hm hchecks.not_places
        | apply hmatched' hsum hselect hmeets =>
          cases hmatched.symm.trans hmatched'
          exact ⟨hsum, _, hselect, hmeets⟩
        | later hmismatched => cases hmatched.symm.trans hmismatched
      · rintro ⟨hsum, action, hselect, hmeets⟩
        exact .apply hmatched hsum hselect hmeets
    next stream hmismatched =>
      refine ((ih { d with stream }).before (hdrawn stream)).congr
        fun m i call hm => ⟨fun hmeets => ?_, .later hmismatched⟩
      cases hmeets with
      | check _ hchecks => exact absurd hm hchecks.not_places
      | apply hmatched => cases hmismatched.symm.trans hmatched
      | later hmismatched' hmeets =>
        cases hmismatched.symm.trans hmismatched'
        exact hmeets
    next stop stream hstopped =>
      refine (Logged.none (hdrawn stream)).congr
        fun m i call hm => iff_of_false (fun hmeets => ?_) id
      cases hmeets with
      | check _ hchecks => exact hchecks.not_places hm
      | apply hmatched => cases hstopped.symm.trans hmatched
      | later hmismatched => cases hstopped.symm.trans hmismatched

/-! ## Derivations -/

/-- The moments in the evaluations that follow on a state. -/
def MeetsFrom (rules : RuleSet α) (v : Derivation α) (m : Moment α) : Prop :=
  ∃ u shape w, Relation.ReflTransGen rules.Evaluates v u ∧ u.next? = some (shape, w) ∧
    Meets rules.levels.flatten w shape m

variable {rules : RuleSet α} {u v v' w : Derivation α} {shape : Shape α}

theorem meetsFrom_iff (hstep : rules.Evaluates v v') (hnext : v.next? = some (shape, w)) :
    rules.MeetsFrom v m ↔ Meets rules.levels.flatten w shape m ∨ rules.MeetsFrom v' m := by
  constructor
  · rintro ⟨u, shape', w', hpass, hnext', hmeets⟩
    obtain rfl | ⟨v'', hstep', hpass⟩ := hpass.cases_head
    · cases hnext.symm.trans hnext'
      exact .inl hmeets
    · cases hstep.unique hstep'
      exact .inr ⟨u, shape', w', hpass, hnext', hmeets⟩
  · rintro (hmeets | ⟨u, shape', w', hpass, hnext', hmeets⟩)
    · exact ⟨v, shape, w, .refl, hnext, hmeets⟩
    · exact ⟨u, shape', w', .head hstep hpass, hnext', hmeets⟩

/-- One evaluation places the models of the calls at its moments. -/
theorem Evaluates.logged (hstep : rules.Evaluates v v') (h : Logged (rules.MeetsFrom v') v' u) :
    Logged (rules.MeetsFrom v) v u := by
  obtain ⟨shape, target, w, d, fired, hnext, hwithin, hrewrite⟩ := id hstep
  have hlogged := rewriteBy_logged rules.levels.flatten w shape
  rw [← rewrite, hrewrite] at hlogged
  refine (((hlogged.before (Derivation.models_of_next? hnext)).after ?_).append h).congr
    fun _ _ _ _ => meetsFrom_iff hstep hnext
  exact Derivation.models_finish ..

/-- Evaluations that come to their end place the models of the calls at their moments. -/
theorem logged_of_evaluates (hpass : Relation.ReflTransGen rules.Evaluates v u)
    (hends : rules.Ends u (u, none)) : Logged (rules.MeetsFrom v) v u := by
  induction hpass using Relation.ReflTransGen.head_induction_on with
  | refl =>
    refine (Logged.none rfl).congr fun _ _ _ _ => iff_of_false ?_ id
    rintro ⟨w, shape, w', hpass, hnext, -⟩
    obtain rfl | ⟨v', hstep, -⟩ := hpass.cases_head
    · cases hends with
      | drained hnone => cases hnone.symm.trans hnext
    · exact hends.not_evaluates hstep
  | head hstep _ ih => exact hstep.logged ih

/-- The names and parts of a derivation that comes to its end are those of the calls at its moments,
whatever names and parts there were before. -/
theorem tabulates_of_derive {d : Derivation α} {start : Shape α}
    (h : rules.derive d.clear start = (v, none)) :
    ∃ calls, (∀ i call, calls[i]? = some call ↔
        ∃ m, rules.MeetsFrom (d.clear.spawn start) m ∧ m.Places i call) ∧
      Tabulates calls v.modelNames v.parts := by
  obtain ⟨u, hpass, hends⟩ := rules.exists_ends_of_derive d start
  obtain rfl : u = v := by
    rw [h] at hends
    cases hends
    rfl
  rw [h] at hends
  obtain ⟨calls, hcalls⟩ := logged_of_evaluates hpass hends
  have hempty : (d.clear.spawn start).parts.size = 0 := rfl
  refine ⟨calls, fun i call => ?_, hcalls.tabulates .empty⟩
  rw [hcalls.places, hempty, Nat.sub_zero]
  exact (and_iff_right (Nat.zero_le i)).symm

end RuleSet

end

end Cityscape.Grammar
