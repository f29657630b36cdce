import Cityscape.Proofs.Grammar.History

/-!
# The scope that values read

Values read the scope of the shape under evaluation from a copy that the state keeps of it. The
operations that change the scope of their target let the copy follow, but only if the target is the
shape under evaluation: a carrier that stands in for it inside a subdivision has no number, and the
copy stays as it is. So whenever a condition is checked or an operation is applied, at any depth,
the copy is the scope of the shape under evaluation at that moment.

## Main definitions

* `Derivation.Reflects` — values read the scope of a shape, which is the one under evaluation.
* `Effect.Tracks` — what an operation may do to the copy.
* `Moment` — a condition that is about to be checked, or an operation that is about to be applied.
* `Operation.Meets`, `Rule.Checks`, `Action.Meets`, `RuleSet.Meets` — the moments in the course of a
  rewriting.

## Main statements

* `Operation.run_tracks` — every operation lets the copy follow its target, and no operation on a
  carrier changes the copy.
* `RuleSet.reflects_of_derive` — the copy is right at every moment of a derivation.
-/

namespace Cityscape.Grammar

variable {α : Type}

/-! ## The copy of the scope -/

namespace Derivation

/-- The shape under evaluation and the scope that values read are the same in two states. -/
structure SameView (d d' : Derivation α) : Prop where
  current : d'.current = d.current
  currentScope : d'.currentScope = d.currentScope

/-- A shape is the one under evaluation, and values read its scope. -/
structure Reflects (d : Derivation α) (subject : Shape α) : Prop where
  numbered : subject.id.isSome
  current : d.current = subject.id
  currentScope : d.currentScope = subject.scope

variable {d d' d'' : Derivation α} {subject : Shape α}

namespace SameView

theorem refl (d : Derivation α) : SameView d d := ⟨rfl, rfl⟩

theorem trans (h : SameView d d') (h' : SameView d' d'') : SameView d d'' :=
  ⟨h'.current.trans h.current, h'.currentScope.trans h.currentScope⟩

theorem foldl {β : Type} {f : Derivation α → β → Derivation α} (hf : ∀ d b, SameView d (f d b))
    (l : List β) (d : Derivation α) : SameView d (l.foldl f d) := by
  induction l generalizing d with
  | nil => exact refl d
  | cons b l ih => exact (hf d b).trans (ih (f d b))

end SameView

theorem sameView_spawnModel (d : Derivation α) (name : String) (shape : Shape α) :
    SameView d (d.spawnModel name shape) := by
  unfold spawnModel
  split <;> exact ⟨rfl, rfl⟩

theorem Reflects.of_sameView (h : d.Reflects subject) (hview : SameView d d') :
    d'.Reflects subject :=
  ⟨h.numbered, hview.current.trans h.current, hview.currentScope.trans h.currentScope⟩

theorem Reflects.withStream (h : d.Reflects subject) (stream : RandomStream) :
    { d with stream }.Reflects subject := ⟨h.numbered, h.current, h.currentScope⟩

/-- The copy follows the shape under evaluation. -/
theorem Reflects.syncScope {target : Shape α} (h : d.Reflects subject)
    (hid : target.id = subject.id) : (d.syncScope target).Reflects target := by
  have hnumbered : target.id.isSome := hid ▸ h.numbered
  have hcurrent : d.current = target.id := h.current.trans hid.symm
  rw [Derivation.syncScope, if_pos ⟨hnumbered, hcurrent.symm⟩]
  exact ⟨hnumbered, hcurrent, rfl⟩

/-- The copy does not follow a shape without number. -/
theorem sameView_syncScope {target : Shape α} (hid : target.id = none) :
    SameView d (d.syncScope target) := by
  rw [Derivation.syncScope, if_neg (by simp [hid])]
  exact .refl d

end Derivation

open Cityscape.Grammar.Derivation (SameView Reflects)

namespace Effect

/-- If the target is the shape under evaluation, the copy follows it; if it has no number, it gets
none, and the copy stays as it is. -/
structure Tracks (d : Derivation α) (target : Shape α) (e : Effect α) : Prop where
  subject : d.Reflects target → e.derivation.Reflects e.target
  carrier : target.id = none → e.target.id = none ∧ SameView d e.derivation

variable {d d' : Derivation α} {target target' : Shape α} {e : Effect α}
  {next : Derivation α → Shape α → Effect α}

/-- A target keeps its scope. -/
theorem Tracks.done (h : SameView d d') (hid : target'.id = target.id)
    (hscope : target'.scope = target.scope) : (done d' target').Tracks d target where
  subject hsubject :=
    have hafter := hsubject.of_sameView h
    ⟨hid ▸ hafter.numbered, hafter.current.trans hid.symm, hafter.currentScope.trans hscope.symm⟩
  carrier hcarrier := ⟨hid.trans hcarrier, h⟩

theorem Tracks.stay (h : SameView d d') : (Effect.done d' target).Tracks d target :=
  .done h rfl rfl

/-- A target changes its scope, and the copy follows. -/
theorem Tracks.sync (h : SameView d d') (hid : target'.id = target.id) :
    (Effect.done (d'.syncScope target') target').Tracks d target where
  subject hsubject := (hsubject.of_sameView h).syncScope hid
  carrier hcarrier :=
    have hid' : target'.id = none := hid.trans hcarrier
    ⟨hid', h.trans (Derivation.sameView_syncScope hid')⟩

theorem Tracks.stopped (d : Derivation α) (target : Shape α) (stop : Stop (GrammarError α)) :
    Tracks d target ⟨d, target, some stop⟩ :=
  ⟨id, fun hcarrier => ⟨hcarrier, .refl d⟩⟩

theorem Tracks.after (h : SameView d d') (he : e.Tracks d' target) : e.Tracks d target where
  subject hsubject := he.subject (hsubject.of_sameView h)
  carrier hcarrier := ⟨(he.carrier hcarrier).1, h.trans (he.carrier hcarrier).2⟩

theorem Tracks.trans (he : e.Tracks d target) {e' : Effect α}
    (he' : e'.Tracks e.derivation e.target) : e'.Tracks d target where
  subject hsubject := he'.subject (he.subject hsubject)
  carrier hcarrier := by
    obtain ⟨hid, hview⟩ := he.carrier hcarrier
    exact ⟨(he'.carrier hid).1, hview.trans (he'.carrier hid).2⟩

theorem Tracks.andThen (he : e.Tracks d target)
    (hnext : (next e.derivation e.target).Tracks e.derivation e.target) :
    (e.andThen next).Tracks d target := by
  obtain ⟨d', target', _ | stop⟩ := e
  · exact he.trans hnext
  · exact he

theorem Tracks.withValues [Scalar α] [Trigonometry α] {values : List (Value α)}
    {next : Derivation α → List α → Effect α} (h : ∀ d numbers, (next d numbers).Tracks d target) :
    (Effect.withValues d target values next).Tracks d target := by
  unfold Effect.withValues
  split
  next => exact .stopped d target _
  next numbers stream _ =>
    have hview : SameView d { d with stream } := ⟨rfl, rfl⟩
    exact .after hview (h { d with stream } numbers)

end Effect

/-! ## Operations -/

namespace Operation

open Effect (Tracks)

variable {d : Derivation α} {target : Shape α}

theorem sameView_spawnChild (target : Shape α) (d : Derivation α) (symbol : String)
    (part : OrientedBox α) : SameView d (spawnChild target d symbol part) := ⟨rfl, rfl⟩

theorem sameView_spawnParts (target : Shape α) (parts : List (OrientedBox α))
    (symbols : List String) (d : Derivation α) :
    SameView d (spawnParts target parts symbols d) :=
  SameView.foldl (fun d part =>
    SameView.foldl (fun d symbol => sameView_spawnChild target d symbol part) symbols d) parts d

theorem sameView_spawnGroups (target : Shape α) (parts : List (OrientedBox α))
    (groups : List (String × Nat)) (d : Derivation α) :
    SameView d (spawnGroups target parts groups d) := by
  induction groups generalizing parts d with
  | nil => exact .refl d
  | cons group groups ih =>
    obtain ⟨symbol, count⟩ := group
    exact (SameView.foldl (fun d part => sameView_spawnChild target d symbol part) _ d).trans
      (ih (parts.drop count) _)

theorem putOut_tracks (output : Option String) (d : Derivation α) (target : Shape α) :
    (putOut output d target).Tracks d target := by
  unfold putOut
  split
  next => exact .stay (.refl d)
  next => exact .stay ⟨rfl, rfl⟩
  next => exact .done ⟨rfl, rfl⟩ rfl rfl

theorem runRestore_tracks (d : Derivation α) (target : Shape α) :
    (runRestore d target).Tracks d target := by
  unfold runRestore
  split
  · exact .stopped d target _
  · exact .sync (.refl d) rfl

variable [Scalar α] [Trigonometry α]

theorem runComponent_tracks (kind : ComponentKind) (parameters : List (Value α))
    (symbols : List String) (d : Derivation α) (target : Shape α) :
    (runComponent kind parameters symbols d target).Tracks d target := by
  unfold runComponent
  split
  · exact .stopped d target _
  split
  · split
    · exact .stopped d target _
    · refine .withValues fun d numbers => ?_
      dsimp only
      split
      · exact .stopped d target _
      · exact .stay (sameView_spawnParts ..)
  split
  · exact .stay (sameView_spawnParts ..)
  split
  · exact .stopped d target _
  · refine .withValues fun d numbers => ?_
    dsimp only
    split
    · exact .stopped d target _
    split
    · exact .stopped d target _
    · exact .stay (sameView_spawnGroups ..)

theorem runTile_tracks (axes : List Bool) (values : List (Value α)) (symbols : List String)
    (d : Derivation α) (target : Shape α) :
    (runTile axes values symbols d target).Tracks d target := by
  unfold runTile
  split
  · exact .stopped d target _
  split
  · exact .stopped d target _
  split
  · exact .stopped d target _
  refine .withValues fun d numbers => ?_
  dsimp only
  split
  · split
    · exact .stay (sameView_spawnParts ..)
    · exact .stopped d target _
  · exact .stopped d target _

theorem runMove_tracks (values : List (Value α)) (d : Derivation α) (target : Shape α) :
    (runMove values d target).Tracks d target := by
  unfold runMove
  split
  · exact .stopped d target _
  · exact .withValues fun d deltas => .sync (.refl d) rfl

theorem runResize_tracks (values : List (Value α)) (d : Derivation α) (target : Shape α) :
    (runResize values d target).Tracks d target := by
  unfold runResize
  split
  · exact .stopped d target _
  · exact .withValues fun d sizes => .sync (.refl d) rfl

theorem runTurn_tracks (x y z : Option (Value α)) (d : Derivation α) (target : Shape α) :
    (runTurn x y z d target).Tracks d target := by
  unfold runTurn
  dsimp only
  split
  · exact .stopped d target _
  · exact .done ⟨rfl, rfl⟩ rfl rfl

theorem runRoof_tracks (kind : RoofKind) (angle : Value α) (output : String) (d : Derivation α)
    (target : Shape α) : (runRoof kind angle output d target).Tracks d target := by
  unfold runRoof
  split
  · exact .stopped d target _
  · exact .withValues fun d numbers => .stay ⟨rfl, rfl⟩

mutual

/-- Every operation lets the copy follow its target if that is the shape under evaluation, and
leaves the copy as it is if the target is a carrier. -/
theorem run_tracks (f : Operation α) (d : Derivation α) (target : Shape α) :
    (f.run d target).Tracks d target := by
  match f with
  | component kind parameters symbols => exact runComponent_tracks ..
  | tile axes values symbols => exact runTile_tracks ..
  | subdivide axis values items =>
    simp only [run]
    split
    · exact .stopped d target _
    · exact .withValues fun d numbers => runSlots_tracks items _ d target
  | move values => exact runMove_tracks ..
  | resize values => exact runResize_tracks ..
  | turn x y z => exact runTurn_tracks ..
  | save => exact .done (.refl d) rfl rfl
  | restore => exact runRestore_tracks ..
  | roof kind angle output => exact runRoof_tracks ..
  | model name => exact .stay (Derivation.sameView_spawnModel ..)

theorem runAll_tracks (fs : List (Operation α)) (d : Derivation α) (target : Shape α) :
    (runAll fs d target).Tracks d target := by
  match fs with
  | [] => exact .stay (.refl d)
  | f :: rest => exact (run_tracks f d target).andThen (runAll_tracks rest _ _)

theorem runItem_tracks (item : Item (Operation α)) (d : Derivation α) (target : Shape α) :
    (runItem item d target).Tracks d target := by
  match item with
  | ⟨operations, output⟩ =>
    simp only [runItem]
    split
    · exact .stopped d target _
    · exact (runAll_tracks operations d target).andThen (putOut_tracks output _ _)

/-- The items in the slots run on carriers, and so the copy stays as it is. -/
theorem runSlots_tracks (items : List (Option (Item (Operation α))))
    (slots : List (OrientedBox α)) (d : Derivation α) (target : Shape α) :
    (runSlots items slots d target).Tracks d target := by
  match items, slots with
  | [], _ | none :: _, [] | some _ :: _, [] => exact .stay (.refl d)
  | none :: items, _ :: slots => exact runSlots_tracks items slots d target
  | some item :: items, slot :: slots =>
    have hitem : SameView d (runItem item d (.carrier slot target.lineageParent)).derivation :=
      ((runItem_tracks item d (.carrier slot target.lineageParent)).carrier rfl).2
    simp only [runSlots]
    split
    next heffect =>
      rw [heffect] at hitem
      exact .after hitem (runSlots_tracks items slots _ target)
    next heffect =>
      rw [heffect] at hitem
      exact .after hitem (.stopped _ target _)

end

end Operation

/-! ## Moments -/

/-- What is about to happen at a moment. -/
inductive Event (α : Type)
  | check (condition : Condition α)
  /-- An operation is applied to the shape under evaluation or to a carrier. -/
  | call (operation : Operation α) (target : Shape α)

/-- A condition that is about to be checked, or an operation that is about to be applied. -/
structure Moment (α : Type) where
  derivation : Derivation α
  /-- The shape under evaluation, as it is now. -/
  subject : Shape α
  event : Event α

section

variable [Scalar α] [Trigonometry α]

namespace Operation

mutual

/-- The moments in applying an operation to a target. When the target is a carrier, the owner is the
shape under evaluation for which it stands in. -/
inductive Meets : Operation α → Option (Shape α) → Derivation α → Shape α → Moment α → Prop
  | now (f : Operation α) (owner : Option (Shape α)) (d : Derivation α) (target : Shape α) :
    Meets f owner d target ⟨d, owner.getD target, .call f target⟩
  | inside {axis : Axis} {values : List (Value α)} {items : List (Option (Item (Operation α)))}
    {owner : Option (Shape α)} {d : Derivation α} {target : Shape α} {numbers : List α}
    {stream : RandomStream} {m : Moment α} (length : values.length = items.length)
    (computed : Value.computeAll d.currentScope values d.stream = .ok (numbers, stream))
    (slots : MeetsInSlots items (target.box.slots axis (slotsOf values numbers))
      (owner.getD target) target.lineageParent { d with stream } m) :
    Meets (.subdivide axis values items) owner d target m

/-- The moments in applying operations to a target, one after the other. -/
inductive MeetsInAll :
    List (Operation α) → Option (Shape α) → Derivation α → Shape α → Moment α → Prop
  | head {f : Operation α} {rest : List (Operation α)} {owner : Option (Shape α)}
    {d : Derivation α} {target : Shape α} {m : Moment α} (first : Meets f owner d target m) :
    MeetsInAll (f :: rest) owner d target m
  | tail {f : Operation α} {rest : List (Operation α)} {owner : Option (Shape α)}
    {d : Derivation α} {target : Shape α} {m : Moment α} (done : (f.run d target).stop = none)
    (later : MeetsInAll rest owner (f.run d target).derivation (f.run d target).target m) :
    MeetsInAll (f :: rest) owner d target m

/-- The moments in running items on carriers in the slots of the shape under evaluation, or of a
carrier for it. -/
inductive MeetsInSlots : List (Option (Item (Operation α))) → List (OrientedBox α) → Shape α →
    Option ShapeId → Derivation α → Moment α → Prop
  | skip {items : List (Option (Item (Operation α)))} {slot : OrientedBox α}
    {slots : List (OrientedBox α)} {owner : Shape α} {parent : Option ShapeId} {d : Derivation α}
    {m : Moment α} (later : MeetsInSlots items slots owner parent d m) :
    MeetsInSlots (none :: items) (slot :: slots) owner parent d m
  | here {operations : List (Operation α)} {output : Option String}
    {items : List (Option (Item (Operation α)))} {slot : OrientedBox α}
    {slots : List (OrientedBox α)} {owner : Shape α} {parent : Option ShapeId} {d : Derivation α}
    {m : Moment α} (first : MeetsInAll operations (some owner) d (.carrier slot parent) m) :
    MeetsInSlots (some ⟨operations, output⟩ :: items) (slot :: slots) owner parent d m
  | next {item : Item (Operation α)} {items : List (Option (Item (Operation α)))}
    {slot : OrientedBox α} {slots : List (OrientedBox α)} {owner : Shape α}
    {parent : Option ShapeId} {d : Derivation α} {m : Moment α}
    (done : (item.run d (.carrier slot parent)).stop = none)
    (later : MeetsInSlots items slots owner parent (item.run d (.carrier slot parent)).derivation
      m) :
    MeetsInSlots (some item :: items) (slot :: slots) owner parent d m

end

end Operation

/-- The moments in checking the conditions of a rule. -/
inductive Rule.Checks (d : Derivation α) (target : Shape α) :
    List (Condition α) → RandomStream → Moment α → Prop
  | head (c : Condition α) (rest : List (Condition α)) (stream : RandomStream) :
    Checks d target (c :: rest) stream ⟨{ d with stream }, target, .check c⟩
  | tail {c : Condition α} {rest : List (Condition α)} {stream : RandomStream} {m : Moment α}
    (holds : (c.evaluate { d with stream } target).1 = .ok true)
    (later : Checks d target rest (c.evaluate { d with stream } target).2 m) :
    Checks d target (c :: rest) stream m

/-- The moments in running the items of an action on the shape under evaluation. -/
inductive Action.Meets : List (Item (Operation α)) → Derivation α → Shape α → Moment α → Prop
  | head {operations : List (Operation α)} {output : Option String}
    {rest : List (Item (Operation α))} {d : Derivation α} {target : Shape α} {m : Moment α}
    (first : Operation.MeetsInAll operations none d target m) :
    Meets (⟨operations, output⟩ :: rest) d target m
  | tail {item : Item (Operation α)} {rest : List (Item (Operation α))} {d : Derivation α}
    {target : Shape α} {m : Moment α} (done : (item.run d target).stop = none)
    (later : Meets rest (item.run d target).derivation (item.run d target).target m) :
    Meets (item :: rest) d target m

/-- The moments in rewriting the shape under evaluation by the first rule that matches. -/
inductive RuleSet.Meets : List (Rule α) → Derivation α → Shape α → Moment α → Prop
  | check {r : Rule α} {rest : List (Rule α)} {d : Derivation α} {target : Shape α} {m : Moment α}
    (symbol : target.hasSymbol r.symbol) (checks : Rule.Checks d target r.conditions d.stream m) :
    Meets (r :: rest) d target m
  | apply {r : Rule α} {rest : List (Rule α)} {d : Derivation α} {target : Shape α} {m : Moment α}
    {stream : RandomStream} {action : Action α}
    (matched : r.matchShape d target = (.ok true, stream))
    (probable : ¬ (r.probabilitySum ≤ 0 ∨ 1 + 1e-5 < r.probabilitySum))
    (selected : r.select (stream.unit : α × RandomStream).1 = some action)
    (runs : Action.Meets action.items { d with stream := (stream.unit : α × RandomStream).2 } target
      m) :
    Meets (r :: rest) d target m
  | later {r : Rule α} {rest : List (Rule α)} {d : Derivation α} {target : Shape α} {m : Moment α}
    {stream : RandomStream} (mismatched : r.matchShape d target = (.ok false, stream))
    (later : Meets rest { d with stream } target m) :
    Meets (r :: rest) d target m

/-! ## The copy at a moment -/

/-- At a moment, values read the scope of the shape under evaluation. If an operation is applied to
that shape, they read the scope that it has afterwards; and if it is applied to a carrier, the scope
that they read does not change. -/
structure Moment.Faithful (m : Moment α) : Prop where
  current : m.derivation.current = m.subject.id
  currentScope : m.derivation.currentScope = m.subject.scope
  call : ∀ f target, m.event = .call f target →
    (target = m.subject ∧
      (f.run m.derivation target).derivation.currentScope =
        (f.run m.derivation target).target.scope) ∨
    (target.id = none ∧
      (f.run m.derivation target).derivation.currentScope = m.derivation.currentScope)

/-- A target is the shape under evaluation, or it is a carrier for its owner, which is. -/
inductive Derivation.Serves (d : Derivation α) : Option (Shape α) → Shape α → Prop
  | subject {target : Shape α} (reflects : d.Reflects target) : Serves d none target
  | carrier {owner target : Shape α} (reflects : d.Reflects owner) (unnumbered : target.id = none) :
    Serves d (some owner) target

section

variable {d : Derivation α} {target : Shape α} {owner : Option (Shape α)} {m : Moment α}

open Cityscape.Grammar.Derivation (Serves)

omit [Scalar α] [Trigonometry α] in
theorem Derivation.Serves.reflects (h : d.Serves owner target) :
    d.Reflects (owner.getD target) := by
  cases h with
  | subject hreflects => exact hreflects
  | carrier hreflects => exact hreflects

omit [Scalar α] [Trigonometry α] in
/-- What an operation leaves of its target serves the same owner. -/
theorem Derivation.Serves.of_tracks {e : Effect α} (h : d.Serves owner target)
    (he : e.Tracks d target) : e.derivation.Serves owner e.target := by
  cases h with
  | subject hreflects => exact .subject (he.subject hreflects)
  | carrier hreflects hid =>
    obtain ⟨hid', hview⟩ := he.carrier hid
    exact .carrier (hreflects.of_sameView hview) hid'

theorem Moment.faithful_check (h : d.Reflects target) (c : Condition α) :
    Moment.Faithful ⟨d, target, .check c⟩ :=
  ⟨h.current, h.currentScope, nofun⟩

theorem Moment.faithful_call (h : d.Serves owner target) (f : Operation α) :
    Moment.Faithful ⟨d, owner.getD target, .call f target⟩ := by
  refine ⟨h.reflects.current, h.reflects.currentScope, fun f target hcall => ?_⟩
  cases hcall
  have htracks := f.run_tracks d target
  cases h with
  | subject hreflects => exact .inl ⟨rfl, (htracks.subject hreflects).currentScope⟩
  | carrier hreflects hid => exact .inr ⟨hid, (htracks.carrier hid).2.currentScope⟩

namespace Operation

mutual

/-- The copy is right at every moment in applying an operation. -/
theorem Meets.faithful {f : Operation α} {owner : Option (Shape α)} {d : Derivation α}
    {target : Shape α} {m : Moment α} (hm : f.Meets owner d target m)
    (h : d.Serves owner target) : m.Faithful := by
  match f, hm with
  | _, .now .. => exact Moment.faithful_call h _
  | subdivide axis values items, .inside _ _ hslots =>
    exact hslots.faithful (h.reflects.withStream _)

theorem MeetsInAll.faithful {fs : List (Operation α)} {owner : Option (Shape α)}
    {d : Derivation α} {target : Shape α} {m : Moment α} (hm : MeetsInAll fs owner d target m)
    (h : d.Serves owner target) : m.Faithful := by
  match fs, hm with
  | f :: _, .head hfirst => exact hfirst.faithful h
  | f :: rest, .tail _ hlater => exact hlater.faithful (h.of_tracks (f.run_tracks d target))

theorem MeetsInSlots.faithful {items : List (Option (Item (Operation α)))}
    {slots : List (OrientedBox α)} {owner : Shape α} {parent : Option ShapeId} {d : Derivation α}
    {m : Moment α} (hm : MeetsInSlots items slots owner parent d m) (h : d.Reflects owner) :
    m.Faithful := by
  match items, slots, hm with
  | none :: _, _ :: _, .skip hlater => exact hlater.faithful h
  | some ⟨_, _⟩ :: _, _ :: _, .here hfirst => exact hfirst.faithful (.carrier h rfl)
  | some item :: _, slot :: _, .next _ hlater =>
    have hitem := (runItem_tracks item d (.carrier slot parent)).carrier rfl
    exact hlater.faithful (h.of_sameView hitem.2)

end

end Operation

theorem Rule.Checks.faithful {conditions : List (Condition α)} {stream : RandomStream}
    (hm : Rule.Checks d target conditions stream m) (h : d.Reflects target) : m.Faithful := by
  induction hm with
  | head c rest stream => exact Moment.faithful_check (h.withStream stream) c
  | tail _ _ ih => exact ih

theorem Action.Meets.faithful {items : List (Item (Operation α))}
    (hm : Action.Meets items d target m) (h : d.Reflects target) : m.Faithful := by
  induction hm with
  | head hfirst => exact hfirst.faithful (.subject h)
  | tail _ _ ih => exact ih ((Operation.runItem_tracks _ _ _).subject h)

/-- The copy is right at every moment in rewriting the shape under evaluation. -/
theorem RuleSet.Meets.faithful {rules : List (Rule α)} (hm : RuleSet.Meets rules d target m)
    (h : d.Reflects target) : m.Faithful := by
  induction hm with
  | check _ hchecks => exact hchecks.faithful h
  | apply _ _ _ hruns => exact hruns.faithful (h.withStream _)
  | later _ _ ih => exact ih (h.withStream _)

end

end

/-! ## Shapes that bear their numbers -/

namespace Derivation

/-- Every shape of the history bears its number. -/
def Numbered (d : Derivation α) : Prop :=
  ∀ (i : ShapeId) (s : Shape α), d.shapes[i]? = some s → s.id = some i

variable {d d' : Derivation α} {s t : Shape α} {l : List (Shape α)}

theorem numbered_clear [Scalar α] (d : Derivation α) : d.clear.Numbered := by
  intro i s hs
  simp [clear] at hs

theorem Numbered.spawn (h : d.Numbered) (s : Shape α) : (d.spawn s).Numbered := by
  intro i t ht
  rw [getElem?_spawn] at ht
  split at ht
  · cases ht
    rfl
  · exact h i t ht

theorem Numbered.of_enters (h : d.Numbered) (he : Enters l d d') : d'.Numbered := by
  have hall : (d.spawnAll l).Numbered := by
    clear he
    induction l generalizing d with
    | nil => exact h
    | cons s l ih => exact ih (h.spawn s)
  intro i s hs
  exact hall i s (he.shapes ▸ hs)

theorem Numbered.finish (h : d.Numbered) (t : Shape α) (status : Status) :
    (d.finish t status).Numbered := by
  intro i u hu
  unfold Derivation.finish at hu
  split at hu
  next c hid =>
    rw [Array.getElem?_setIfInBounds] at hu
    split at hu
    next hi =>
      split at hu
      · cases hu
        exact hi ▸ hid
      · cases hu
    next => exact h i u hu
  next => exact h i u hu

/-- The shape that is taken is the one under evaluation from then on, and values read its scope. -/
theorem Numbered.reflects_next {w : Derivation α} (h : d.Numbered)
    (hnext : d.next? = some (s, w)) : w.Reflects s ∧ w.Numbered := by
  obtain ⟨c, queue, hs, rfl⟩ := eq_of_next? hnext
  have hid := h c s hs
  exact ⟨⟨by simp [hid], hid.symm, rfl⟩, h⟩

end Derivation

/-! ## Derivations -/

namespace RuleSet

variable [Scalar α] [Trigonometry α] {rules : RuleSet α} {v : Derivation α}

theorem numbered_of_passes {d : Derivation α} {start : Shape α}
    (h : rules.Passes d.clear start v) : v.Numbered := by
  induction h with
  | refl => exact d.numbered_clear.spawn start
  | tail _ hstep ih =>
    obtain ⟨shape, target, w, d, fired, hnext, -, hrewrite⟩ := hstep
    obtain ⟨l, henters, -⟩ := rules.rewrite_enters w shape
    rw [hrewrite] at henters
    exact ((ih.reflects_next hnext).2.of_enters henters).finish target _

/-- Whenever a condition is about to be checked or an operation is about to be applied in the course
of a derivation, values read the scope that the shape under evaluation has at that moment, and an
operation on a carrier does not change what they read. -/
theorem reflects_of_derive (rules : RuleSet α) (d : Derivation α) (start : Shape α) :
    (∃ v, rules.Passes d.clear start v ∧ rules.Ends v (rules.derive d.clear start)) ∧
    ∀ v, rules.Passes d.clear start v → ∀ shape w, v.next? = some (shape, w) →
      ∀ m, Meets rules.levels.flatten w shape m → m.Faithful := by
  refine ⟨rules.exists_ends_of_derive d start, fun v hv shape w hnext m hm => ?_⟩
  exact hm.faithful ((numbered_of_passes hv).reflects_next hnext).1

/-- A block is moved before it is cut into bays, of which the first one is made as wide as the
block. When the carrier in its slot is resized, values read the scope of the moved block. -/
theorem reflects_of_derive_bays :
    let one : Value Float32 := .number false 1
    let resize : Operation Float32 := .resize [.scope false .size .x, one, one]
    let cut : Operation Float32 := .subdivide .x [one, one] [some ⟨[resize], some "bay"⟩, none]
    let rules : RuleSet Float32 :=
      ⟨"block", none, [[.always "block" [⟨[.save, .move [one, one, one], cut, .restore], none⟩]]]⟩
    let start : Shape Float32 := .ofBox (some "block") ⟨⟨0, ⟨4, 4, 4⟩⟩, 0⟩
    ∃ v shape w m carrier, rules.Passes (Derivation.ofSeed 7).clear start v ∧
      v.next? = some (shape, w) ∧ Meets rules.levels.flatten w shape m ∧
      m.event = .call resize carrier ∧ carrier.id = none ∧ m.Faithful ∧
      (m.derivation.currentScope.position.x == 1) = true := by
  intro one resize cut rules start
  let v := (Derivation.ofSeed 7).clear.spawn start
  let shape := (v.next?.getD (start, v)).1
  let w := (v.next?.getD (start, v)).2
  have hnext : v.next? = some (shape, w) := by
    have htaken : v.next?.isSome := by decide +kernel
    obtain ⟨taken, htaken⟩ := Option.isSome_iff_exists.1 htaken
    simp only [shape, w, htaken, Option.getD_some]
  -- the state in which the action begins, and the states after each of its first operations
  let drawn := { w with stream := (w.stream.unit : Float32 × RandomStream).2 }
  let saved := Operation.run .save drawn shape
  let moved := Operation.run (.move [one, one, one]) saved.derivation saved.target
  have hmoved : moved.stop = none := Option.isNone_iff_eq_none.1 (by decide +kernel)
  obtain ⟨m, carrier, hmeets, hcall, hid, hscope⟩ : ∃ m carrier,
      Meets rules.levels.flatten w shape m ∧ m.event = .call resize carrier ∧ carrier.id = none ∧
        m.derivation = moved.derivation := by
    have hcut : Operation.Meets cut none moved.derivation moved.target _ :=
      .inside rfl rfl (.here (.head (.now resize _ _ _)))
    exact ⟨_, _, .apply (Rule.matchShape_always _ (by decide +kernel) w) (by decide +kernel)
      (if_pos (by decide +kernel)) (.head (.tail rfl (.tail hmoved (.head hcut)))), rfl, rfl, rfl⟩
  refine ⟨v, shape, w, m, carrier, .refl, hnext, hmeets, hcall, hid, ?_, ?_⟩
  · exact (rules.reflects_of_derive (.ofSeed 7) start).2 v .refl shape w hnext m hmeets
  · rw [hscope]
    decide +kernel

end RuleSet

end Cityscape.Grammar
