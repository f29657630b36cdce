import Cityscape.Grammar.Operation

/-!
# What operations enter into the history

Shapes come up in many ways: as parts and tiles of a target, as its roof, as its output, or out of
the slots of a subdivision, where carriers stand in for the target at any depth. In each of them
the new shapes have a symbol, and all of them have one parent: the target if it has a number, and
else the parent that the target hands down. Nothing else in the history changes.

## Main definitions

* `Derivation.spawnAll`, `Derivation.Enters` — shapes that are entered one after the other.
* `Derivation.EntersOnly`, `Derivation.Gains` — the shapes entered have a property, such as a symbol
  and a given parent.
* `IsLocal` — a stop for a reason that lies in the rule at hand.
* `Effect.Spawns`, `Effect.Follows` — what items and operations may do.
* `Halts` — a computation that does not run without end.

## Main statements

* `Value.halts_computeAll` — values are computed in the end.
* `Operation.run_follows`, `Operation.runItem_spawns` — every operation and item keeps to that, by
  recursion over the items inside of them.
-/

namespace Cityscape.Grammar

variable {α : Type}

/-! ## Shapes entered one after the other -/

namespace Derivation

/-- The state after the shapes of a list were entered, the first of them first. -/
def spawnAll (d : Derivation α) (l : List (Shape α)) : Derivation α := l.foldl spawn d

/-- The history, the queue, the shape under evaluation and the count of evaluations of the second
state are those of the first after the shapes of a list were entered. The random stream, the model
parts and the scope that values read may be others. -/
structure Enters (l : List (Shape α)) (d d' : Derivation α) : Prop where
  shapes : d'.shapes = (d.spawnAll l).shapes
  queue : d'.queue = (d.spawnAll l).queue
  current : d'.current = d.current
  evaluations : d'.evaluations = d.evaluations

variable {d d' d'' : Derivation α} {l l' : List (Shape α)} {s : Shape α} {parent : Option ShapeId}

theorem spawnAll_append (d : Derivation α) (l l' : List (Shape α)) :
    d.spawnAll (l ++ l') = (d.spawnAll l).spawnAll l' := List.foldl_append

@[simp] theorem current_spawnAll (d : Derivation α) (l : List (Shape α)) :
    (d.spawnAll l).current = d.current := by
  induction l generalizing d with
  | nil => rfl
  | cons s l ih => exact ih (d.spawn s)

@[simp] theorem evaluations_spawnAll (d : Derivation α) (l : List (Shape α)) :
    (d.spawnAll l).evaluations = d.evaluations := by
  induction l generalizing d with
  | nil => rfl
  | cons s l ih => exact ih (d.spawn s)

theorem Enters.spawnAll (h : Enters [] d d') (l : List (Shape α)) :
    Enters l d (d'.spawnAll l) := by
  induction l generalizing d d' with
  | nil => exact h
  | cons s l ih =>
    obtain ⟨hshapes, hqueue, hcurrent, hevaluations⟩ := h
    have hs : Enters [] (d.spawn s) (d'.spawn s) := by
      refine ⟨?_, ?_, hcurrent, hevaluations⟩
      · simp [spawn, Derivation.spawnAll, hshapes]
      · simp [spawn, Derivation.spawnAll, hshapes, hqueue]
    obtain ⟨hshapes, hqueue, hcurrent, hevaluations⟩ := ih hs
    exact ⟨hshapes, hqueue, hcurrent, hevaluations⟩

theorem Enters.append (h : Enters l d d') (h' : Enters l' d' d'') : Enters (l ++ l') d d'' := by
  have hl : Enters [] (d.spawnAll l) d' :=
    ⟨h.shapes, h.queue, by simp [h.current], by simp [h.evaluations]⟩
  have hl' : Enters l' (d.spawnAll l) (d'.spawnAll l') := hl.spawnAll l'
  refine ⟨?_, ?_, h'.current.trans h.current, h'.evaluations.trans h.evaluations⟩
  · rw [spawnAll_append, h'.shapes, hl'.shapes]
  · rw [spawnAll_append, h'.queue, hl'.queue]

/-- Shapes with a property were entered, and nothing else happened to the history. -/
def EntersOnly (p : Shape α → Prop) (d d' : Derivation α) : Prop :=
  ∃ l : List (Shape α), (∀ s ∈ l, p s) ∧ Enters l d d'

namespace EntersOnly

variable {p : Shape α → Prop}

theorem of_enters (h : Enters [] d d') : EntersOnly p d d' := ⟨[], by simp, h⟩

theorem refl (d : Derivation α) : EntersOnly p d d := of_enters ⟨rfl, rfl, rfl, rfl⟩

theorem withStream (d : Derivation α) (stream : RandomStream) :
    EntersOnly p d { d with stream } := of_enters ⟨rfl, rfl, rfl, rfl⟩

theorem trans (h : EntersOnly p d d') (h' : EntersOnly p d' d'') : EntersOnly p d d'' := by
  obtain ⟨l, hl, h⟩ := h
  obtain ⟨l', hl', h'⟩ := h'
  refine ⟨l ++ l', fun s hs => ?_, h.append h'⟩
  exact (List.mem_append.1 hs).elim (hl s) (hl' s)

theorem spawn (d : Derivation α) (hs : p s) : EntersOnly p d (d.spawn s) :=
  ⟨[s], by simpa using hs, rfl, rfl, rfl, rfl⟩

/-- No more is entered over a list than for each of its members. -/
theorem foldl {β : Type} {f : Derivation α → β → Derivation α}
    (hf : ∀ d b, EntersOnly p d (f d b)) (l : List β) (d : Derivation α) :
    EntersOnly p d (l.foldl f d) := by
  induction l generalizing d with
  | nil => exact refl d
  | cons b l ih => exact (hf d b).trans (ih (f d b))

theorem syncScope (d : Derivation α) (shape : Shape α) : EntersOnly p d (d.syncScope shape) := by
  unfold Derivation.syncScope
  split
  · exact .of_enters ⟨rfl, rfl, rfl, rfl⟩
  · exact .refl d

theorem spawnModel (d : Derivation α) (name : String) (shape : Shape α) :
    EntersOnly p d (d.spawnModel name shape) := by
  unfold Derivation.spawnModel
  split <;> exact .of_enters ⟨rfl, rfl, rfl, rfl⟩

end EntersOnly

/-- Shapes were entered that have a symbol and the given parent, and nothing else happened to the
history. -/
def Gains (parent : Option ShapeId) (d d' : Derivation α) : Prop :=
  ∃ l : List (Shape α), (∀ s ∈ l, s.symbol.isSome ∧ s.parent = parent) ∧ Enters l d d'

namespace Gains

theorem refl (d : Derivation α) : Gains parent d d := EntersOnly.refl d

theorem withStream (d : Derivation α) (stream : RandomStream) :
    Gains parent d { d with stream } := EntersOnly.withStream d stream

theorem trans (h : Gains parent d d') (h' : Gains parent d' d'') : Gains parent d d'' :=
  EntersOnly.trans h h'

theorem spawn (d : Derivation α) (hsymbol : s.symbol.isSome) (hparent : s.parent = parent) :
    Gains parent d (d.spawn s) := EntersOnly.spawn d ⟨hsymbol, hparent⟩

end Gains

theorem gains_syncScope (d : Derivation α) (shape : Shape α) :
    Gains parent d (d.syncScope shape) := EntersOnly.syncScope d shape

theorem gains_spawnModel (d : Derivation α) (name : String) (shape : Shape α) :
    Gains parent d (d.spawnModel name shape) := EntersOnly.spawnModel d name shape

end Derivation

open Cityscape.Grammar.Derivation (EntersOnly Gains)

/-! ## The place of a shape -/

/-- Two shapes have the same symbol, number and parent. -/
structure Shape.SamePlace (s t : Shape α) : Prop where
  symbol : t.symbol = s.symbol
  id : t.id = s.id
  parent : t.parent = s.parent

namespace Shape

variable {s t u : Shape α}

theorem SamePlace.refl (s : Shape α) : s.SamePlace s := ⟨rfl, rfl, rfl⟩

theorem SamePlace.trans (h : s.SamePlace t) (h' : t.SamePlace u) : s.SamePlace u :=
  ⟨h'.symbol.trans h.symbol, h'.id.trans h.id, h'.parent.trans h.parent⟩

/-- What is derived from a shape has the same parent as what is derived from another one in its
place. -/
theorem SamePlace.lineageParent (h : s.SamePlace t) : t.lineageParent = s.lineageParent := by
  simp [Shape.lineageParent, h.symbol, h.id, h.parent]

theorem isSome_symbol {symbol : String} (h : s.hasSymbol symbol) : s.symbol.isSome := by
  rw [eq_of_beq h]
  rfl

/-- A shape with a symbol and a number is the parent of what is derived from it. -/
theorem lineageParent_eq_id {id : ShapeId} (hsymbol : s.symbol.isSome) (hid : s.id = some id) :
    s.lineageParent = some id := by
  obtain ⟨name, hname⟩ := Option.isSome_iff_exists.1 hsymbol
  simp [Shape.lineageParent, hname, hid]

end Shape

/-! ## Effects -/

/-- A stop for a reason that lies in the rule at hand: neither a walk without end nor too many
evaluations. -/
def IsLocal : Stop (GrammarError α) → Prop
  | .fault fault => fault ≠ .endless
  | .refused (.evaluationLimit _) => False
  | .refused _ => True

namespace Effect

/-- Shapes with a symbol and the given parent were entered, and if there was a stop, then for a
reason that lies in the rule. -/
structure Spawns (parent : Option ShapeId) (d : Derivation α) (e : Effect α) : Prop where
  gains : Gains parent d e.derivation
  isLocal : ∀ stop, e.stop = some stop → IsLocal stop

/-- Shapes were entered on behalf of the target, and the target keeps its place. -/
structure Follows (d : Derivation α) (target : Shape α) (e : Effect α) : Prop
    extends Spawns target.lineageParent d e where
  place : target.SamePlace e.target

variable {d d' : Derivation α} {target target' : Shape α} {parent : Option ShapeId} {e : Effect α}
  {next : Derivation α → Shape α → Effect α}

theorem Spawns.done (h : Gains parent d d') : (done d' target).Spawns parent d :=
  ⟨h, nofun⟩

theorem Spawns.refuse (parent : Option ShapeId) (d : Derivation α) (target : Shape α)
    {error : GrammarError α} (h : IsLocal (.refused error)) :
    (refuse d target error).Spawns parent d :=
  ⟨.refl d, fun _ hstop => Option.some.inj hstop ▸ h⟩

theorem Follows.done (h : Gains target.lineageParent d d') (hplace : target.SamePlace target') :
    (done d' target').Follows d target :=
  ⟨.done h, hplace⟩

theorem Follows.refuse (d : Derivation α) (target : Shape α) {error : GrammarError α}
    (h : IsLocal (.refused error)) : (refuse d target error).Follows d target :=
  ⟨.refuse _ d target h, .refl target⟩

theorem Follows.abort (d : Derivation α) (target : Shape α) {fault : Fault}
    (h : fault ≠ .endless) : (abort d target fault).Follows d target :=
  ⟨⟨.refl d, fun _ hstop => Option.some.inj hstop ▸ h⟩, .refl target⟩

/-- What comes after a gain. -/
theorem Spawns.after (h : Gains parent d d') (he : e.Spawns parent d') : e.Spawns parent d :=
  ⟨h.trans he.gains, he.isLocal⟩

theorem Follows.after (h : Gains target.lineageParent d d') (he : e.Follows d' target) :
    e.Follows d target :=
  ⟨.after h he.toSpawns, he.place⟩

theorem Spawns.andThen (he : e.Spawns parent d)
    (hnext : (next e.derivation e.target).Spawns parent e.derivation) :
    (e.andThen next).Spawns parent d := by
  obtain ⟨d', target', _ | stop⟩ := e
  · exact .after he.gains hnext
  · exact ⟨he.gains, he.isLocal⟩

theorem Follows.andThen (he : e.Follows d target)
    (hnext : (next e.derivation e.target).Follows e.derivation e.target) :
    (e.andThen next).Follows d target := by
  have hspawns : (next e.derivation e.target).Spawns target.lineageParent e.derivation :=
    he.place.lineageParent ▸ hnext.toSpawns
  refine ⟨he.toSpawns.andThen hspawns, ?_⟩
  obtain ⟨d', target', _ | stop⟩ := e
  · exact he.place.trans hnext.place
  · exact he.place

end Effect

/-! ## Values -/

/-- A computation does not run without end. -/
def Halts {β : Type} (x : Except Fault β) : Prop := x ≠ .error .endless

namespace Halts

variable {β γ : Type}

theorem ok (b : β) : Halts (.ok b : Except Fault β) := nofun

theorem bind {x : Except Fault β} {f : β → Except Fault γ} (hx : Halts x)
    (hf : ∀ b, Halts (f b)) : Halts (x >>= f) := by
  cases x with
  | error fault => exact fun h => hx (congrArg _ (Except.error.inj h))
  | ok b => exact hf b

end Halts

section

variable [Scalar α]

theorem halts_range (low high : α) (s : RandomStream) : Halts (s.range low high) := by
  unfold RandomStream.range RandomStream.between Halts
  grind

variable [Trigonometry α]

theorem Value.halts_compute (current : Scope α) (v : Value α) (s : RandomStream) :
    Halts (v.compute current s) := by
  induction v generalizing s with
  | number | scope | cover => exact .ok _
  | operation _ operator lhs rhs ihl ihr =>
    exact (ihl s).bind fun a => (ihr a.2).bind fun b => .ok _
  | random _ low high ihl ihh =>
    exact (ihl s).bind fun a => (ihh a.2).bind fun b => halts_range a.1 b.1 b.2

theorem Value.halts_computeAll (current : Scope α) (values : List (Value α)) (s : RandomStream) :
    Halts (Value.computeAll current values s) := by
  induction values generalizing s with
  | nil => exact .ok _
  | cons v values ih =>
    exact (v.halts_compute current s).bind fun a => (ih a.2).bind fun b => .ok _

/-- Values only draw from the random stream. -/
theorem Effect.Follows.withValues {d : Derivation α} {target : Shape α} {values : List (Value α)}
    {next : Derivation α → List α → Effect α}
    (h : ∀ d numbers, (next d numbers).Follows d target) :
    (Effect.withValues d target values next).Follows d target := by
  have hhalts := Value.halts_computeAll d.currentScope values d.stream
  unfold Effect.withValues
  split
  next fault hfault => exact .abort d target fun h => hhalts (h ▸ hfault)
  next numbers stream _ => exact .after (.withStream d stream) (h _ numbers)

end

/-! ## Operations -/

namespace Operation

open Effect (Follows Spawns)

variable {d : Derivation α} {target : Shape α}

theorem gains_spawnChild (target : Shape α) (d : Derivation α) (symbol : String)
    (part : OrientedBox α) : Gains target.lineageParent d (spawnChild target d symbol part) :=
  .spawn d rfl rfl

section

variable {p : Shape α → Prop} (hp : ∀ symbol part, p (target.child symbol part))
include hp

theorem entersOnly_spawnChild (d : Derivation α) (symbol : String) (part : OrientedBox α) :
    EntersOnly p d (spawnChild target d symbol part) := .spawn d (hp symbol part)

theorem entersOnly_spawnParts (parts : List (OrientedBox α)) (symbols : List String)
    (d : Derivation α) : EntersOnly p d (spawnParts target parts symbols d) :=
  EntersOnly.foldl (fun d part =>
    EntersOnly.foldl (fun d symbol => entersOnly_spawnChild hp d symbol part) symbols d) parts d

theorem entersOnly_spawnGroups (parts : List (OrientedBox α)) (groups : List (String × Nat))
    (d : Derivation α) : EntersOnly p d (spawnGroups target parts groups d) := by
  induction groups generalizing parts d with
  | nil => exact .refl d
  | cons group groups ih =>
    obtain ⟨symbol, count⟩ := group
    exact (EntersOnly.foldl (fun d part => entersOnly_spawnChild hp d symbol part) _ d).trans
      (ih (parts.drop count) _)

end

theorem gains_spawnParts (target : Shape α) (parts : List (OrientedBox α)) (symbols : List String)
    (d : Derivation α) : Gains target.lineageParent d (spawnParts target parts symbols d) :=
  entersOnly_spawnParts (fun _ _ => ⟨rfl, rfl⟩) parts symbols d

theorem gains_spawnGroups (target : Shape α) (parts : List (OrientedBox α))
    (groups : List (String × Nat)) (d : Derivation α) :
    Gains target.lineageParent d (spawnGroups target parts groups d) :=
  entersOnly_spawnGroups (fun _ _ => ⟨rfl, rfl⟩) parts groups d

/-- An output enters the target's child, or a carrier itself, which has the parent that it hands
down. -/
theorem putOut_spawns (output : Option String) (d : Derivation α) (target : Shape α) :
    (putOut output d target).Spawns target.lineageParent d := by
  unfold putOut
  split
  next => exact .done (.refl d)
  next symbol _ _ => exact .done (gains_spawnChild target d symbol target.box)
  next symbol hsymbol =>
    exact .done (.spawn d rfl (by simp [Shape.lineageParent, hsymbol]))

theorem putOut_follows (output : Option String) (d : Derivation α) (h : target.symbol.isSome) :
    (putOut output d target).Follows d target := by
  refine ⟨putOut_spawns output d target, ?_⟩
  unfold putOut
  split
  next => exact .refl target
  next => exact .refl target
  next hsymbol => simp [hsymbol] at h

theorem runRestore_follows (d : Derivation α) (target : Shape α) :
    (runRestore d target).Follows d target := by
  unfold runRestore
  split
  · exact .refuse d target trivial
  · exact .done (Derivation.gains_syncScope ..) ⟨rfl, rfl, rfl⟩

variable [Scalar α] [Trigonometry α]

theorem runComponent_follows (kind : ComponentKind) (parameters : List (Value α))
    (symbols : List String) (d : Derivation α) (target : Shape α) :
    (runComponent kind parameters symbols d target).Follows d target := by
  unfold runComponent
  split
  · exact .refuse d target trivial
  split
  · split
    · exact .refuse d target trivial
    · refine .withValues fun d numbers => ?_
      dsimp only
      split
      · exact .refuse d target trivial
      · exact .done (gains_spawnParts ..) (.refl target)
  split
  · exact .done (gains_spawnParts ..) (.refl target)
  split
  · exact .refuse d target trivial
  · refine .withValues fun d numbers => ?_
    dsimp only
    split
    · exact .abort d target nofun
    split
    · exact .refuse d target trivial
    · exact .done (gains_spawnGroups ..) (.refl target)

theorem runTile_follows (axes : List Bool) (values : List (Value α)) (symbols : List String)
    (d : Derivation α) (target : Shape α) :
    (runTile axes values symbols d target).Follows d target := by
  unfold runTile
  split
  · exact .refuse d target trivial
  split
  · exact .refuse d target trivial
  split
  · exact .refuse d target trivial
  refine .withValues fun d numbers => ?_
  dsimp only
  split
  · split
    · exact .done (gains_spawnParts ..) (.refl target)
    · exact .refuse d target trivial
  · exact .refuse d target trivial

theorem runMove_follows (values : List (Value α)) (d : Derivation α) (target : Shape α) :
    (runMove values d target).Follows d target := by
  unfold runMove
  split
  · exact .refuse d target trivial
  · exact .withValues fun d deltas => .done (Derivation.gains_syncScope ..) ⟨rfl, rfl, rfl⟩

theorem runResize_follows (values : List (Value α)) (d : Derivation α) (target : Shape α) :
    (runResize values d target).Follows d target := by
  unfold runResize
  split
  · exact .refuse d target trivial
  · exact .withValues fun d sizes => .done (Derivation.gains_syncScope ..) ⟨rfl, rfl, rfl⟩

theorem halts_turnAngle (current : Scope α) (angle : α) (v : Option (Value α))
    (s : RandomStream) : Halts (turnAngle current angle v s) := by
  cases v with
  | none => exact .ok _
  | some v => exact (v.halts_compute current s).bind fun a => .ok _

theorem runTurn_follows (x y z : Option (Value α)) (d : Derivation α) (target : Shape α) :
    (runTurn x y z d target).Follows d target := by
  unfold runTurn
  dsimp only
  split
  next fault hfault =>
    refine .abort d target fun h => ?_
    have hhalts := (halts_turnAngle d.currentScope target.rotation.x x d.stream).bind fun a =>
      (halts_turnAngle d.currentScope target.rotation.y y a.2).bind fun b =>
        (halts_turnAngle d.currentScope target.rotation.z z b.2).bind fun c =>
          .ok ((⟨a.1, b.1, c.1⟩ : Vec3 α), c.2)
    exact hhalts (h ▸ hfault)
  next => exact .done (.withStream ..) ⟨rfl, rfl, rfl⟩

theorem runRoof_follows (kind : RoofKind) (angle : Value α) (output : String) (d : Derivation α)
    (target : Shape α) : (runRoof kind angle output d target).Follows d target := by
  unfold runRoof
  split
  · exact .refuse d target trivial
  · exact .withValues fun d numbers => .done (gains_spawnChild ..) (.refl target)

mutual

/-- Every operation enters shapes on behalf of its target, which keeps its place. -/
theorem run_follows (f : Operation α) (d : Derivation α) (target : Shape α) :
    (f.run d target).Follows d target := by
  match f with
  | component kind parameters symbols => exact runComponent_follows ..
  | tile axes values symbols => exact runTile_follows ..
  | subdivide axis values items =>
    simp only [run]
    split
    · exact .refuse d target trivial
    · exact .withValues fun d numbers => runSlots_follows items _ d target
  | move values => exact runMove_follows ..
  | resize values => exact runResize_follows ..
  | turn x y z => exact runTurn_follows ..
  | save => exact .done (.refl d) ⟨rfl, rfl, rfl⟩
  | restore => exact runRestore_follows ..
  | roof kind angle output => exact runRoof_follows ..
  | model name => exact .done (Derivation.gains_spawnModel ..) (.refl target)

theorem runAll_follows (fs : List (Operation α)) (d : Derivation α) (target : Shape α) :
    (runAll fs d target).Follows d target := by
  match fs with
  | [] => exact .done (.refl d) (.refl target)
  | f :: rest => exact (run_follows f d target).andThen (runAll_follows rest _ _)

/-- The operations of an item leave the parent that its target hands down, and so the output has
the same parent as what came up before. -/
theorem runItem_spawns (item : Item (Operation α)) (d : Derivation α) (target : Shape α) :
    (runItem item d target).Spawns target.lineageParent d := by
  match item with
  | ⟨operations, output⟩ =>
    simp only [runItem]
    split
    · exact .refuse _ d target trivial
    · have hrun := runAll_follows operations d target
      exact hrun.toSpawns.andThen (hrun.place.lineageParent ▸ putOut_spawns output _ _)

/-- Each slot runs on a carrier with the parent that the target hands down. -/
theorem runSlots_follows (items : List (Option (Item (Operation α))))
    (slots : List (OrientedBox α)) (d : Derivation α) (target : Shape α) :
    (runSlots items slots d target).Follows d target := by
  match items, slots with
  | [], _ | none :: _, [] | some _ :: _, [] => exact .done (.refl d) (.refl target)
  | none :: items, _ :: slots => exact runSlots_follows items slots d target
  | some item :: items, slot :: slots =>
    -- a carrier has no symbol, and so hands down the parent that it was given
    have hitem : (runItem item d (.carrier slot target.lineageParent)).Spawns
        target.lineageParent d := runItem_spawns item d (.carrier slot target.lineageParent)
    simp only [runSlots]
    split
    next heffect => exact .after (heffect ▸ hitem).gains (runSlots_follows items slots _ target)
    next heffect => exact ⟨⟨(heffect ▸ hitem).gains, (heffect ▸ hitem).isLocal⟩, .refl target⟩

end

/-- A target that has a symbol keeps its place when an item runs on it. -/
theorem runItem_follows (item : Item (Operation α)) (d : Derivation α)
    (h : target.symbol.isSome) : (runItem item d target).Follows d target := by
  obtain ⟨operations, output⟩ := item
  simp only [runItem]
  split
  · exact .refuse d target trivial
  · have hrun := runAll_follows operations d target
    exact hrun.andThen (putOut_follows output _ (hrun.place.symbol ▸ h))

end Operation

end Cityscape.Grammar
