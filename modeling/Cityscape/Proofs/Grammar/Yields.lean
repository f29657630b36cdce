import Cityscape.Proofs.Grammar.Rewriting
import Mathlib.Data.List.Count
import Mathlib.Data.List.Nodup

/-!
# What operations bring up

An operation enters shapes into the history and places model parts. Here both are told by names
only: the kinds of the shapes, in the order in which they are entered, and the names of the models.
The kinds are a parameter, so that a rule set can bring its own.

## Main definitions

* `Derivation.Places` — the names of the model parts of a state.
* `Derivation.Brings` — the kinds of the shapes and the names of the model parts that were added.
* `Effect.Yields` — an effect that did not stop, and what it brought.

## Main statements

* `Derivation.Places.countP` — parts are counted by the name of their model.
* `Operation.subdivide_pair_yields`, `Operation.tile_yields`, `Operation.faces_yields` — operations.
* `RuleSet.rewriteBy_filter` — only the rules for its symbol matter to a shape.
-/

namespace Cityscape.Grammar

variable {α κ : Type}

/-! ## Model parts -/

namespace Derivation

variable {d d' d'' : Derivation α} {names names' : List String} {kinds kinds' : List κ}
  {is : κ → Shape α → Prop} {k : κ} {s : Shape α}

/-- The model parts of a state are those of a list of names, in this order. -/
structure Places (names : List String) (d : Derivation α) : Prop where
  nodup : d.modelNames.toList.Nodup
  parts : d.parts.toList.map (fun p => d.modelNames[p.model]?) = names.map some

theorem places_clear [Scalar α] (d : Derivation α) : d.clear.Places [] := ⟨.nil, rfl⟩

theorem Places.congr (h : d.Places names) (hnames : d'.modelNames = d.modelNames)
    (hparts : d'.parts = d.parts) : d'.Places names := by
  constructor
  · rw [hnames]
    exact h.nodup
  · rw [hnames, hparts]
    exact h.parts

theorem getElem?_of_idxOf? {names : Array String} {name : String} {model : Nat}
    (h : names.idxOf? name = some model) : names[model]? = some name := by
  rw [← names.toArray_toList, List.idxOf?_toArray, List.idxOf?_eq_some_iff] at h
  obtain ⟨hlt, hget, -⟩ := h
  exact Array.getElem?_eq_some_iff.2 ⟨hlt, hget⟩

theorem Places.spawnModel (h : d.Places names) (name : String) (s : Shape α) :
    (d.spawnModel name s).Places (names ++ [name]) := by
  unfold Derivation.spawnModel
  split
  next model hmodel =>
    refine ⟨h.nodup, ?_⟩
    simp [h.parts, getElem?_of_idxOf? hmodel]
  next hnone =>
    have hnew : name ∉ d.modelNames := Array.idxOf?_eq_none_iff.1 hnone
    constructor
    · simpa [List.nodup_append, h.nodup] using fun a ha => ne_of_mem_of_not_mem ha hnew
    · -- The indices of the parts that there are still lead to the names they did.
      have hold : ∀ p ∈ d.parts.toList,
          (d.modelNames.push name)[p.model]? = d.modelNames[p.model]? := by
        intro p hp
        have hmem : d.modelNames[p.model]? ∈ names.map some := h.parts ▸ List.mem_map_of_mem hp
        obtain ⟨known, -, hknown⟩ := List.mem_map.1 hmem
        have hlt : p.model < d.modelNames.size := (Array.getElem?_eq_some_iff.1 hknown.symm).1
        rw [Array.getElem?_push, if_neg (Nat.ne_of_lt hlt)]
      rw [Array.toList_push, List.map_append, List.map_congr_left hold, h.parts]
      simp

/-- As many model parts show a model as the list holds its name. -/
theorem Places.countP (h : d.Places names) {name : String} {model : Nat}
    (hmodel : d.modelNames.idxOf? name = some model) :
    d.parts.countP (·.model == model) = names.count name := by
  have hname := getElem?_of_idxOf? hmodel
  have hiff : ∀ p ∈ d.parts.toList,
      (p.model == model) = (d.modelNames[p.model]? == some name) := by
    intro p hp
    rw [Bool.eq_iff_iff, beq_iff_eq, beq_iff_eq]
    refine ⟨fun heq => heq ▸ hname, fun heq => ?_⟩
    obtain ⟨hlt, hget⟩ := Array.getElem?_eq_some_iff.1 heq
    obtain ⟨hlt', hget'⟩ := Array.getElem?_eq_some_iff.1 hname
    exact (h.nodup.getElem_inj_iff).1 (hget.trans hget'.symm)
  calc d.parts.countP (·.model == model)
      = d.parts.toList.countP (fun p => d.modelNames[p.model]? == some name) := by
        rw [← Array.countP_toList]
        exact List.countP_congr fun p hp => by rw [hiff p hp]
    _ = (names.map some).count (some name) := by
        rw [← h.parts, List.count, List.countP_map]
        rfl
    _ = names.count name := List.count_map_of_injective _ _ (fun _ _ => Option.some.inj) _

/-- A model whose name is not in the table is not in the list. -/
theorem Places.count_eq_zero (h : d.Places names) {name : String}
    (hnone : d.modelNames.idxOf? name = none) : names.count name = 0 := by
  rw [List.count_eq_zero]
  intro hmem
  have hname : some name ∈ d.parts.toList.map (fun p => d.modelNames[p.model]?) :=
    h.parts ▸ List.mem_map_of_mem hmem
  obtain ⟨p, -, hp⟩ := List.mem_map.1 hname
  exact Array.idxOf?_eq_none_iff.1 hnone (Array.mem_of_getElem? hp)

/-! ## Shapes of given kinds -/

/-- Shapes of the given kinds were entered, and model parts of the given names were placed, in this
order; nothing else happened to the history. -/
structure Brings (is : κ → Shape α → Prop) (kinds : List κ) (names : List String)
    (d d' : Derivation α) : Prop where
  enters : ∃ l, List.Forall₂ is kinds l ∧ Enters l d d'
  places : ∀ before, d.Places before → d'.Places (before ++ names)

namespace Brings

theorem of_enters (h : Enters [] d d') (hnames : d'.modelNames = d.modelNames)
    (hparts : d'.parts = d.parts) : Brings is [] [] d d' :=
  ⟨⟨[], .nil, h⟩, fun before hbefore => by simpa using hbefore.congr hnames hparts⟩

theorem refl (d : Derivation α) : Brings is [] [] d d := .of_enters ⟨rfl, rfl, rfl, rfl⟩ rfl rfl

theorem withStream (d : Derivation α) (stream : RandomStream) :
    Brings is [] [] d { d with stream } := .of_enters ⟨rfl, rfl, rfl, rfl⟩ rfl rfl

theorem syncScope (d : Derivation α) (s : Shape α) : Brings is [] [] d (d.syncScope s) := by
  unfold Derivation.syncScope
  split
  · exact .of_enters ⟨rfl, rfl, rfl, rfl⟩ rfl rfl
  · exact .refl d

theorem trans (h : Brings is kinds names d d') (h' : Brings is kinds' names' d' d'') :
    Brings is (kinds ++ kinds') (names ++ names') d d'' := by
  obtain ⟨⟨l, hl, henters⟩, hplaces⟩ := h
  obtain ⟨⟨l', hl', henters'⟩, hplaces'⟩ := h'
  refine ⟨⟨l ++ l', List.rel_append hl hl', henters.append henters'⟩, fun before hbefore => ?_⟩
  rw [← List.append_assoc]
  exact hplaces' _ (hplaces before hbefore)

theorem spawn (d : Derivation α) (h : is k s) : Brings is [k] [] d (d.spawn s) :=
  ⟨⟨[s], .cons h .nil, rfl, rfl, rfl, rfl⟩, fun before hbefore => by
    rw [List.append_nil]
    exact hbefore.congr rfl rfl⟩

theorem spawnModel (d : Derivation α) (name : String) (s : Shape α) :
    Brings is [] [name] d (d.spawnModel name s) := by
  refine ⟨⟨[], .nil, ?_⟩, fun before hbefore => hbefore.spawnModel name s⟩
  unfold Derivation.spawnModel
  split <;> exact ⟨rfl, rfl, rfl, rfl⟩

theorem spawnAll {l : List (Shape α)} (h : List.Forall₂ is kinds l) (d : Derivation α) :
    Brings is kinds [] d (d.spawnAll l) := by
  induction h generalizing d with
  | nil => exact .refl d
  | cons hs _ ih => exact (spawn d hs).trans (ih _)

end Brings

end Derivation

/-! ## Values -/

section

variable [Scalar α] [Trigonometry α] {current : Scope α} {v : Value α} {rest : List (Value α)}
  {s s' s'' : RandomStream} {a : α} {numbers : List α}

/-- One value, and then the others. -/
theorem Value.computeAll_cons (h : v.compute current s = .ok (a, s'))
    (hrest : Value.computeAll current rest s' = .ok (numbers, s'')) :
    Value.computeAll current (v :: rest) s = .ok (a :: numbers, s'') := by
  rw [Value.computeAll, bind_eq_ok]
  exact ⟨_, h, bind_eq_ok.2 ⟨_, hrest, rfl⟩⟩

end

/-! ## Effects -/

namespace Effect

open Cityscape.Grammar.Derivation (Brings)

variable {d d' : Derivation α} {target : Shape α} {names names' : List String}
  {kinds kinds' : List κ} {is : κ → Shape α → Prop} {k : κ} {e : Effect α}
  {next : Derivation α → Shape α → Effect α}

/-- The effect did not stop, and brought up shapes of the given kinds and model parts of the given
names. -/
structure Yields (is : κ → Shape α → Prop) (kinds : List κ) (names : List String)
    (d : Derivation α) (e : Effect α) : Prop where
  stop : e.stop = none
  brings : Brings is kinds names d e.derivation

theorem Yields.done (h : Brings is kinds names d d') : (done d' target).Yields is kinds names d :=
  ⟨rfl, h⟩

theorem Yields.after (h : Brings is kinds names d d') (he : e.Yields is kinds' names' d') :
    e.Yields is (kinds ++ kinds') (names ++ names') d :=
  ⟨he.stop, h.trans he.brings⟩

theorem Yields.withStream {stream : RandomStream}
    (he : e.Yields is kinds names { d with stream }) : e.Yields is kinds names d :=
  .after (.withStream d stream) he

theorem Yields.andThen (he : e.Yields is kinds names d)
    (hnext : (next e.derivation e.target).Yields is kinds' names' e.derivation) :
    (e.andThen next).Yields is (kinds ++ kinds') (names ++ names') d := by
  obtain ⟨d', target', _ | stop⟩ := e
  · exact .after he.brings hnext
  · cases he.stop

/-- Values that are computed, and what comes after them. -/
theorem Yields.withValues [Scalar α] [Trigonometry α] {values : List (Value α)} {numbers : List α}
    {stream : RandomStream} {next : Derivation α → List α → Effect α}
    (h : Value.computeAll d.currentScope values d.stream = .ok (numbers, stream))
    (hnext : (next { d with stream } numbers).Yields is kinds names { d with stream }) :
    (Effect.withValues d target values next).Yields is kinds names d := by
  rw [Effect.withValues, h]
  exact hnext.withStream

end Effect

/-! ## Operations -/

namespace Operation

open Cityscape.Grammar.Derivation (Brings)

variable [Scalar α] {d : Derivation α} {target : Shape α} {names names' : List String}
  {kinds kinds' : List κ} {is : κ → Shape α → Prop} {k : κ} {symbol : String}

omit [Scalar α] in
theorem brings_spawnChild {part : OrientedBox α} (h : is k (target.child symbol part))
    (d : Derivation α) : Brings is [k] [] d (spawnChild target d symbol part) := .spawn d h

omit [Scalar α] in
/-- One shape of one symbol for each part. -/
theorem brings_spawnParts {parts : List (OrientedBox α)}
    (h : ∀ part ∈ parts, is k (target.child symbol part)) (d : Derivation α) :
    Brings is (List.replicate parts.length k) [] d (spawnParts target parts [symbol] d) := by
  have hall :
      List.Forall₂ is (List.replicate parts.length k) (parts.map (target.child symbol)) := by
    rw [← List.map_const', List.forall₂_map_left_iff, List.forall₂_map_right_iff, List.forall₂_same]
    exact h
  have heq : spawnParts target parts [symbol] d = d.spawnAll (parts.map (target.child symbol)) := by
    simp [spawnParts, Derivation.spawnAll, List.foldl_map, spawnChild]
  rw [heq]
  exact .spawnAll hall d

variable [Trigonometry α]

omit [Scalar α] [Trigonometry α] in
/-- A symbol that is put out is that of a shape with the box of the target. -/
theorem putOut_yields (h : ∀ s : Shape α, s.symbol = some symbol → s.box = target.box → is k s)
    (d : Derivation α) : (putOut (some symbol) d target).Yields is [k] [] d := by
  unfold putOut
  cases target.symbol with
  | none => exact .done (.spawn d (h _ rfl rfl))
  | some name => exact .done (brings_spawnChild (h _ rfl rfl) d)

/-- An item that only puts out a symbol. -/
theorem put_yields (h : ∀ s : Shape α, s.symbol = some symbol → s.box = target.box → is k s)
    (d : Derivation α) : (runItem (.put symbol) d target).Yields is [k] [] d :=
  putOut_yields h d

/-- An item of operations only. -/
theorem runItem_yields {fs : List (Operation α)} (hfs : fs ≠ [])
    (h : (runAll fs d target).Yields is kinds names d) :
    (runItem ⟨fs, none⟩ d target).Yields is kinds names d := by
  have hput : ((runAll fs d target).andThen (putOut none)).Yields is (kinds ++ []) (names ++ [])
      d := h.andThen (.done (.refl _))
  rw [runItem, if_neg (by simp [hfs])]
  simpa using hput

theorem runAll_nil_yields : (runAll [] d target).Yields is [] [] d := .done (.refl d)

theorem runAll_cons_yields {f : Operation α} {fs : List (Operation α)}
    (hf : (f.run d target).Yields is kinds names d)
    (hrest : ∀ d target, (runAll fs d target).Yields is kinds' names' d) :
    (runAll (f :: fs) d target).Yields is (kinds ++ kinds') (names ++ names') d :=
  hf.andThen (hrest _ _)

theorem exists_slots_triple (p : OrientedBox α) (axis : Axis) (a b c : Slot α) :
    ∃ u v w, p.slots axis [a, b, c] = [u, v, w] := ⟨_, _, _, rfl⟩

/-- The slots come one after the other. -/
theorem runSlots_yields {item : Item (Operation α)} {items : List (Option (Item (Operation α)))}
    {slot : OrientedBox α} {slots : List (OrientedBox α)}
    (hitem : (runItem item d (.carrier slot target.lineageParent)).Yields is kinds names d)
    (hrest : ∀ d, (runSlots items slots d target).Yields is kinds' names' d) :
    (runSlots (some item :: items) (slot :: slots) d target).Yields is (kinds ++ kinds')
      (names ++ names') d := by
  rw [runSlots]
  obtain ⟨hstop, hbrings⟩ := hitem
  split
  next d' t heq =>
    rw [heq] at hbrings
    exact .after hbrings (hrest d')
  next d' t stop heq =>
    rw [heq] at hstop
    cases hstop

/-- The last slot. -/
theorem runSlots_single_yields {item : Item (Operation α)} {slot : OrientedBox α}
    (hitem : (runItem item d (.carrier slot target.lineageParent)).Yields is kinds names d) :
    (runSlots [some item] [slot] d target).Yields is kinds names d := by
  have hslots : (runSlots [some item] [slot] d target).Yields is (kinds ++ []) (names ++ []) d :=
    runSlots_yields hitem fun d => .done (.refl d)
  simpa using hslots

/-- A target is cut in two along an axis, and each piece is given to its item. -/
theorem subdivide_pair_yields {axis : Axis} {values : List (Value α)} {numbers : List α}
    {lower upper : α} {item item' : Item (Operation α)}
    (hlength : values.length = 2)
    (hcompute : Value.computeAll d.currentScope values d.stream = .ok (numbers, d.stream))
    (hsizes : slotSizes (slotsOf values numbers) (target.scope.size.get axis) = [lower, upper])
    (hitem : ∀ position d, (runItem item d (.carrier ⟨⟨position, target.scope.size.set axis lower⟩,
      target.rotation⟩ target.lineageParent)).Yields is kinds names d)
    (hitem' : ∀ position d, (runItem item' d (.carrier ⟨⟨position, target.scope.size.set axis
      upper⟩, target.rotation⟩ target.lineageParent)).Yields is kinds' names' d) :
    ((subdivide axis values [some item, some item']).run d target).Yields is (kinds ++ kinds')
      (names ++ names') d := by
  have hslots : ∃ u v, target.box.slots axis (slotsOf values numbers) =
      [⟨⟨u, target.scope.size.set axis lower⟩, target.rotation⟩,
        ⟨⟨v, target.scope.size.set axis upper⟩, target.rotation⟩] := by
    have hsizes' : slotSizes (slotsOf values numbers) (target.box.scope.size.get axis) =
        [lower, upper] := hsizes
    rw [OrientedBox.slots, hsizes']
    exact ⟨_, _, rfl⟩
  obtain ⟨u, v, hslots⟩ := hslots
  rw [Operation.run, if_neg (by simp [hlength])]
  refine .withValues hcompute ?_
  rw [hslots]
  exact runSlots_yields (hitem u _) fun d => runSlots_single_yields (hitem' v d)

/-- Moving changes the position only. -/
theorem exists_runMove_eq (is : κ → Shape α → Prop) (target : Shape α) {values : List (Value α)}
    {numbers : List α} {stream : RandomStream}
    (hlength : values.length = 3)
    (h : Value.computeAll d.currentScope values d.stream = .ok (numbers, stream)) :
    ∃ position d', runMove values d target =
      .done d' { target with scope := { target.scope with position } } ∧ Brings is [] [] d d' := by
  rw [runMove, if_neg (by simp [hlength]), Effect.withValues, h]
  exact ⟨_, _, rfl, (Brings.withStream d stream).trans (.syncScope _ _)⟩

theorem runMove_yields {values : List (Value α)} {numbers : List α} {stream : RandomStream}
    (hlength : values.length = 3)
    (h : Value.computeAll d.currentScope values d.stream = .ok (numbers, stream)) :
    (runMove values d target).Yields is [] [] d := by
  obtain ⟨_, _, heq, hbrings⟩ := exists_runMove_eq is target hlength h
  rw [heq]
  exact .done hbrings

/-- Resizing changes the size only. -/
theorem exists_runResize_eq (is : κ → Shape α → Prop) (target : Shape α) {values : List (Value α)}
    {numbers : List α} {stream : RandomStream}
    (hlength : values.length = 3)
    (h : Value.computeAll d.currentScope values d.stream = .ok (numbers, stream)) :
    ∃ d', runResize values d target = .done d' { target with scope := { target.scope with
      size := change (fun relative size s => if relative then size * s else size) values numbers
        target.scope.size } } ∧ Brings is [] [] d d' := by
  rw [runResize, if_neg (by simp [hlength]), Effect.withValues, h]
  exact ⟨_, rfl, (Brings.withStream d stream).trans (.syncScope _ _)⟩

theorem runRoof_yields {angle : Value α} {numbers : List α} {stream : RandomStream}
    (h : Value.computeAll d.currentScope [angle] d.stream = .ok (numbers, stream))
    (hroof : ∀ part, is k (target.child symbol part)) :
    (runRoof .hipped angle symbol d target).Yields is [k] [] d := by
  rw [runRoof, if_neg (by simp)]
  exact .withValues h (.done (brings_spawnChild (hroof _) _))

omit [Trigonometry α] in
theorem faces_eq (p : OrientedBox α) :
    p.faces = [
      p.piece (p.scope.position + Vec3.stretch ⟨0, 0, 0⟩ p.scope.size)
        ⟨p.scope.size.x, p.scope.size.y, 0⟩ ⟨0, sideTurn 0, 0⟩,
      p.piece (p.scope.position + Vec3.stretch ⟨1, 0, 0⟩ p.scope.size)
        ⟨p.scope.size.z, p.scope.size.y, 0⟩ ⟨0, sideTurn 1, 0⟩,
      p.piece (p.scope.position + Vec3.stretch ⟨1, 0, 1⟩ p.scope.size)
        ⟨p.scope.size.x, p.scope.size.y, 0⟩ ⟨0, sideTurn 2, 0⟩,
      p.piece (p.scope.position + Vec3.stretch ⟨0, 0, 1⟩ p.scope.size)
        ⟨p.scope.size.z, p.scope.size.y, 0⟩ ⟨0, sideTurn 3, 0⟩,
      p.piece (p.scope.position + (Vec3.unit .z).stretch p.scope.size)
        ⟨p.scope.size.x, p.scope.size.z, 0⟩ ⟨-90.0, 0, 0⟩,
      p.piece (p.scope.position + p.scope.size)
        ⟨p.scope.size.x, p.scope.size.z, 0⟩ ⟨90.0, 180.0, 0⟩] := rfl

/-- The sides of a box with depth take the first symbol, its bottom the second and its top the
third. -/
theorem faces_yields {side bottom top : String} (hdepth : target.box.isFlat = false)
    (hfour : count (4.0 : α) = 4) (hone : count (1 : α) = 1)
    (h : List.Forall₂ is kinds (List.zipWith target.child [side, side, side, side, bottom, top]
      target.box.faces)) (d : Derivation α) :
    (runComponent .faces [.number false 4.0, .number false 1, .number false 1] [side, bottom, top] d
      target).Yields is kinds [] d := by
  have hcompute : Value.computeAll d.currentScope
      [.number false (4.0 : α), .number false 1, .number false 1] d.stream =
      .ok ([4.0, 1, 1], d.stream) := rfl
  simp only [runComponent, hdepth, Bool.and_false, ComponentKind.isSingle, List.isEmpty_cons,
    Bool.false_eq_true, if_false, List.length_cons, List.length_nil, ne_eq, not_true]
  refine .withValues hcompute ?_
  simp only [List.map_cons, List.map_nil, hfour, hone]
  exact .done (.spawnAll h _)

omit [Trigonometry α] in
/-- The tiling along one axis: as many tiles as the extent along it asks for. -/
theorem exists_tiling {size : Vec3 α} {axis : Axis} {spacing : α} {n : ℕ}
    (hcount : tileCount (size.get axis) spacing = some n) (hn : n ≤ tileLimit) :
    ∃ x y z t, spacings size [⟨spacing, false⟩] Axis.all (Axis.all.map (· == axis)) 0 = [x, y, z] ∧
      tiling size x y z = some t ∧ t.countY * (t.countX * t.countZ) = n ∧
      t.tile = size.set axis (size.get axis / Scalar.ofNat n) := by
  cases axis with
  | x =>
    have hx : tileCount size.x spacing = some n := hcount
    exact ⟨some spacing, none, none, ⟨n, 1, 1, ⟨size.x / Scalar.ofNat n, size.y, size.z⟩⟩, rfl,
      by simp [tiling, axisTiling, hx, hn], by simp, rfl⟩
  | y =>
    have hy : tileCount size.y spacing = some n := hcount
    exact ⟨none, some spacing, none, ⟨1, n, 1, ⟨size.x, size.y / Scalar.ofNat n, size.z⟩⟩, rfl,
      by simp [tiling, axisTiling, hy, hn], by simp, rfl⟩
  | z =>
    have hz : tileCount size.z spacing = some n := hcount
    exact ⟨none, none, some spacing, ⟨1, 1, n, ⟨size.x, size.y, size.z / Scalar.ofNat n⟩⟩, rfl,
      by simp [tiling, axisTiling, hz, hn], by simp, rfl⟩

/-- Tiles along one axis. -/
theorem tile_yields {axis : Axis} {spacing : α} {n : ℕ}
    (hcount : tileCount (target.scope.size.get axis) spacing = some n) (hn : n ≤ tileLimit)
    (h : ∀ position, is k (target.child symbol ⟨⟨position, target.scope.size.set axis
      (target.scope.size.get axis / Scalar.ofNat n)⟩, target.rotation⟩)) (d : Derivation α) :
    (runTile (Axis.all.map (· == axis)) [.number false spacing] [symbol] d target).Yields is
      (List.replicate n k) [] d := by
  have hcompute : Value.computeAll d.currentScope [.number false spacing] d.stream =
      .ok ([spacing], d.stream) := rfl
  have hflags : ¬ ((Axis.all.map (· == axis)).length ≠ 3 ∨ !(Axis.all.map (· == axis)).any id) := by
    cases axis <;> decide
  have hone : (Axis.all.map (· == axis)).count true = 1 := by cases axis <;> decide
  obtain ⟨x, y, z, t, hspacings, htiling, hcounts, htile⟩ := exists_tiling hcount hn
  have hlength : (target.box.tiles t).length = n := by
    simp [OrientedBox.tiles, ← hcounts]
  have hparts : ∀ part ∈ target.box.tiles t, is k (target.child symbol part) := by
    intro part hpart
    simp only [OrientedBox.tiles, List.mem_flatMap, List.mem_map] at hpart
    obtain ⟨y, -, x, -, z, -, rfl⟩ := hpart
    rw [htile]
    exact h _
  rw [runTile, if_neg (by simp), if_neg hflags, if_neg (by simp [hone])]
  refine .withValues hcompute ?_
  have hslots : slotsOf [.number false spacing] [spacing] = [(⟨spacing, false⟩ : Slot α)] := rfl
  simp only [hslots, hspacings, htiling]
  rw [← hlength]
  exact .done (brings_spawnParts hparts _)

theorem model_yields (name : String) (d : Derivation α) (target : Shape α) :
    ((model name).run d target).Yields is [] [name] d := .done (.spawnModel d name target)

end Operation

/-! ## Rules -/

section

variable [Scalar α] [Trigonometry α] {d : Derivation α} {target : Shape α}
  {names names' : List String} {kinds kinds' : List κ} {is : κ → Shape α → Prop}

theorem Action.runItems_nil_yields : (runItems [] d target).Yields is [] [] d := .done (.refl d)

theorem Action.runItems_cons_yields {item : Item (Operation α)} {items : List (Item (Operation α))}
    (hitem : (item.run d target).Yields is kinds names d)
    (hrest : ∀ d target, (runItems items d target).Yields is kinds' names' d) :
    (runItems (item :: items) d target).Yields is (kinds ++ kinds') (names ++ names') d :=
  hitem.andThen (hrest _ _)

theorem Action.runItems_single_yields {item : Item (Operation α)}
    (hitem : (item.run d target).Yields is kinds names d) :
    (runItems [item] d target).Yields is kinds names d := by
  simpa using runItems_cons_yields hitem fun _ _ => runItems_nil_yields

/-- Only the rules for its symbol matter to a shape. -/
theorem RuleSet.rewriteBy_filter {symbol : String} (h : target.symbol = some symbol)
    (rules : List (Rule α)) (d : Derivation α) :
    rewriteBy rules d target = rewriteBy (rules.filter (·.symbol == symbol)) d target := by
  induction rules generalizing d with
  | nil => rfl
  | cons r rules ih =>
    by_cases hr : r.symbol = symbol
    · rw [List.filter_cons_of_pos (by simp [hr]), rewriteBy, rewriteBy]
      split
      · rfl
      · exact ih _
      · rfl
    · rw [List.filter_cons_of_neg (by simp [hr]), ← ih]
      have hmatch : r.matchShape d target = (.ok false, d.stream) := by
        refine if_neg ?_
        simpa [Shape.hasSymbol, h] using Ne.symm hr
      simp only [rewriteBy, hmatch]

end

end Cityscape.Grammar
