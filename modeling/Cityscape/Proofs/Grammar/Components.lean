import Cityscape.Proofs.Grammar.Groups

/-!
# Parts of a shape

A component split enters shapes for parts of its target: for all parts of its kind, one for each
symbol; or for the one part whose number was asked for; or for all parts, handed out to the symbols
in groups of consecutive ones. The kinds of edges share out the edges of a box with depth.

## Main definitions

* `ComponentKind.family` — the kind that a single part is selected from.
* `PartMajor` — shapes for parts come part by part, one for each symbol.
* `Operation.TakesApart`, `Operation.EntersParts` — the shapes that a split enters for the numbers
  of its parameters, and what it does.

## Main statements

* `everyThird_perm` — every third element, from the first three on.
* `Operation.entersParts_of_stop` — a split that comes to its end.
* `Operation.component_takes_apart` — what splits enter.
-/

namespace Cityscape.Grammar

open Single

/-! ## Edges of a box with depth -/

/-- Every third element of a list, from its first three elements on, are the elements of the
list. -/
theorem everyThird_perm {β : Type} (l : List β) :
    (everyThird 0 l ++ (everyThird 1 l ++ everyThird 2 l)).Perm l := by
  induction l with
  | nil => exact .nil
  | cons b l ih =>
    -- The element takes up the first place, and the three parts of the others move round.
    have hrotate : (everyThird 2 l ++ (everyThird 0 l ++ everyThird 1 l)).Perm
        (everyThird 0 l ++ (everyThird 1 l ++ everyThird 2 l)) := by
      rw [← List.append_assoc (everyThird 0 l)]
      exact List.perm_append_comm
    exact (hrotate.trans ih).cons b

namespace ComponentKind

variable {α : Type} [Scalar α] [Trigonometry α]

/-- The kind of all the parts that a single one is selected from. -/
def family : ComponentKind → ComponentKind
  | face => faces
  | sideFace => sideFaces
  | edge => edges
  | vertex => vertices
  | kind => kind

theorem components_family (p : OrientedBox α) (kind : ComponentKind) :
    kind.family.components p = kind.components p := by
  cases kind <;> rfl

/-- The edges along the bottom, the upright ones and those along the top are the edges of a box with
depth. -/
theorem components_edges_perm {p : OrientedBox α} (h : p.isFlat = false) :
    (bottomEdges.components p ++ (sideEdges.components p ++ topEdges.components p)).Perm
      (edges.components p) := by
  have hedges : edges.components p = p.edges := by
    unfold components
    rw [h]
    rfl
  rw [hedges]
  exact everyThird_perm p.edges

end ComponentKind

/-! ## Shapes for parts -/

/-- Shapes derived from a target for parts come part by part, one for each symbol. -/
structure PartMajor {α : Type} (target : Shape α) (parts : List (OrientedBox α))
    (symbols : List String) (shapes : List (Shape α)) : Prop where
  length : shapes.length = parts.length * symbols.length
  shape {k i : ℕ} (hk : k < parts.length) (hi : i < symbols.length) :
    shapes[k * symbols.length + i]? = some (target.child symbols[i] parts[k])

theorem partMajor_copies {α : Type} (target : Shape α) (parts : List (OrientedBox α))
    (symbols : List String) : PartMajor target parts symbols (target.copies parts symbols) where
  length := Shape.length_copies target parts symbols
  shape hk hi := by
    rw [Shape.getElem?_copies target parts symbols hi, List.getElem?_eq_getElem hk]
    rfl

namespace Operation

/-! ## Numbers of parts -/

theorem whole_notANumber {a : Float32} (h : ¬ Scalar.IsNumber a) : Scalar.whole a = 0 := by
  have hparts : parts a = .notANumber := by
    cases hp : parts a with
    | notANumber => rfl
    | zero | infinity | finite => exact absurd (isNumber_of_isDefined (by rw [hp]; trivial)) h
  have hword : a.toUInt64 = UInt64.ofNatClamp ((parts a).toInt 0 (UInt64.size - 1)).toNat := rfl
  change a.toUInt64.toNat = 0
  rw [hword, hparts]
  rfl

/-- A rounded number that is cut off to a half word above zero is the nearest count, unless it is as
large as a half word can be. -/
theorem nearestCount_of_halfWord {a : Float32} {n : ℕ} (hpos : 1 ≤ n) (hlt : n < 0x7fffffff)
    (h : halfWord (round a) = n) : nearestCount a = n := by
  unfold halfWord at h
  split at h
  · omega
  next hneg =>
    have hwhole : Scalar.whole (round a) = n := by
      have hmin : min (Scalar.whole (round a)) 0x7fffffff = n := by exact_mod_cast h
      omega
    have hself : Scalar.IsNumber (round a) := by
      by_contra hnumber
      rw [whole_notANumber hnumber] at hwhole
      omega
    have hmax : Scalar.max (round a) 0 = round a := by
      rw [Scalar.max, if_neg hneg, if_pos (show (round a == round a) = true from hself)]
    have hcount := whole_max_round a
    rw [hmax, hwhole] at hcount
    have hword : n < wordLimit := hlt.trans (by decide)
    obtain hmin | hmin := min_choice (nearestCount a) wordLimit
    · exact (hcount.trans hmin).symm
    · rw [hmin, Nat.cast_inj] at hcount
      omega

section

variable [Trigonometry Float32] {kind : ComponentKind} {parameters : List (Value Float32)}
  {symbols : List String} {d : Derivation Float32} {target : Shape Float32}
  {numbers : List Float32} {stream : RandomStream}

/-- The shapes that a split enters for the numbers of its parameters. A kind of a single part asks
for its number among the parts of its family, counted from one. -/
structure TakesApart (kind : ComponentKind) (parameters : List (Value Float32))
    (symbols : List String) (numbers : List Float32) (target : Shape Float32)
    (shapes : List (Shape Float32)) : Prop where
  single : kind.isSingle = true → ∃ number n part, numbers = [number] ∧
    nearestCount number = (n + 1 : ℕ) ∧ (kind.family.components target.box)[n]? = some part ∧
      PartMajor target [part] symbols shapes
  all : kind.isSingle = false → parameters = [] →
    PartMajor target (kind.components target.box) symbols shapes
  groups : kind.isSingle = false → parameters ≠ [] → ∃ counts : List ℕ,
    numbers.map nearestCount = counts.map (Nat.cast : ℕ → ℕ∞) ∧
      HandsOut target (kind.components target.box) symbols counts shapes

/-- A split computes the numbers of its parameters and enters the shapes that they ask for, and does
nothing else. -/
def EntersParts (kind : ComponentKind) (parameters : List (Value Float32)) (symbols : List String)
    (d : Derivation Float32) (target : Shape Float32) (e : Effect Float32) : Prop :=
  ∃ numbers stream shapes,
    Value.computeAll d.currentScope parameters d.stream = .ok (numbers, stream) ∧
      TakesApart kind parameters symbols numbers target shapes ∧
      e = .done (({ d with stream }).spawnAll shapes) target

omit [Trigonometry Float32] in
/-- The part with a number, counted from one. -/
theorem exists_part {β : Type} {parts : List β} {index : ℤ}
    (h : ¬ (index < 1 ∨ (parts.length : ℤ) < index)) :
    ∃ n part, index = (n + 1 : ℕ) ∧ parts[n]? = some part ∧
      (parts.drop (index.toNat - 1)).take 1 = [part] := by
  obtain ⟨n, rfl⟩ : ∃ n : ℕ, index = (n + 1 : ℕ) := ⟨(index - 1).toNat, by omega⟩
  have hn : n < parts.length := by omega
  refine ⟨n, parts[n], rfl, List.getElem?_eq_getElem hn, ?_⟩
  rw [Int.toNat_natCast, Nat.add_sub_cancel, List.drop_eq_getElem_cons hn]
  rfl

/-- A kind needs depth where its split comes to an end. -/
theorem depth_of_stop (h : (runComponent kind parameters symbols d target).stop = none) :
    (kind.needsDepth && target.box.isFlat) = false := by
  rw [Bool.eq_false_iff]
  intro hflat
  rw [runComponent, if_pos hflat] at h
  cases h

theorem entersParts_single (hsingle : kind.isSingle = true)
    (h : (runComponent kind parameters symbols d target).stop = none) :
    EntersParts kind parameters symbols d target
      (runComponent kind parameters symbols d target) := by
  have hdepth := Bool.eq_false_iff.1 (depth_of_stop h)
  unfold runComponent at h ⊢
  rw [if_neg hdepth] at h ⊢
  simp only [if_pos hsingle] at h ⊢
  split at h
  · cases h
  next hone =>
    rw [if_neg hone]
    obtain ⟨numbers, stream, hvalues, hrun⟩ := Effect.exists_of_withValues h
    rw [hrun] at h ⊢
    have hlength : numbers.length = 1 := by
      rw [length_computeAll hvalues]
      exact not_not.1 hone
    obtain ⟨a, rfl⟩ := List.length_eq_one_iff.1 hlength
    generalize hround : [a].foldl (fun _ a => halfWord (Scalar.round a)) 0 = index at h ⊢
    by_cases hindex : index < 1 ∨ ((kind.components target.box).length : ℤ) < index
    · rw [if_pos hindex] at h
      cases h
    · obtain ⟨n, part, hn, hpart, htake⟩ := exists_part hindex
      have hfew : n < 12 := by
        obtain ⟨hlt, -⟩ := List.getElem?_eq_some_iff.1 hpart
        rw [ComponentKind.length_components] at hlt
        exact hlt.trans_le (kind.number_le _)
      have hnearest : nearestCount a = (n + 1 : ℕ) :=
        nearestCount_of_halfWord (by omega) (by omega) (hround.trans hn)
      rw [if_neg hindex, htake, spawnParts_eq]
      refine ⟨[a], stream, _, hvalues, ⟨fun _ => ?_, ?_, ?_⟩, rfl⟩
      · exact ⟨a, n, part, rfl, hnearest, kind.components_family target.box ▸ hpart,
          partMajor_copies ..⟩
      · intro hseveral
        cases hsingle.symm.trans hseveral
      · intro hseveral
        cases hsingle.symm.trans hseveral

theorem entersParts_all (hseveral : kind.isSingle = false)
    (h : (runComponent kind [] symbols d target).stop = none) :
    EntersParts kind [] symbols d target (runComponent kind [] symbols d target) := by
  have hdepth := Bool.eq_false_iff.1 (depth_of_stop h)
  refine ⟨[], d.stream, target.copies (kind.components target.box) symbols, rfl, ⟨?_, ?_, ?_⟩, ?_⟩
  · intro hsingle
    cases hsingle.symm.trans hseveral
  · intro _ _
    exact partMajor_copies ..
  · intro _ hparameters
    exact absurd rfl hparameters
  · unfold runComponent
    rw [if_neg hdepth]
    simp only [if_neg (Bool.eq_false_iff.1 hseveral), spawnParts_eq]
    rfl

theorem entersParts_groups (hseveral : kind.isSingle = false) (hparameters : parameters ≠ [])
    (h : (runComponent kind parameters symbols d target).stop = none) :
    EntersParts kind parameters symbols d target
      (runComponent kind parameters symbols d target) := by
  have hdepth := depth_of_stop h
  have hlength : parameters.length = symbols.length := by
    by_contra hne
    have hempty : ¬ parameters.isEmpty = true := by simpa using hparameters
    unfold runComponent at h
    rw [if_neg (Bool.eq_false_iff.1 hdepth)] at h
    simp only [if_neg (Bool.eq_false_iff.1 hseveral), if_neg hempty, if_pos hne] at h
    cases h
  have hgroups : Groups kind parameters symbols target := ⟨hseveral, hdepth, hparameters, hlength⟩
  obtain ⟨numbers, stream, hvalues, hcounts, hrun⟩ := exists_counts_of_stop hgroups h
  refine ⟨numbers, stream, _, hvalues, ⟨?_, ?_, ?_⟩, hrun⟩
  · intro hsingle
    cases hsingle.symm.trans hseveral
  · intro _ hnone
    exact absurd hnone hparameters
  · intro _ _
    refine ⟨numbers.map count, ?_, handsOut_labels ?_ hcounts⟩
    · rw [List.map_map]
      refine List.map_congr_left fun a ha => nearestCount_eq_count ?_
      have hle : count a ≤ (numbers.map count).sum :=
        List.le_sum_of_mem (List.mem_map_of_mem ha)
      exact (hcounts ▸ hle).trans_lt (kind.length_components_lt target.box)
    · rw [List.length_map, length_computeAll hvalues, hlength]

/-- A split that comes to its end enters shapes for parts. -/
theorem entersParts_of_stop (h : ((component kind parameters symbols).run d target).stop = none) :
    EntersParts kind parameters symbols d target
      ((component kind parameters symbols).run d target) := by
  change (runComponent kind parameters symbols d target).stop = none at h
  change EntersParts kind parameters symbols d target
    (runComponent kind parameters symbols d target)
  cases hkind : kind.isSingle with
  | true => exact entersParts_single hkind h
  | false =>
    by_cases hparameters : parameters = []
    · subst hparameters
      exact entersParts_all hkind h
    · exact entersParts_groups hkind hparameters h

/-- A split that comes to its end enters shapes for its parts and does nothing else: for the part
that was asked for, for all parts, or for parts that are handed out by the nearest counts. The
splits into bottom, upright and top edges of a box with depth are its twelve edges. -/
theorem component_takes_apart :
    (∀ (kind : ComponentKind) (parameters : List (Value Float32)) (symbols : List String)
      (d : Derivation Float32) (target : Shape Float32),
      ((component kind parameters symbols).run d target).stop = none →
        EntersParts kind parameters symbols d target
          ((component kind parameters symbols).run d target)) ∧
      ∀ p : OrientedBox Float32, p.isFlat = false →
        (ComponentKind.bottomEdges.components p ++
          (ComponentKind.sideEdges.components p ++ ComponentKind.topEdges.components p)).Perm
            (ComponentKind.edges.components p) ∧
          (ComponentKind.edges.components p).length = 12 := by
  refine ⟨fun _ _ _ _ _ => entersParts_of_stop, fun p hdepth => ?_⟩
  refine ⟨ComponentKind.components_edges_perm hdepth, ?_⟩
  rw [ComponentKind.length_components, hdepth]
  rfl

end

/-- Four faces of a crate are handed out to one symbol, and two to another one. -/
theorem component_takes_apart_crate :
    ((component .faces [.number false 4, .number false 2] ["A", "B"]).run (.ofSeed 0) crate).stop =
        none ∧
      EntersParts .faces [.number false 4, .number false 2] ["A", "B"] (.ofSeed 0) crate
        ((component .faces [.number false 4, .number false 2] ["A", "B"]).run (.ofSeed 0) crate) ∧
      crate.box.isFlat = false ∧ (ComponentKind.edges.components crate.box).length = 12 := by
  have hstop : ((component .faces [.number false 4, .number false 2] ["A", "B"]).run
      (.ofSeed 0) crate).stop = none := by
    change (runComponent _ _ _ _ _).stop = _
    rw [runComponent_of_groups groups_crate rfl]
    simp only [ComponentKind.length_components]
    rw [if_neg (by decide +kernel), if_neg (by decide +kernel)]
    rfl
  have hdepth : crate.box.isFlat = false := by decide +kernel
  exact ⟨hstop, component_takes_apart.1 _ _ _ _ _ hstop, hdepth,
    (component_takes_apart.2 _ hdepth).2⟩

end Operation

end Cityscape.Grammar
