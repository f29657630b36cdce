import Mathlib
import Cityscape.Proofs.Grammar.Copies
import Cityscape.Proofs.Grammar.Slots
import Cityscape.Proofs.Scalar.Counts

/-!
# Parts handed out by counts

A component split with parameters takes them as counts: how many consecutive parts each symbol gets.
A number is rounded, and cut off at zero and at the largest word, before the counts are added up.
The split goes ahead exactly when the nearest counts add up to the number of parts; but it refuses
only as long as the sum of the counts that were cut off is a word.

## Main definitions

* `Operation.Groups` — a split that hands out its parts by counts.
* `wordSum` — the sum of counts that are each cut off to a word.

## Main statements

* `sum_min_eq_iff` — cutting off does not make a wrong sum right.
* `Operation.runComponent_of_groups` — what is done with the counts.
* `Operation.component_groups_iff` — when a split goes ahead, refuses and fails.
-/

namespace Cityscape.Grammar

open Single

/-! ## Sums of counts that are cut off -/

/-- Counts that are cut off at a limit add up to a number below it only if they were not cut off. -/
theorem sum_min_eq_iff {l : List ℕ∞} {n limit : ℕ∞} (h : n < limit) :
    (l.map (min · limit)).sum = n ↔ l.sum = n := by
  have hmap : (∀ c ∈ l, c ≤ limit) → l.map (min · limit) = l := by
    intro hle
    conv_rhs => rw [← List.map_id l]
    exact List.map_congr_left fun c hc => min_eq_left (hle c hc)
  constructor
  · intro hsum
    rw [hmap] at hsum
    · exact hsum
    · intro c hc
      have hmin : min c limit ≤ n := hsum ▸ List.le_sum_of_mem (List.mem_map_of_mem hc)
      exact ((min_lt_iff.1 (hmin.trans_lt h)).resolve_right (lt_irrefl _)).le
  · intro hsum
    rw [hmap]
    · exact hsum
    · intro c hc
      exact (hsum ▸ List.le_sum_of_mem hc).trans h.le

/-- The sum of the counts nearest to some numbers, each cut off to the largest word. -/
noncomputable def wordSum (numbers : List Float32) : ℕ∞ :=
  ((numbers.map nearestCount).map (min · (wordLimit : ℕ∞))).sum

/-! ## Numbers of parts -/

namespace ComponentKind

/-- How many components of a kind there are; for a kind that selects a single one, how many it
selects from. -/
def number (flat : Bool) : ComponentKind → ℕ
  | faces | face => 6
  | edges | edge => if flat then 4 else 12
  | vertices | vertex => if flat then 4 else 8
  | sideFaces | sideFace | bottomEdges | sideEdges | topEdges => 4

variable {α : Type} [Scalar α] [Trigonometry α]

theorem length_components (p : OrientedBox α) (kind : ComponentKind) :
    (kind.components p).length = kind.number p.isFlat := by
  unfold components number
  cases kind with
  | edges | edge | vertices | vertex => cases p.isFlat <;> rfl
  | _ => rfl

theorem number_le (flat : Bool) (kind : ComponentKind) : kind.number flat ≤ 12 := by
  cases flat <;> cases kind <;> decide

theorem length_components_lt (p : OrientedBox α) (kind : ComponentKind) :
    (kind.components p).length < wordLimit := by
  rw [length_components]
  exact (kind.number_le p.isFlat).trans_lt (by decide)

end ComponentKind

namespace Operation

theorem count_eq_min (a : Float32) : (count a : ℕ∞) = min (nearestCount a) wordLimit :=
  whole_max_round a

/-- A count below the largest word was not cut off there. -/
theorem nearestCount_eq_count {a : Float32} (h : count a < wordLimit) :
    nearestCount a = count a := by
  have hcount := count_eq_min a
  obtain hmin | hmin := min_choice (nearestCount a) wordLimit
  · exact (hcount.trans hmin).symm
  · rw [hmin, Nat.cast_inj] at hcount
    omega

theorem sum_counts (numbers : List Float32) :
    ((numbers.map count).sum : ℕ∞) = wordSum numbers := by
  unfold wordSum
  rw [Nat.cast_list_sum, List.map_map, List.map_map]
  congr 1
  exact List.map_congr_left fun a _ => count_eq_min a

/-! ## What is done with the counts -/

section

variable {α : Type} [Scalar α] [Trigonometry α] {kind : ComponentKind}
  {parameters : List (Value α)} {symbols : List String} {d : Derivation α} {target : Shape α}
  {numbers : List α} {stream : RandomStream}

/-- A split hands out its parts by counts: its kind is one of several parts that the target has, and
there is a count for each symbol. -/
structure Groups (kind : ComponentKind) (parameters : List (Value α)) (symbols : List String)
    (target : Shape α) : Prop where
  several : kind.isSingle = false
  depth : (kind.needsDepth && target.box.isFlat) = false
  nonempty : parameters ≠ []
  symbols : parameters.length = symbols.length

theorem runComponent_eq (h : Groups kind parameters symbols target) :
    runComponent kind parameters symbols d target =
      Effect.withValues d target parameters fun d numbers =>
        let counts := numbers.map count
        let parts := kind.components target.box
        if wordLimit < counts.sum then .abort d target .overflow
        else if counts.sum ≠ parts.length then
          .refuse d target (.groupCountMismatch counts.sum parts.length)
        else .done (spawnGroups target parts (symbols.zip counts) d) target := by
  have hempty : ¬ parameters.isEmpty = true := by simpa using h.nonempty
  unfold runComponent
  rw [if_neg (Bool.eq_false_iff.1 h.depth)]
  simp only [if_neg (Bool.eq_false_iff.1 h.several), if_neg hempty, if_neg (not_not.2 h.symbols),
    List.sum_eq_foldl]

/-- The shapes that a split enters hand out its parts. -/
theorem runComponent_of_groups (h : Groups kind parameters symbols target)
    (hvalues : Value.computeAll d.currentScope parameters d.stream = .ok (numbers, stream)) :
    runComponent kind parameters symbols d target =
      let counts := numbers.map count
      let parts := kind.components target.box
      if wordLimit < counts.sum then .abort { d with stream } target .overflow
      else if counts.sum ≠ parts.length then
        .refuse { d with stream } target (.groupCountMismatch counts.sum parts.length)
      else
        .done (({ d with stream }).spawnAll
          (List.zipWith target.child (labels (symbols.zip counts)) parts)) target := by
  have hlength : (numbers.map count).length ≤ symbols.length := by
    rw [List.length_map, length_computeAll hvalues, h.symbols]
  have hcounts : (symbols.zip (numbers.map count)).map (·.2) = numbers.map count :=
    List.map_snd_zip hlength
  rw [runComponent_eq h, Effect.withValues, hvalues]
  simp only
  split_ifs with hword htotal
  · rfl
  · rfl
  · rw [spawnGroups_eq target (by rw [hcounts, not_not.1 htotal])]

end

section

variable [Trigonometry Float32] {kind : ComponentKind} {parameters : List (Value Float32)}
  {symbols : List String} {d : Derivation Float32} {target : Shape Float32}
  {numbers : List Float32} {stream : RandomStream}

theorem sum_counts_eq_iff (numbers : List Float32) (p : OrientedBox Float32)
    (kind : ComponentKind) :
    (numbers.map count).sum = (kind.components p).length ↔
      (numbers.map nearestCount).sum = (kind.components p).length := by
  have hlimit : (((kind.components p).length : ℕ) : ℕ∞) < (wordLimit : ℕ) :=
    Nat.cast_lt.2 (kind.length_components_lt p)
  rw [← sum_min_eq_iff hlimit, ← Nat.cast_inj (R := ℕ∞), sum_counts]
  rfl

/-- A split that hands out its parts and comes to its end has a count for each part. -/
theorem exists_counts_of_stop (h : Groups kind parameters symbols target)
    (hstop : (runComponent kind parameters symbols d target).stop = none) :
    ∃ numbers stream,
      Value.computeAll d.currentScope parameters d.stream = .ok (numbers, stream) ∧
      (numbers.map count).sum = (kind.components target.box).length ∧
      runComponent kind parameters symbols d target =
        .done (({ d with stream }).spawnAll (List.zipWith target.child
          (labels (symbols.zip (numbers.map count))) (kind.components target.box))) target := by
  rw [runComponent_eq h] at hstop
  obtain ⟨numbers, stream, hvalues, -⟩ := Effect.exists_of_withValues hstop
  rw [← runComponent_eq h, runComponent_of_groups h hvalues] at hstop
  refine ⟨numbers, stream, hvalues, ?_⟩
  rw [runComponent_of_groups h hvalues]
  simp only at hstop ⊢
  split_ifs at hstop ⊢ with hword htotal
  · cases hstop
  · cases hstop
  · exact ⟨not_not.1 htotal, rfl⟩

/-- A split that hands out its parts goes ahead exactly when the nearest counts add up to the number
of parts. Otherwise it refuses, and names both numbers; but it fails when the counts, each cut off
to the largest word, do not add up to a word. -/
theorem component_groups_iff (h : Groups kind parameters symbols target)
    (hvalues : Value.computeAll d.currentScope parameters d.stream = .ok (numbers, stream)) :
    let e := (component kind parameters symbols).run d target
    let parts := (kind.components target.box).length
    (e.stop = none ↔ (numbers.map nearestCount).sum = parts) ∧
      (∀ error, e.stop = some (.refused error) ↔
        (numbers.map nearestCount).sum ≠ parts ∧
          ∃ sum : ℕ, sum = wordSum numbers ∧ sum ≤ wordLimit ∧
            error = .groupCountMismatch sum parts) ∧
      ∀ fault, e.stop = some (.fault fault) ↔
        (wordLimit : ℕ∞) < wordSum numbers ∧ fault = .overflow := by
  intro e parts
  have hrun : e = _ := runComponent_of_groups h hvalues
  have hsum := sum_counts_eq_iff numbers target.box kind
  have hlimit : parts < wordLimit := kind.length_components_lt target.box
  rw [hrun]
  simp only [ne_eq, parts, ← hsum, ← sum_counts, Nat.cast_inj, Nat.cast_lt]
  generalize (numbers.map count).sum = total
  split_ifs with hoverflow htotal
  · refine ⟨iff_of_false nofun (by omega), fun error => iff_of_false nofun ?_, fun fault => ?_⟩
    · rintro ⟨-, sum, rfl, hle, -⟩
      exact absurd hle (not_le.2 hoverflow)
    · exact ⟨fun hstop => ⟨hoverflow, by cases hstop; rfl⟩, by rintro ⟨-, rfl⟩; rfl⟩
  · exact ⟨iff_of_true rfl htotal,
      fun error => iff_of_false nofun fun hrefused => hrefused.1 htotal,
      fun fault => iff_of_false nofun fun hfault => hoverflow hfault.1⟩
  · refine ⟨iff_of_false nofun htotal, fun error => ?_,
      fun fault => iff_of_false nofun fun hfault => hoverflow hfault.1⟩
    constructor
    · intro hstop
      cases hstop
      exact ⟨htotal, total, rfl, not_lt.1 hoverflow, rfl⟩
    · rintro ⟨-, sum, rfl, -, rfl⟩
      rfl

end

/-- A box with depth. -/
def crate : Shape Float32 := .ofBox (some "crate") ⟨⟨⟨0, 0, 0⟩, ⟨4, 3, 2⟩⟩, ⟨0, 0, 0⟩⟩

theorem groups_crate {a b : Value Float32} : Groups .faces [a, b] ["A", "B"] crate :=
  ⟨rfl, by decide +kernel, nofun, rfl⟩

/-- Four faces of a crate and two more. -/
theorem component_groups_iff_crate :
    Groups .faces [.number false 4, .number false 2] ["A", "B"] crate ∧
      ((component .faces [.number false 4, .number false 2] ["A", "B"]).run
        (.ofSeed 0) crate).stop = none :=
  ⟨groups_crate, (component_groups_iff groups_crate rfl).1.2
    ((sum_counts_eq_iff [4, 2] crate.box .faces).1
      (by rw [ComponentKind.length_components]; decide +kernel))⟩

/-- An infinite number of faces and one more are not refused, although a crate has six. -/
theorem component_groups_infinite :
    ((component .faces [.number false (Float32.ofBits 0x7f800000), .number false 1]
        ["A", "B"]).run (.ofSeed 0) crate).stop = some (.fault .overflow) ∧
      ([Float32.ofBits 0x7f800000, 1].map nearestCount).sum ≠
        (ComponentKind.faces.components crate.box).length := by
  constructor
  · change (runComponent _ _ _ _ _).stop = _
    rw [runComponent_of_groups groups_crate rfl]
    simp only
    rw [if_pos (by decide +kernel)]
    rfl
  · rw [ne_eq, ← sum_counts_eq_iff, ComponentKind.length_components]
    decide +kernel

end Operation

end Cityscape.Grammar
