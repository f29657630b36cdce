import Cityscape.Proofs.Grammar.Spawning
import Mathlib.Algebra.GroupWithZero.Nat

/-!
# Shapes for parts

An operation that takes a target apart enters one shape for each part and symbol, or hands the parts
out to the symbols. Either way the shapes come in the order of the parts, so the place of a shape in
the history tells its part and its symbol.

## Main definitions

* `Shape.copies` — one shape for each part and symbol.
* `labels` — symbols that are repeated.
* `HandsOut` — parts are handed out to symbols, a number of consecutive ones to each.

## Main statements

* `Operation.spawnParts_eq`, `Operation.spawnGroups_eq` — what is entered.
* `getElem?_copies`, `handsOut_labels` — where it comes.
-/

namespace Cityscape.Grammar

variable {α : Type}

/-! ## Lists of equally long lists -/

/-- In lists of one length that are put together, an index tells the list and the place in it. -/
theorem getElem?_flatMap_of_length {β γ : Type} {l : List β} {f : β → List γ} {n i : Nat}
    (h : ∀ b ∈ l, (f b).length = n) (hi : i < n) (k : Nat) :
    (l.flatMap f)[k * n + i]? = l[k]?.bind fun b => (f b)[i]? := by
  induction l generalizing k with
  | nil => simp
  | cons b l ih =>
    have hb : (f b).length = n := h b List.mem_cons_self
    rw [List.flatMap_cons]
    cases k with
    | zero =>
      rw [Nat.zero_mul, Nat.zero_add, List.getElem?_append_left (by omega)]
      rfl
    | succ k =>
      have hindex : (k + 1) * n + i = (f b).length + (k * n + i) := by
        rw [hb, Nat.succ_mul]
        omega
      rw [hindex, List.getElem?_append_right (by omega), Nat.add_sub_cancel_left,
        ih (fun c hc => h c (List.mem_cons_of_mem b hc))]
      rfl

theorem length_flatMap_of_length {β γ : Type} {l : List β} {f : β → List γ} {n : Nat}
    (h : ∀ b ∈ l, (f b).length = n) : (l.flatMap f).length = l.length * n := by
  rw [List.length_flatMap, List.map_congr_left h, List.map_const', List.sum_replicate_nat]

theorem length_flatMap_range {β : Type} (m n : Nat) (f : Nat → Nat → β) :
    ((List.range m).flatMap fun x => (List.range n).map (f x)).length = m * n := by
  rw [length_flatMap_of_length (n := n), List.length_range]
  intro x _
  rw [List.length_map, List.length_range]

/-! ## One shape for each part and symbol -/

namespace Shape

variable (target : Shape α) (parts : List (OrientedBox α)) (symbols : List String)

/-- The shapes derived from a target for some parts, part by part, one for each symbol. -/
def copies : List (Shape α) := parts.flatMap fun part => symbols.map (target.child · part)

theorem length_copies : (target.copies parts symbols).length = parts.length * symbols.length :=
  length_flatMap_of_length fun _ _ => List.length_map _

/-- Before the shape for a symbol and a part come those for all parts before it, and those for the
symbols before it. -/
theorem getElem?_copies {i : Nat} (hi : i < symbols.length) (k : Nat) :
    (target.copies parts symbols)[k * symbols.length + i]? =
      parts[k]?.map (target.child symbols[i]) := by
  rw [copies, getElem?_flatMap_of_length (fun _ _ => List.length_map _) hi]
  cases parts[k]? with
  | none => rfl
  | some part => simp [hi]

end Shape

/-! ## Parts that are handed out -/

/-- Symbols, each repeated as often as its count says. -/
def labels : List (String × Nat) → List String
  | [] => []
  | (symbol, count) :: groups => List.replicate count symbol ++ labels groups

theorem length_labels (groups : List (String × Nat)) :
    (labels groups).length = (groups.map (·.2)).sum := by
  induction groups with
  | nil => rfl
  | cons group groups ih => simp [labels, ih]

/-- Behind those for the groups before it come as many labels of a group as its count says. -/
theorem getElem?_labels {groups : List (String × Nat)} {i j : Nat} (hi : i < groups.length)
    (hj : j < groups[i].2) :
    (labels groups)[((groups.map (·.2)).take i).sum + j]? = some groups[i].1 := by
  induction groups generalizing i with
  | nil => cases hi
  | cons group groups ih =>
    obtain ⟨symbol, count⟩ := group
    cases i with
    | zero =>
      have hj : j < count := hj
      simp [labels, List.getElem?_append_left, hj]
    | succ i =>
      have hlabel := ih (i := i) (by simpa using hi) (by simpa using hj)
      simpa [labels, List.getElem?_append_right, Nat.add_assoc] using hlabel

/-- Some shapes derived from a target hand out parts: there is one shape for each part, in the order
of the parts, and each symbol takes as many consecutive ones as its count says, behind those that
the symbols before it take. -/
structure HandsOut (target : Shape α) (parts : List (OrientedBox α)) (symbols : List String)
    (counts : List Nat) (shapes : List (Shape α)) : Prop where
  symbols_length : symbols.length = counts.length
  total : counts.sum = parts.length
  length : shapes.length = parts.length
  group {i j : Nat} (hi : i < symbols.length) (hc : i < counts.length) : j < counts[i] →
    ∃ part, parts[(counts.take i).sum + j]? = some part ∧
      shapes[(counts.take i).sum + j]? = some (target.child symbols[i] part)

/-- Parts are handed out by labels that are put on them in order. -/
theorem handsOut_labels {target : Shape α} {parts : List (OrientedBox α)} {symbols : List String}
    {counts : List Nat} (hlength : symbols.length = counts.length)
    (htotal : counts.sum = parts.length) :
    HandsOut target parts symbols counts
      (List.zipWith target.child (labels (symbols.zip counts)) parts) := by
  have hcounts : (symbols.zip counts).map (·.2) = counts :=
    List.map_snd_zip (Nat.le_of_eq hlength.symm)
  have hlabels : (labels (symbols.zip counts)).length = parts.length := by
    rw [length_labels, hcounts, htotal]
  refine ⟨hlength, htotal, by rw [List.length_zipWith, hlabels, Nat.min_self], ?_⟩
  intro i j hi hc hj
  have hzip : i < (symbols.zip counts).length := by rw [List.length_zip]; omega
  have hlabel := getElem?_labels hzip (j := j) (by simpa using hj)
  rw [hcounts, List.getElem_zip] at hlabel
  have hk : (counts.take i).sum + j < parts.length := by
    obtain ⟨hlt, -⟩ := List.getElem?_eq_some_iff.1 hlabel
    omega
  refine ⟨parts[(counts.take i).sum + j], List.getElem?_eq_getElem hk, ?_⟩
  rw [List.getElem?_zipWith, hlabel, List.getElem?_eq_getElem hk]

/-! ## What is entered -/

/-- What computes values first and comes to its end did compute them. -/
theorem Effect.exists_of_withValues [Scalar α] [Trigonometry α] {d : Derivation α}
    {target : Shape α} {values : List (Value α)} {next : Derivation α → List α → Effect α}
    (h : (withValues d target values next).stop = none) :
    ∃ numbers stream, Value.computeAll d.currentScope values d.stream = .ok (numbers, stream) ∧
      withValues d target values next = next { d with stream } numbers := by
  unfold withValues at h ⊢
  cases hvalues : Value.computeAll d.currentScope values d.stream with
  | error fault =>
    rw [hvalues] at h
    cases h
  | ok result => exact ⟨result.1, result.2, rfl, rfl⟩

theorem zipWith_replicate {β γ δ : Type} (f : β → γ → δ) (b : β) (l : List γ) :
    List.zipWith f (List.replicate l.length b) l = l.map (f b) := by
  induction l with
  | nil => rfl
  | cons c l ih => exact congrArg (f b c :: ·) ih

namespace Operation

theorem spawnParts_eq (target : Shape α) (parts : List (OrientedBox α)) (symbols : List String)
    (d : Derivation α) :
    spawnParts target parts symbols d = d.spawnAll (target.copies parts symbols) := by
  unfold spawnParts Derivation.spawnAll Shape.copies
  rw [List.foldl_flatMap]
  congr 1
  funext d part
  exact List.foldl_map.symm

theorem spawnGroups_eq (target : Shape α) {parts : List (OrientedBox α)}
    {groups : List (String × Nat)} (h : (groups.map (·.2)).sum ≤ parts.length)
    (d : Derivation α) :
    spawnGroups target parts groups d =
      d.spawnAll (List.zipWith target.child (labels groups) parts) := by
  induction groups generalizing parts d with
  | nil => rfl
  | cons group groups ih =>
    obtain ⟨symbol, count⟩ := group
    have hcount : count + (groups.map (·.2)).sum ≤ parts.length := by simpa using h
    have htake : (parts.take count).length = count := by
      rw [List.length_take]
      omega
    have hfirst : (parts.take count).foldl (spawnChild target · symbol ·) d =
        d.spawnAll
          (List.zipWith target.child (List.replicate count symbol) (parts.take count)) := by
      have hlabels := zipWith_replicate target.child symbol (parts.take count)
      rw [htake] at hlabels
      rw [hlabels, Derivation.spawnAll, List.foldl_map]
      rfl
    have hrest : (groups.map (·.2)).sum ≤ (parts.drop count).length := by
      rw [List.length_drop]
      omega
    rw [spawnGroups, hfirst, ih hrest, ← Derivation.spawnAll_append, labels,
      ← List.zipWith_append (by rw [List.length_replicate, htake]), List.take_append_drop]

end Operation

end Cityscape.Grammar
