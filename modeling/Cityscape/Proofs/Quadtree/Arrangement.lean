import Cityscape.Proofs.Quadtree.Refinement
import Mathlib.Tactic.MkIffOfInductiveProp

/-!
# How a quadtree is arranged

A bucket is divided as soon as it has more items than the capacity, but not below the greatest
depth, and each of its items goes to the first quarter that holds it, or stays if none does. The
removal of an item neither joins quarters nor divides a bucket. So every node stays within the
greatest depth, only the deepest buckets can have too many items, and every item lies in the
rectangles on the way to its bucket. What the rectangles of quarters are rounded to plays no part in
this.

## Main definitions

* `Quadtree.Node.Leads` — the ways down from a node.
* `Quadtree.Node.Arranged`, `Quadtree.Arranged` — depth, sizes of buckets and places of items.
* `Quadtree.Node.Inserts` — an insertion that comes to its end.

## Main statements

* `Quadtree.Node.Arranged.insert`, `Quadtree.Node.Arranged.erase?` — single changes.
* `Quadtree.Node.Arranged.inserts` — an insertion into a node that is arranged comes to its end.
* `Quadtree.changeAll_arranged` — a tree stays arranged, whatever it is asked for.
-/

namespace Cityscape.Quadtree

namespace Node

variable {α β : Type}

/-! ## Ways down -/

/-- The quarters of a node; a bucket that was not divided has none. -/
def quarters : Node α β → List (Node α β)
  | leaf .. => []
  | branch _ _ sw se nw ne => [sw, se, nw, ne]

/-- A way down from a node to another one, given by the nodes on it after the first. -/
inductive Leads : Node α β → List (Node α β) → Node α β → Prop
  | here (node : Node α β) : Leads node [] node
  | down {node quarter target : Node α β} {path : List (Node α β)} (h : quarter ∈ node.quarters)
    (rest : Leads quarter path target) : Leads node (quarter :: path) target

theorem forall_mem_quarters {bounds : Rect α} {bucket : Array β} {sw se nw ne : Node α β}
    {p : Node α β → Prop} : (∀ quarter ∈ (branch bounds bucket sw se nw ne).quarters, p quarter) ↔
      p sw ∧ p se ∧ p nw ∧ p ne := by
  simp [quarters]

/-- What holds of a node if it holds of its quarters holds of all nodes. -/
theorem induction_quarters {p : Node α β → Prop}
    (step : ∀ node : Node α β, (∀ quarter ∈ node.quarters, p quarter) → p node)
    (node : Node α β) : p node := by
  induction node with
  | leaf => exact step _ nofun
  | branch _ _ _ _ _ _ hsw hse hnw hne =>
    exact step _ (forall_mem_quarters.2 ⟨hsw, hse, hnw, hne⟩)

theorem mem_items_iff_quarters {node : Node α β} {x : β} :
    x ∈ node.items ↔ x ∈ node.bucket ∨ ∃ quarter ∈ node.quarters, x ∈ quarter.items := by
  cases node <;> simp [items, bucket, quarters]

/-- The items of a node are those in the buckets to which it leads. -/
theorem mem_items_iff {node : Node α β} {x : β} :
    x ∈ node.items ↔ ∃ path target, node.Leads path target ∧ x ∈ target.bucket := by
  induction node using induction_quarters with
  | step node ih =>
    rw [mem_items_iff_quarters]
    constructor
    · rintro (hx | ⟨quarter, hquarter, hx⟩)
      · exact ⟨[], node, .here node, hx⟩
      · obtain ⟨path, target, hleads, hx⟩ := (ih quarter hquarter).1 hx
        exact ⟨quarter :: path, target, .down hquarter hleads, hx⟩
    · rintro ⟨path, target, _ | ⟨hquarter, hleads⟩, hx⟩
      · exact .inl hx
      · exact .inr ⟨_, hquarter, (ih _ hquarter).2 ⟨_, target, hleads, hx⟩⟩

/-! ## Nodes that are arranged -/

variable [Scalar α] [Positioned α β]

/-- Nothing lies deeper below a node than some number of levels; a bucket that was not divided has
no more items than the capacity, unless it lies as deep as that; an item lies in the rectangles of
all nodes on the way to its bucket; and an item in the bucket of a divided node lies in no quarter
of it. -/
structure Arranged (capacity levels : ℕ) (node : Node α β) : Prop where
  depth {path : List (Node α β)} {target : Node α β} : node.Leads path target →
    path.length ≤ levels
  room {path : List (Node α β)} {target : Node α β} : node.Leads path target →
    target.quarters = [] → path.length < levels → target.bucket.size ≤ capacity
  held {path : List (Node α β)} {target : Node α β} : node.Leads path target →
    ∀ x ∈ target.bucket, ∀ quarter ∈ path, quarter.bounds.Holds (Positioned.position x)
  kept {path : List (Node α β)} {target : Node α β} : node.Leads path target →
    ∀ x ∈ target.bucket, ∀ quarter ∈ target.quarters,
      ¬ quarter.bounds.Holds (Positioned.position x)

variable {capacity levels depth : ℕ} {node rest : Node α β} {item : β} {bounds : Rect α}
  {items : Array β} {sw se nw ne : Node α β}

/-- A node is arranged if its own bucket is, its quarters are, and they hold their items. -/
theorem arranged_iff : node.Arranged capacity levels ↔
    (node.quarters = [] → 0 < levels → node.bucket.size ≤ capacity) ∧
      (∀ x ∈ node.bucket, ∀ quarter ∈ node.quarters,
        ¬ quarter.bounds.Holds (Positioned.position x)) ∧
      ∀ quarter ∈ node.quarters, 0 < levels ∧
        (∀ x ∈ quarter.items, quarter.bounds.Holds (Positioned.position x)) ∧
          quarter.Arranged capacity (levels - 1) := by
  constructor
  · intro h
    refine ⟨h.room (.here node), h.kept (.here node), fun quarter hquarter => ?_⟩
    have hlevels : 1 ≤ levels := h.depth (.down hquarter (.here quarter))
    refine ⟨hlevels, fun x hx => ?_, ?_, ?_, ?_, ?_⟩
    · obtain ⟨path, target, hleads, hx⟩ := mem_items_iff.1 hx
      exact h.held (.down hquarter hleads) x hx quarter List.mem_cons_self
    · intro path target hleads
      exact Nat.le_sub_one_of_lt (h.depth (.down hquarter hleads))
    · intro path target hleads hbucket hpath
      refine h.room (.down hquarter hleads) hbucket ?_
      rw [List.length_cons]
      omega
    · intro path target hleads x hx q hq
      exact h.held (.down hquarter hleads) x hx q (List.mem_cons_of_mem quarter hq)
    · intro path target hleads
      exact h.kept (.down hquarter hleads)
  · rintro ⟨hroom, hkept, hquarters⟩
    refine ⟨?_, ?_, ?_, ?_⟩
    · rintro path target (_ | ⟨hquarter, hleads⟩)
      · exact Nat.zero_le levels
      · obtain ⟨hlevels, -, harranged⟩ := hquarters _ hquarter
        have hdepth := harranged.depth hleads
        rw [List.length_cons]
        omega
    · rintro path target (_ | ⟨hquarter, hleads⟩) hbucket hpath
      · exact hroom hbucket hpath
      · exact (hquarters _ hquarter).2.2.room hleads hbucket (Nat.lt_sub_of_add_lt hpath)
    · rintro path target (_ | ⟨hquarter, hleads⟩) x hx q hq
      · cases hq
      · obtain ⟨-, hholds, harranged⟩ := hquarters _ hquarter
        obtain rfl | hq := List.mem_cons.1 hq
        · exact hholds x (mem_items_iff.2 ⟨_, target, hleads, hx⟩)
        · exact harranged.held hleads x hx q hq
    · rintro path target (_ | ⟨hquarter, hleads⟩)
      · exact hkept
      · exact (hquarters _ hquarter).2.2.kept hleads

theorem arranged_leaf_iff : (leaf bounds items).Arranged capacity levels ↔
    (0 < levels → items.size ≤ capacity) := by
  rw [arranged_iff]
  simp [quarters, bucket]

/-- A quarter is arranged and holds its items. -/
@[mk_iff] structure Settled (capacity levels : ℕ) (quarter : Node α β) : Prop where
  holds : ∀ x ∈ quarter.items, quarter.bounds.Holds (Positioned.position x)
  arranged : quarter.Arranged capacity levels

theorem arranged_branch_iff : (branch bounds items sw se nw ne).Arranged capacity (levels + 1) ↔
    (∀ x ∈ items, ∀ quarter ∈ [sw, se, nw, ne],
      ¬ quarter.bounds.Holds (Positioned.position x)) ∧
      ∀ quarter ∈ [sw, se, nw, ne], quarter.Settled capacity levels := by
  rw [arranged_iff]
  simp [quarters, bucket, settled_iff]

theorem Arranged.exists_levels (h : (branch bounds items sw se nw ne).Arranged capacity levels) :
    ∃ below, levels = below + 1 := by
  have hsw : sw ∈ (branch bounds items sw se nw ne).quarters := List.mem_cons_self
  exact Nat.exists_eq_add_one.2 (h.depth (.down hsw (.here sw)))

/-- A quarter can give way to another one over the same rectangle, if that is settled too. -/
structure GivesWay (capacity levels : ℕ) (quarter quarter' : Node α β) : Prop where
  bounds : quarter'.bounds = quarter.bounds
  settled : quarter.Settled capacity levels → quarter'.Settled capacity levels

theorem GivesWay.refl (quarter : Node α β) : quarter.GivesWay capacity levels quarter := ⟨rfl, id⟩

theorem Arranged.giveWay {sw' se' nw' ne' : Node α β}
    (h : (branch bounds items sw se nw ne).Arranged capacity (levels + 1))
    (hsw : sw.GivesWay capacity levels sw') (hse : se.GivesWay capacity levels se')
    (hnw : nw.GivesWay capacity levels nw') (hne : ne.GivesWay capacity levels ne') :
    (branch bounds items sw' se' nw' ne').Arranged capacity (levels + 1) := by
  obtain ⟨hkept, hsettled⟩ := arranged_branch_iff.1 h
  refine arranged_branch_iff.2 ?_
  simp only [List.forall_mem_cons, hsw.bounds, hse.bounds, hnw.bounds, hne.bounds] at *
  obtain ⟨hsw', hse', hnw', hne', -⟩ := hsettled
  exact ⟨hkept, hsw.settled hsw', hse.settled hse', hnw.settled hnw', hne.settled hne', nofun⟩

/-! ## Insertion -/

omit [Positioned α β] in
/-- A position is led to no quarter only if no quarter holds it. -/
theorem route_eq_none_iff {p : Vec2 α} :
    route sw se nw ne p = none ↔ ∀ quarter ∈ [sw, se, nw, ne], ¬ quarter.bounds.Holds p := by
  unfold route
  split_ifs <;> simp [*]

theorem arranged_divided (capacity levels : ℕ) (bounds : Rect α) :
    (divided bounds : Node α β).Arranged capacity (levels + 1) := by
  refine arranged_branch_iff.2 ⟨by simp, ?_⟩
  simp [settled_iff, Node.items, arranged_leaf_iff]

section

variable {add : Node α β → β → Node α β}

theorem Adds.givesWay (hadds : Adds add)
    (harranged : ∀ {node : Node α β} item, node.Arranged capacity levels →
      (add node item).Arranged capacity levels)
    (hitem : node.bounds.Holds (Positioned.position item)) :
    node.GivesWay capacity levels (add node item) := by
  refine ⟨hadds.bounds node item, fun h => ⟨fun x hx => ?_, harranged item h.arranged⟩⟩
  rw [hadds.bounds]
  obtain rfl | hx := List.mem_cons.1 ((hadds.items node item).mem_iff.1 hx)
  · exact hitem
  · exact h.holds x hx

/-- An item of a divided node is handed on to a quarter that holds it, or stays outside of all. -/
theorem Arranged.hand (hadds : Adds add)
    (harranged : ∀ {node : Node α β} item, node.Arranged capacity levels →
      (add node item).Arranged capacity levels)
    (h : node.Arranged capacity (levels + 1)) (hdivided : node.quarters ≠ []) (item : β) :
    (hand add node item).Arranged capacity (levels + 1) ∧ (hand add node item).quarters ≠ [] := by
  cases node with
  | leaf => exact absurd rfl hdivided
  | branch bounds items sw se nw ne =>
    simp only [Node.hand]
    split
    next hroute =>
      have hsw := hadds.givesWay harranged (bounds_holds_of_route hroute)
      exact ⟨h.giveWay hsw (.refl se) (.refl nw) (.refl ne), by simp [quarters]⟩
    next hroute =>
      have hse := hadds.givesWay harranged (bounds_holds_of_route hroute)
      exact ⟨h.giveWay (.refl sw) hse (.refl nw) (.refl ne), by simp [quarters]⟩
    next hroute =>
      have hnw := hadds.givesWay harranged (bounds_holds_of_route hroute)
      exact ⟨h.giveWay (.refl sw) (.refl se) hnw (.refl ne), by simp [quarters]⟩
    next hroute =>
      have hne := hadds.givesWay harranged (bounds_holds_of_route hroute)
      exact ⟨h.giveWay (.refl sw) (.refl se) (.refl nw) hne, by simp [quarters]⟩
    next hroute =>
      obtain ⟨hkept, hsettled⟩ := arranged_branch_iff.1 h
      refine ⟨arranged_branch_iff.2 ⟨fun x hx => ?_, hsettled⟩, by simp [quarters]⟩
      obtain hx | rfl := Array.mem_push.1 hx
      · exact hkept x hx
      · exact route_eq_none_iff.1 hroute

theorem Arranged.foldl_hand (hadds : Adds add)
    (harranged : ∀ {node : Node α β} item, node.Arranged capacity levels →
      (add node item).Arranged capacity levels)
    (h : node.Arranged capacity (levels + 1)) (hdivided : node.quarters ≠ []) (l : List β) :
    (l.foldl (Node.hand add) node).Arranged capacity (levels + 1) := by
  induction l generalizing node with
  | nil => exact h
  | cons item l ih =>
    obtain ⟨hnext, hdivided⟩ := h.hand hadds harranged hdivided item
    exact ih hnext hdivided

end

theorem Arranged.insert (h : node.Arranged capacity levels) (item : β) :
    (insert capacity levels node item).Arranged capacity levels := by
  induction levels generalizing node item with
  | zero =>
    cases node with
    | leaf => exact arranged_leaf_iff.2 fun hlevels => absurd hlevels (Nat.lt_irrefl 0)
    | branch =>
      obtain ⟨below, hbelow⟩ := h.exists_levels
      cases hbelow
  | succ levels ih =>
    have hadds : Adds (insert capacity levels : Node α β → β → Node α β) := .insert capacity levels
    cases node with
    | leaf bounds items =>
      simp only [Node.insert]
      split
      · rw [← Array.foldl_toList]
        exact (arranged_divided capacity levels bounds).foldl_hand hadds (fun item h => ih h item)
          (by simp [divided, quarters]) _
      next hroom => exact arranged_leaf_iff.2 fun _ => Nat.not_lt.1 hroom
    | branch =>
      exact (h.hand hadds (fun item h => ih h item) (by simp [quarters]) item).1

/-! ## Removal -/

section

variable [BEq β]

omit [Scalar α] [Positioned α β] in
theorem mem_of_eraseFrom {items rest : Array β} {x : β} (h : eraseFrom items item = some rest)
    (hx : x ∈ rest) : x ∈ items := by
  obtain ⟨removed, -, hperm⟩ := items_of_eraseFrom h
  exact Array.mem_toList_iff.1 (hperm.mem_iff.2 (List.mem_cons_of_mem removed hx.val))

theorem givesWay_of_erase? (herase : node.erase? item = some rest)
    (harranged : node.Arranged capacity levels → rest.Arranged capacity levels) :
    node.GivesWay capacity levels rest := by
  refine ⟨bounds_of_erase? herase, fun h => ⟨fun x hx => ?_, harranged h.arranged⟩⟩
  rw [bounds_of_erase? herase]
  exact h.holds x (mem_of_erase? herase hx)

theorem Arranged.erase? (h : node.Arranged capacity levels)
    (herase : node.erase? item = some rest) : rest.Arranged capacity levels := by
  induction node generalizing levels rest with
  | leaf bounds items =>
    obtain ⟨bucket, hbucket, rfl⟩ := Option.map_eq_some_iff.1 herase
    obtain ⟨removed, -, hperm⟩ := items_of_eraseFrom hbucket
    have hsize : items.size = bucket.size + 1 := hperm.length_eq
    refine arranged_leaf_iff.2 fun hlevels => ?_
    have hroom := arranged_leaf_iff.1 h hlevels
    omega
  | branch bounds items sw se nw ne ihsw ihse ihnw ihne =>
    obtain ⟨below, rfl⟩ := h.exists_levels
    simp only [Node.erase?] at herase
    split at herase
    next bucket hbucket =>
      cases herase
      obtain ⟨hkept, hsettled⟩ := arranged_branch_iff.1 h
      exact arranged_branch_iff.2 ⟨fun x hx => hkept x (mem_of_eraseFrom hbucket hx), hsettled⟩
    split at herase
    · obtain ⟨quarter, hquarter, rfl⟩ := Option.map_eq_some_iff.1 herase
      have hsw : sw.GivesWay capacity below quarter :=
        givesWay_of_erase? hquarter fun h => ihsw h hquarter
      exact h.giveWay hsw (.refl se) (.refl nw) (.refl ne)
    · obtain ⟨quarter, hquarter, rfl⟩ := Option.map_eq_some_iff.1 herase
      have hse : se.GivesWay capacity below quarter :=
        givesWay_of_erase? hquarter fun h => ihse h hquarter
      exact h.giveWay (.refl sw) hse (.refl nw) (.refl ne)
    · obtain ⟨quarter, hquarter, rfl⟩ := Option.map_eq_some_iff.1 herase
      have hnw : nw.GivesWay capacity below quarter :=
        givesWay_of_erase? hquarter fun h => ihnw h hquarter
      exact h.giveWay (.refl sw) (.refl se) hnw (.refl ne)
    · obtain ⟨quarter, hquarter, rfl⟩ := Option.map_eq_some_iff.1 herase
      have hne : ne.GivesWay capacity below quarter :=
        givesWay_of_erase? hquarter fun h => ihne h hquarter
      exact h.giveWay (.refl sw) (.refl se) (.refl nw) hne
    · cases herase

end

/-! ## Insertions that come to an end -/

mutual

/-- Inserting an item into a node at some depth comes to an end and leaves a node. The recursion is
not bounded by anything but the depth at which buckets are not divided. -/
inductive Inserts (capacity : ℕ) : ℕ → Node α β → β → Node α β → Prop
  | store {depth : ℕ} {bounds : Rect α} {items : Array β} {item : β}
    (h : (items.push item).size ≤ capacity ∨ greatestDepth ≤ depth) :
    Inserts capacity depth (leaf bounds items) item (leaf bounds (items.push item))
  | divide {depth : ℕ} {bounds : Rect α} {items : Array β} {item : β} {node : Node α β}
    (full : capacity < (items.push item).size) (above : depth < greatestDepth)
    (shared : HandsAll capacity depth (divided bounds) (items.push item).toList node) :
    Inserts capacity depth (leaf bounds items) item node
  | pass {depth : ℕ} {bounds : Rect α} {items : Array β} {sw se nw ne node : Node α β} {item : β}
    (h : Hands capacity depth (branch bounds items sw se nw ne) item node) :
    Inserts capacity depth (branch bounds items sw se nw ne) item node

/-- Handing an item of a divided node on to the quarter that its position leads to comes to an
end. -/
inductive Hands (capacity : ℕ) : ℕ → Node α β → β → Node α β → Prop
  | keep {depth : ℕ} {bounds : Rect α} {items : Array β} {sw se nw ne : Node α β} {item : β}
    (way : route sw se nw ne (Positioned.position item) = none) :
    Hands capacity depth (branch bounds items sw se nw ne) item
      (branch bounds (items.push item) sw se nw ne)
  | sw {depth : ℕ} {bounds : Rect α} {items : Array β} {sw se nw ne quarter : Node α β} {item : β}
    (way : route sw se nw ne (Positioned.position item) = some .sw)
    (h : Inserts capacity (depth + 1) sw item quarter) :
    Hands capacity depth (branch bounds items sw se nw ne) item
      (branch bounds items quarter se nw ne)
  | se {depth : ℕ} {bounds : Rect α} {items : Array β} {sw se nw ne quarter : Node α β} {item : β}
    (way : route sw se nw ne (Positioned.position item) = some .se)
    (h : Inserts capacity (depth + 1) se item quarter) :
    Hands capacity depth (branch bounds items sw se nw ne) item
      (branch bounds items sw quarter nw ne)
  | nw {depth : ℕ} {bounds : Rect α} {items : Array β} {sw se nw ne quarter : Node α β} {item : β}
    (way : route sw se nw ne (Positioned.position item) = some .nw)
    (h : Inserts capacity (depth + 1) nw item quarter) :
    Hands capacity depth (branch bounds items sw se nw ne) item
      (branch bounds items sw se quarter ne)
  | ne {depth : ℕ} {bounds : Rect α} {items : Array β} {sw se nw ne quarter : Node α β} {item : β}
    (way : route sw se nw ne (Positioned.position item) = some .ne)
    (h : Inserts capacity (depth + 1) ne item quarter) :
    Hands capacity depth (branch bounds items sw se nw ne) item
      (branch bounds items sw se nw quarter)

/-- Handing on items of a divided node, one after the other, comes to an end. -/
inductive HandsAll (capacity : ℕ) : ℕ → Node α β → List β → Node α β → Prop
  | nil {depth : ℕ} {node : Node α β} : HandsAll capacity depth node [] node
  | cons {depth : ℕ} {node node' node'' : Node α β} {item : β} {l : List β}
    (head : Hands capacity depth node item node') (tail : HandsAll capacity depth node' l node'') :
    HandsAll capacity depth node (item :: l) node''

end

section

variable {add : Node α β → β → Node α β}

theorem Arranged.hands (h : node.Arranged capacity (levels + 1)) (hdivided : node.quarters ≠ [])
    (hinserts : ∀ (quarter : Node α β) item, quarter.Arranged capacity levels →
      quarter.Inserts capacity (depth + 1) item (add quarter item)) (item : β) :
    node.Hands capacity depth item (Node.hand add node item) := by
  cases node with
  | leaf => exact absurd rfl hdivided
  | branch bounds items sw se nw ne =>
    obtain ⟨-, hsettled⟩ := arranged_branch_iff.1 h
    simp only [List.forall_mem_cons] at hsettled
    obtain ⟨hsw, hse, hnw, hne, -⟩ := hsettled
    simp only [Node.hand]
    split
    next hway => exact .sw hway (hinserts sw item hsw.arranged)
    next hway => exact .se hway (hinserts se item hse.arranged)
    next hway => exact .nw hway (hinserts nw item hnw.arranged)
    next hway => exact .ne hway (hinserts ne item hne.arranged)
    next hway => exact .keep hway

theorem Arranged.handsAll (hadds : Adds add)
    (harranged : ∀ {node : Node α β} item, node.Arranged capacity levels →
      (add node item).Arranged capacity levels)
    (h : node.Arranged capacity (levels + 1)) (hdivided : node.quarters ≠ [])
    (hinserts : ∀ (quarter : Node α β) item, quarter.Arranged capacity levels →
      quarter.Inserts capacity (depth + 1) item (add quarter item)) (l : List β) :
    node.HandsAll capacity depth l (l.foldl (Node.hand add) node) := by
  induction l generalizing node with
  | nil => exact .nil
  | cons item l ih =>
    obtain ⟨hnext, hdivided'⟩ := h.hand hadds harranged hdivided item
    exact .cons (h.hands hdivided hinserts item) (ih hnext hdivided')

end

/-- The depth at which buckets are not divided ends every insertion, however many items lie at one
point. -/
theorem Arranged.inserts (h : node.Arranged capacity levels)
    (hdepth : depth + levels = greatestDepth) (item : β) :
    node.Inserts capacity depth item (Node.insert capacity levels node item) := by
  induction levels generalizing depth node item with
  | zero =>
    cases node with
    | leaf => exact .store (.inr hdepth.ge)
    | branch =>
      obtain ⟨below, hbelow⟩ := h.exists_levels
      cases hbelow
  | succ levels ih =>
    have hadds : Adds (Node.insert capacity levels : Node α β → β → Node α β) :=
      .insert capacity levels
    have hinserts (quarter : Node α β) (item : β) (hquarter : quarter.Arranged capacity levels) :
        quarter.Inserts capacity (depth + 1) item (Node.insert capacity levels quarter item) :=
      ih hquarter (by omega) item
    cases node with
    | leaf bounds items =>
      simp only [Node.insert]
      split
      next hfull =>
        rw [← Array.foldl_toList]
        exact .divide hfull (by omega) ((arranged_divided capacity levels bounds).handsAll hadds
          (fun item h => h.insert item) (by simp [divided, quarters]) hinserts _)
      next hroom => exact .store (.inl (Nat.not_lt.1 hroom))
    | branch => exact .pass (h.hands (by simp [quarters]) hinserts item)

end Node

/-! ## Trees -/

variable {α β : Type} [Scalar α] [Positioned α β]

/-- A tree whose buckets can hold an item is arranged down to the greatest depth. -/
structure Arranged (t : Quadtree α β) : Prop where
  capacity : 1 ≤ t.capacity
  root : t.root.Arranged t.capacity greatestDepth

variable {t rest : Quadtree α β}

theorem arranged_empty (capacity : ℕ) (bounds : Rect α) :
    (empty capacity bounds : Quadtree α β).Arranged :=
  ⟨Nat.le_max_right capacity 1, Node.arranged_leaf_iff.2 fun _ => Nat.zero_le _⟩

theorem Arranged.insert (h : t.Arranged) (item : β) : (t.insert item).Arranged :=
  ⟨h.capacity, h.root.insert item⟩

theorem Arranged.clear (h : t.Arranged) : t.clear.Arranged :=
  ⟨h.capacity, Node.arranged_leaf_iff.2 fun _ => Nat.zero_le _⟩

variable [BEq β]

theorem Arranged.erase (h : t.Arranged) (item : β) : (t.erase item).Arranged := by
  unfold Quadtree.erase
  cases herase : t.erase? item with
  | none => exact h
  | some rest =>
    obtain ⟨root, hroot, rfl⟩ := Option.map_eq_some_iff.1 herase
    exact ⟨h.capacity, h.root.erase? hroot⟩

theorem Arranged.change (h : t.Arranged) (c : Change β) : (t.change c).2.Arranged := by
  cases c with
  | insert item => exact h.insert item
  | erase item => exact h.erase item
  | clear => exact h.clear

theorem Arranged.changeAll (h : t.Arranged) (changes : List (Change β)) :
    (t.changeAll changes).2.Arranged := by
  induction changes generalizing t with
  | nil => exact h
  | cons c rest ih => exact ih (h.change c)

/-- A new tree is arranged, and a tree stays arranged through any changes: no node lies below the
greatest depth, a bucket above it that was not divided has no more items than the capacity, and
every item lies in the rectangles of the nodes on the way to its bucket, except that of the root,
and in no quarter of the last one. So whatever was inserted and removed before, the next insertion
comes to an end. -/
theorem changeAll_arranged :
    (∀ (capacity : ℕ) (bounds : Rect α), (empty capacity bounds : Quadtree α β).Arranged) ∧
      ∀ (t : Quadtree α β), t.Arranged → ∀ changes : List (Change β),
        (t.changeAll changes).2.Arranged ∧
          ∀ item, (t.changeAll changes).2.root.Inserts (t.changeAll changes).2.capacity 0 item
            ((t.changeAll changes).2.insert item).root := by
  refine ⟨arranged_empty, fun t h changes => ?_⟩
  have harranged := h.changeAll changes
  exact ⟨harranged, fun item => harranged.root.inserts (Nat.zero_add greatestDepth) item⟩

/-- Three entries of a road map at one point and one outside the rectangle, in buckets of one entry;
one of the three is taken away again. -/
theorem changeAll_arranged_onePoint :
    let t : Quadtree Float32 (MapItem Float32) := empty 1 ⟨⟨0, 0⟩, ⟨8, 8⟩⟩
    let changes : List (Change (MapItem Float32)) :=
      [.insert (.crossroad 0 ⟨3, 3⟩), .insert (.crossroad 1 ⟨3, 3⟩), .insert (.crossroad 2 ⟨9, 3⟩),
        .insert (.road 0 ⟨3, 3⟩), .erase (.crossroad 0 ⟨3, 3⟩)]
    let grown := (t.changeAll changes).2
    let item : MapItem Float32 := .road 1 ⟨3, 3⟩
    t.Arranged ∧ grown.Arranged ∧ grown.size = 3 ∧
      grown.root.Inserts grown.capacity 0 item (grown.insert item).root := by
  intro t changes grown item
  obtain ⟨hempty, hchanges⟩ := changeAll_arranged (α := Float32) (β := MapItem Float32)
  have ht : t.Arranged := hempty 1 ⟨⟨0, 0⟩, ⟨8, 8⟩⟩
  obtain ⟨hgrown, hinserts⟩ := hchanges t ht changes
  exact ⟨ht, hgrown, by decide +kernel, hinserts item⟩

end Cityscape.Quadtree
