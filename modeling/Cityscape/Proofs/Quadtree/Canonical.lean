import Cityscape.RoadMap
import Cityscape.Scalar.Single
import Mathlib.Data.List.Induction

/-!
# The shape of a quadtree

When nothing is removed, a quadtree is determined by its items: a bucket is divided if and only if
it was given more items than its capacity, and then each item is in the quarter that its position
leads to, or stays. The moment at which a bucket is divided leaves no trace. So two trees that were
given the same items have the same shape, in whatever order the items came, and only the order
within the buckets can differ.

## Main definitions

* `Quadtree.Node.quarterOf` — the quarter of a rectangle that a position leads to.
* `Quadtree.Node.canonical` — the node of a list of items, described without insertions.
* `Quadtree.Node.Alike` — nodes of the same shape with the same items in every bucket.

## Main statements

* `Quadtree.Node.foldl_insert` — insertions into an empty bucket lead to the canonical node.
* `Quadtree.Node.Alike.query` — nodes that are alike are asked with the same result.
* `Quadtree.alike_of_perm` — the order of insertions does not matter.
-/

namespace Cityscape.Quadtree

namespace Node

variable {α β : Type}

/-! ## Nodes that are alike -/

/-- Two nodes have the same shape, and every bucket of one has the items of that of the other. -/
inductive Alike : Node α β → Node α β → Prop
  | leaf {bounds : Rect α} {bucket bucket' : Array β} (h : bucket.toList.Perm bucket'.toList) :
    Alike (leaf bounds bucket) (leaf bounds bucket')
  | branch {bounds : Rect α} {bucket bucket' : Array β} {sw se nw ne sw' se' nw' ne' : Node α β}
    (h : bucket.toList.Perm bucket'.toList) (hsw : Alike sw sw') (hse : Alike se se')
    (hnw : Alike nw nw') (hne : Alike ne ne') :
    Alike (branch bounds bucket sw se nw ne) (branch bounds bucket' sw' se' nw' ne')

theorem Alike.bounds {node node' : Node α β} (h : Alike node node') :
    node.bounds = node'.bounds := by
  cases h <;> rfl

variable [Scalar α]

/-- Queries return the same items of nodes that are alike. -/
theorem Alike.query {node node' : Node α β} (h : Alike node node') (area : Rect α) :
    (node.query area).Perm (node'.query area) := by
  induction h with
  | leaf h => exact h
  | branch h hsw hse hnw hne ihsw ihse ihnw ihne =>
    have part {quarter quarter' : Node α β} (hquarter : Alike quarter quarter')
        (ih : (quarter.query area).Perm (quarter'.query area)) :
        (if quarter.bounds.Touches area then quarter.query area else []).Perm
          (if quarter'.bounds.Touches area then quarter'.query area else []) := by
      rw [hquarter.bounds]
      split
      · exact ih
      · exact .refl []
    exact (((h.append (part hsw ihsw)).append (part hse ihse)).append (part hnw ihnw)).append
      (part hne ihne)

/-! ## The node of some items -/

/-- The quarter of a rectangle that a position leads to. -/
def quarterOf (bounds : Rect α) (p : Vec2 α) : Option Quarter :=
  if (quarter bounds 0 0).Holds p then some .sw
  else if (quarter bounds 1 0).Holds p then some .se
  else if (quarter bounds 0 1).Holds p then some .nw
  else if (quarter bounds 1 1).Holds p then some .ne
  else none

variable [Positioned α β]

/-- The items that are led to a quarter of a rectangle, or to none of them. -/
def ledTo (bounds : Rect α) (way : Option Quarter) (l : List β) : List β :=
  l.filter fun x => quarterOf bounds (Positioned.position x) = way

/-- A node whose items are divided among its quarters, which are built from what is led to them. -/
def parted (build : Rect α → List β → Node α β) (bounds : Rect α) (l : List β) : Node α β :=
  branch bounds (ledTo bounds none l).toArray
    (build (quarter bounds 0 0) (ledTo bounds (some .sw) l))
    (build (quarter bounds 1 0) (ledTo bounds (some .se) l))
    (build (quarter bounds 0 1) (ledTo bounds (some .nw) l))
    (build (quarter bounds 1 1) (ledTo bounds (some .ne) l))

/-- The node of a list of items: it is divided if there are more of them than the capacity, as long
as levels are left. -/
def canonical (capacity : Nat) : Nat → Rect α → List β → Node α β
  | 0, bounds, l => leaf bounds l.toArray
  | levels + 1, bounds, l =>
    if capacity < l.length then parted (canonical capacity levels) bounds l
    else leaf bounds l.toArray

@[simp] theorem bounds_canonical (capacity levels : Nat) (bounds : Rect α) (l : List β) :
    (canonical capacity levels bounds l).bounds = bounds := by
  cases levels with
  | zero => rfl
  | succ levels =>
    unfold canonical
    split <;> rfl

@[simp] theorem canonical_nil (capacity levels : Nat) (bounds : Rect α) :
    canonical capacity levels bounds ([] : List β) = leaf bounds #[] := by
  cases levels with
  | zero => rfl
  | succ levels => exact if_neg (Nat.not_lt_zero capacity)

theorem ledTo_snoc (bounds : Rect α) (way : Option Quarter) (l : List β) (item : β) :
    ledTo bounds way (l ++ [item]) = ledTo bounds way l ++
      if quarterOf bounds (Positioned.position item) = way then [item] else [] := by
  simp only [ledTo, List.filter_append, List.filter_cons, List.filter_nil, decide_eq_true_eq]

/-! ## Insertion -/

section

variable {add : Node α β → β → Node α β} {build : Rect α → List β → Node α β}

/-- A further item is handed on to the quarter that it is led to, and counts among its items. -/
theorem hand_parted (hbounds : ∀ bounds l, (build bounds l).bounds = bounds)
    (hadd : ∀ bounds l item, add (build bounds l) item = build bounds (l ++ [item]))
    (bounds : Rect α) (l : List β) (item : β) :
    hand add (parted build bounds l) item = parted build bounds (l ++ [item]) := by
  have hroute : route (build (quarter bounds 0 0) (ledTo bounds (some .sw) l))
      (build (quarter bounds 1 0) (ledTo bounds (some .se) l))
      (build (quarter bounds 0 1) (ledTo bounds (some .nw) l))
      (build (quarter bounds 1 1) (ledTo bounds (some .ne) l)) (Positioned.position item) =
        quarterOf bounds (Positioned.position item) := by
    simp only [route, quarterOf, hbounds]
  simp only [parted, hand, hroute, ledTo_snoc]
  cases hway : quarterOf bounds (Positioned.position item) with
  | none => simp
  | some way => cases way <;> simp [hadd]

theorem foldl_hand_parted (hbounds : ∀ bounds l, (build bounds l).bounds = bounds)
    (hadd : ∀ bounds l item, add (build bounds l) item = build bounds (l ++ [item]))
    (bounds : Rect α) (l more : List β) :
    more.foldl (hand add) (parted build bounds l) = parted build bounds (l ++ more) := by
  induction more generalizing l with
  | nil => rw [List.foldl_nil, List.append_nil]
  | cons item more ih =>
    rw [List.foldl_cons, hand_parted hbounds hadd, ih, List.append_assoc, List.singleton_append]

end

/-- It makes no difference whether an item is among those that a node is built from or comes
later. -/
theorem insert_canonical (capacity levels : Nat) (bounds : Rect α) (l : List β) (item : β) :
    insert capacity levels (canonical capacity levels bounds l) item =
      canonical capacity levels bounds (l ++ [item]) := by
  induction levels generalizing bounds l item with
  | zero => simp [insert, canonical, keep]
  | succ levels ih =>
    have hbounds := bounds_canonical (β := β) capacity levels
    unfold canonical
    by_cases hfull : capacity < l.length
    · have hmore : capacity < (l ++ [item]).length := by
        rw [List.length_append]
        omega
      rw [if_pos hfull, if_pos hmore]
      exact hand_parted hbounds ih bounds l item
    · have hempty : divided bounds = parted (canonical capacity levels) bounds ([] : List β) := by
        simp [divided, parted, ledTo]
      have hpush : (l.toArray.push item).toList = l ++ [item] := by simp
      have hsize : (l.toArray.push item).size = (l ++ [item]).length := by simp
      rw [if_neg hfull]
      simp only [insert]
      by_cases hmore : capacity < (l ++ [item]).length
      · -- the bucket is divided at this moment
        rw [if_pos hmore, if_pos (hsize ▸ hmore), ← Array.foldl_toList, hpush, hempty,
          foldl_hand_parted hbounds ih, List.nil_append]
      · rw [if_neg hmore, if_neg (hsize ▸ hmore), List.push_toArray]

theorem foldl_insert (capacity levels : Nat) (bounds : Rect α) (l : List β) :
    l.foldl (insert capacity levels) (leaf bounds #[]) = canonical capacity levels bounds l := by
  induction l using List.reverseRecOn with
  | nil => rw [List.foldl_nil, canonical_nil]
  | append_singleton l item ih => rw [List.foldl_append, ih]; exact insert_canonical ..

/-- Nodes of the same items are alike. -/
theorem Alike.canonical (capacity levels : Nat) (bounds : Rect α) {l l' : List β}
    (h : l.Perm l') :
    Alike (canonical capacity levels bounds l) (canonical capacity levels bounds l') := by
  induction levels generalizing bounds l l' with
  | zero => exact .leaf h
  | succ levels ih =>
    unfold Node.canonical
    rw [h.length_eq]
    split
    · exact .branch (h.filter _) (ih _ (h.filter _)) (ih _ (h.filter _)) (ih _ (h.filter _))
        (ih _ (h.filter _))
    · exact .leaf h

end Node

variable {α β : Type} [Scalar α] [Positioned α β]

theorem root_foldl_insert (t : Quadtree α β) (l : List β) :
    (l.foldl insert t).root = l.foldl (Node.insert t.capacity greatestDepth) t.root := by
  induction l generalizing t with
  | nil => rfl
  | cons item l ih => exact ih (t.insert item)

/-- Trees over a rectangle that were given the same items, in whatever order, have the same shape
and the same items in every bucket. So every query returns the same items, also those that it
returns from outside of its area. -/
theorem alike_of_perm (capacity : Nat) (bounds : Rect α) {l l' : List β} (h : l.Perm l') :
    let t := l.foldl insert (empty capacity bounds)
    let t' := l'.foldl insert (empty capacity bounds)
    t.root.Alike t'.root ∧ ∀ area, (t.query area).Perm (t'.query area) := by
  intro t t'
  have hroot (l : List β) : (l.foldl insert (empty capacity bounds)).root =
      Node.canonical (max capacity 1) greatestDepth bounds l := by
    rw [root_foldl_insert]
    exact Node.foldl_insert _ _ _ _
  have halike : t.root.Alike t'.root := by
    rw [hroot, hroot]
    exact .canonical _ _ _ h
  exact ⟨halike, halike.query⟩

/-- Four entries of a road map, two of them at one point and one outside the rectangle, in buckets
of one entry, and the same entries from the last to the first. -/
theorem alike_of_perm_mapItems :
    let l : List (MapItem Float32) :=
      [.crossroad 0 ⟨1, 1⟩, .crossroad 1 ⟨-3, 2⟩, .road 0 ⟨7, 7⟩, .crossroad 2 ⟨1, 1⟩]
    let t := l.foldl insert (empty 1 ⟨⟨0, 0⟩, ⟨8, 8⟩⟩)
    let t' := l.reverse.foldl insert (empty 1 ⟨⟨0, 0⟩, ⟨8, 8⟩⟩)
    let area : Rect Float32 := ⟨⟨6, 6⟩, ⟨7, 7⟩⟩
    l.Perm l.reverse ∧ t.root.Alike t'.root ∧ (t.query area).Perm (t'.query area) ∧
      (t.query area).length = 2 := by
  intro l t t' area
  have hperm : l.Perm l.reverse := (List.reverse_perm l).symm
  obtain ⟨halike, hquery⟩ := alike_of_perm 1 ⟨⟨0, 0⟩, ⟨8, 8⟩⟩ hperm
  exact ⟨hperm, halike, hquery area, by decide +kernel⟩

end Cityscape.Quadtree
