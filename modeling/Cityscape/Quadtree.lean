import Cityscape.Rect

/-!
# Quadtrees

A bucketed tree of items by their map positions. A bucket that grows beyond its capacity is divided
into quarters, down to a greatest depth; an item that lies in no quarter stays where it is. A query
returns every item of every bucket whose rectangle touches the area asked for, so callers test exact
positions themselves.

## Main definitions

* `Positioned` — items with a map position.
* `Quadtree.Quarter` — the quarters of a rectangle.
* `Quadtree.Node` — a bucket, or a bucket with four quarters.
* `Quadtree.insert`, `Quadtree.erase`, `Quadtree.query`, `Quadtree.clear` — the operations.
* `Quadtree.items` — every stored item.
-/

namespace Cityscape

/-- Items with a map position. -/
class Positioned (α : outParam Type) (β : Type) where
  position : β → Vec2 α

namespace Quadtree

/-- The quarters of a rectangle: south-west, south-east, north-west and north-east. -/
inductive Quarter
  | sw
  | se
  | nw
  | ne
  deriving DecidableEq, Repr

/-- A bucket of items, and its quarters once it was divided. -/
inductive Node (α β : Type)
  | leaf (bounds : Rect α) (bucket : Array β)
  /-- A bucket with its quarters: south-west, south-east, north-west and north-east. -/
  | branch (bounds : Rect α) (bucket : Array β) (sw se nw ne : Node α β)

namespace Node

variable {α β : Type}

/-- The rectangle that a node stands for. -/
def bounds : Node α β → Rect α
  | leaf b _ => b
  | branch b .. => b

def bucket : Node α β → Array β
  | leaf _ items => items
  | branch _ items .. => items

/-- The items of a node and of its quarters. -/
def items : Node α β → List β
  | leaf _ bucket => bucket.toList
  | branch _ bucket sw se nw ne => bucket.toList ++ sw.items ++ se.items ++ nw.items ++ ne.items

def size : Node α β → Nat
  | leaf _ bucket => bucket.size
  | branch _ bucket sw se nw ne => bucket.size + (sw.size + se.size + nw.size + ne.size)

theorem length_items (node : Node α β) : node.items.length = node.size := by
  induction node with
  | leaf => simp [items, size]
  | branch _ _ _ _ _ _ hsw hse hnw hne => simp [items, size, hsw, hse, hnw, hne]; omega

/-! ## Quarters -/

variable [Scalar α]

/-- A quarter of a rectangle: the one that starts `x` and `y` halves from its least corner. -/
def quarter (bounds : Rect α) (x y : α) : Rect α :=
  let half := bounds.halfSize
  let origin := bounds.min + (Vec2.mk x y).stretch half
  .ofCorners origin (origin + half)

/-- The first of four quarters that holds a point. -/
def route (sw se nw ne : Node α β) (p : Vec2 α) : Option Quarter :=
  if sw.bounds.Holds p then some .sw
  else if se.bounds.Holds p then some .se
  else if nw.bounds.Holds p then some .nw
  else if ne.bounds.Holds p then some .ne
  else none

/-- Keeps an item in the bucket of the node itself. -/
def keep (node : Node α β) (item : β) : Node α β :=
  match node with
  | leaf bounds bucket => leaf bounds (bucket.push item)
  | branch bounds bucket sw se nw ne => branch bounds (bucket.push item) sw se nw ne

/-- An empty bucket with four empty quarters. -/
def divided (bounds : Rect α) : Node α β :=
  branch bounds #[] (leaf (quarter bounds 0 0) #[]) (leaf (quarter bounds 1 0) #[])
    (leaf (quarter bounds 0 1) #[]) (leaf (quarter bounds 1 1) #[])

/-! ## Operations -/

variable [Positioned α β]

/-- Hands an item on to the quarter that holds it by `add`; an item that no quarter holds stays. -/
def hand (add : Node α β → β → Node α β) (node : Node α β) (item : β) : Node α β :=
  match node with
  | leaf bounds bucket => leaf bounds (bucket.push item)
  | branch bounds bucket sw se nw ne =>
    match route sw se nw ne (Positioned.position item) with
    | some .sw => branch bounds bucket (add sw item) se nw ne
    | some .se => branch bounds bucket sw (add se item) nw ne
    | some .nw => branch bounds bucket sw se (add nw item) ne
    | some .ne => branch bounds bucket sw se nw (add ne item)
    | none => branch bounds (bucket.push item) sw se nw ne

/-- Adds an item. A bucket with more items than the capacity is divided as long as `levels` are
left below it, and its items are handed on to the quarters that hold them. -/
def insert (capacity : Nat) : Nat → Node α β → β → Node α β
  | 0, node, item => node.keep item
  | levels + 1, leaf bounds bucket, item =>
    let bucket := bucket.push item
    if capacity < bucket.size then bucket.foldl (hand (insert capacity levels)) (divided bounds)
    else leaf bounds bucket
  | levels + 1, branch bounds bucket sw se nw ne, item =>
    hand (insert capacity levels) (branch bounds bucket sw se nw ne) item

/-- Removes one item from a bucket; the last item takes its place. -/
def eraseFrom [BEq β] (bucket : Array β) (item : β) : Option (Array β) :=
  match bucket.findIdx? (· == item) with
  | some i =>
    match bucket.back? with
    | some last => some ((bucket.setIfInBounds i last).pop)
    | none => none
  | none => none

/-- Removes one item equal to the given one, looked for on the way to its position; nothing when
there is none on that way. -/
def erase? [BEq β] (item : β) : Node α β → Option (Node α β)
  | leaf bounds bucket => (eraseFrom bucket item).map (leaf bounds)
  | branch bounds bucket sw se nw ne =>
    match eraseFrom bucket item with
    | some bucket => some (branch bounds bucket sw se nw ne)
    | none =>
      match route sw se nw ne (Positioned.position item) with
      | some .sw => (sw.erase? item).map (branch bounds bucket · se nw ne)
      | some .se => (se.erase? item).map (branch bounds bucket sw · nw ne)
      | some .nw => (nw.erase? item).map (branch bounds bucket sw se · ne)
      | some .ne => (ne.erase? item).map (branch bounds bucket sw se nw ·)
      | none => none

omit [Positioned α β] in
/-- The items of the node, and of every quarter below it whose rectangle touches the area. -/
def query (area : Rect α) : Node α β → List β
  | leaf _ bucket => bucket.toList
  | branch _ bucket sw se nw ne =>
    bucket.toList ++ (if sw.bounds.Touches area then sw.query area else []) ++
      (if se.bounds.Touches area then se.query area else []) ++
      (if nw.bounds.Touches area then nw.query area else []) ++
      (if ne.bounds.Touches area then ne.query area else [])

end Node

end Quadtree

/-- A tree of items by position. -/
structure Quadtree (α β : Type) where
  /-- How many items a bucket holds before it is divided. -/
  capacity : Nat
  /-- The bucket of the whole rectangle. -/
  root : Quadtree.Node α β

namespace Quadtree

variable {α β : Type}

/-- The number of times a bucket and its quarters can be divided. -/
def greatestDepth : Nat := 12

/-- The empty tree over a rectangle; the capacity is at least one. -/
def empty (capacity : Nat) (bounds : Rect α) : Quadtree α β :=
  ⟨Max.max capacity 1, .leaf bounds #[]⟩

def bounds (t : Quadtree α β) : Rect α := t.root.bounds

def items (t : Quadtree α β) : List β := t.root.items

def size (t : Quadtree α β) : Nat := t.root.size

def clear (t : Quadtree α β) : Quadtree α β := { t with root := .leaf t.bounds #[] }

@[simp] theorem items_clear (t : Quadtree α β) : t.clear.items = [] := rfl

@[simp] theorem size_clear (t : Quadtree α β) : t.clear.size = 0 := rfl

theorem length_items (t : Quadtree α β) : t.items.length = t.size := t.root.length_items

variable [Scalar α]

/-- The items of every bucket that may hold an item of the area, the root always among them. -/
def query (t : Quadtree α β) (area : Rect α) : List β := t.root.query area

variable [Positioned α β]

def insert (t : Quadtree α β) (item : β) : Quadtree α β :=
  { t with root := t.root.insert t.capacity greatestDepth item }

/-- Removes one item equal to the given one; nothing when it is not found. -/
def erase? [BEq β] (t : Quadtree α β) (item : β) : Option (Quadtree α β) :=
  (t.root.erase? item).map ({ t with root := · })

/-- Removes one item equal to the given one, if it is found. -/
def erase [BEq β] (t : Quadtree α β) (item : β) : Quadtree α β := (t.erase? item).getD t

end Quadtree

end Cityscape
