import Cityscape.Proofs.Quadtree.Routing
import Cityscape.Proofs.Scalar.Order
import Cityscape.RoadMap

/-!
# Quadtrees stand for multisets

Whatever a quadtree is asked for, it answers as a multiset of items does: an item is added once, an
item that equals one of the stored ones takes that one away, and a query misses nothing in its area.
The rectangles of the quarters may be rounded to anything; all that matters is that a position is
compared with them in the same way when its item comes, when it goes and when it is looked for.

## Main definitions

* `Rect.Encloses` — closed membership of a point.
* `Quadtree.Change`, `Quadtree.Change.item?` — what a tree can be asked to change.
* `Quadtree.Change.Turns`, `Quadtree.Change.TurnAll` — what a multiset does when it is asked.
* `Quadtree.change`, `Quadtree.changeAll` — what the tree does.

## Main statements

* `Quadtree.Routed.change` — one change of a tree is a change of its items.
* `Quadtree.Routed.filter_sublist_query` — a query returns every item of its area.
* `Quadtree.changeAll_turnAll` — a tree stands for a multiset through any changes.
-/

namespace Cityscape

/-! ## Areas -/

namespace Rect

variable {α : Type} [Scalar α] {r s : Rect α} {p q : Vec2 α}

/-- The point lies in the rectangle, all its sides included. -/
def Encloses (r : Rect α) (p : Vec2 α) : Prop :=
  r.min.x ≤ p.x ∧ p.x ≤ r.max.x ∧ r.min.y ≤ p.y ∧ p.y ≤ r.max.y

instance (r : Rect α) (p : Vec2 α) : Decidable (r.Encloses p) :=
  inferInstanceAs (Decidable (_ ∧ _))

variable [Scalar.Ordered α]

/-- A point that lies in both rectangles is one that they have in common. -/
theorem Encloses.touches (h : s.Encloses p) (hr : r.Holds p) : r.Touches s := by
  obtain ⟨hsx, hxs, hsy, hys⟩ := h
  obtain ⟨hrx, hxr, hry, hyr⟩ := hr
  have hxr := Scalar.Ordered.le_of_lt hxr
  have hyr := Scalar.Ordered.le_of_lt hyr
  exact ⟨Scalar.Ordered.le_trans hrx hxs, Scalar.Ordered.le_trans hsx hxr,
    Scalar.Ordered.le_trans hry hys, Scalar.Ordered.le_trans hsy hyr⟩

/-- Equal points lie in the same rectangles. -/
theorem holds_congr (h : (p == q) = true) : r.Holds p ↔ r.Holds q := by
  obtain ⟨hx, hy⟩ := Bool.and_eq_true_iff.1 h
  simp only [Holds, Scalar.Ordered.le_congr hx, Scalar.Ordered.lt_congr hx,
    Scalar.Ordered.le_congr hy, Scalar.Ordered.lt_congr hy]

end Rect

/-- Equal entries of a road map lie at equal positions. -/
theorem MapItem.position_beq {α : Type} [Scalar α] {x y : MapItem α} (h : (x == y) = true) :
    (Positioned.position x == Positioned.position y) = true := by
  cases x with
  | crossroad => cases y with
    | crossroad => exact (Bool.and_eq_true_iff.1 h).2
    | road => cases h
  | road => cases y with
    | crossroad => cases h
    | road => exact (Bool.and_eq_true_iff.1 h).2

namespace Quadtree

/-! ## Changes -/

/-- What a tree can be asked to change. -/
inductive Change (β : Type)
  | insert (item : β)
  /-- Takes away one item that equals the given one. -/
  | erase (item : β)
  | clear

/-- The item that a change is about. -/
def Change.item? {β : Type} : Change β → Option β
  | .insert item | .erase item => some item
  | .clear => none

/-- A multiset turns into another one on a change, and answers whether the change took place. Of
several items that equal the given one, any one may be taken away. -/
inductive Change.Turns {β : Type} [BEq β] :
    Change β → Multiset β → Bool → Multiset β → Prop
  | insert {item : β} {bag : Multiset β} : Turns (.insert item) bag true (item ::ₘ bag)
  | found {item x : β} {bag : Multiset β} (h : (x == item) = true) :
      Turns (.erase item) (x ::ₘ bag) true bag
  | missing {item : β} {bag : Multiset β} (h : ∀ x ∈ bag, ¬ (x == item) = true) :
      Turns (.erase item) bag false bag
  | clear {bag : Multiset β} : Turns .clear bag true 0

/-- A multiset turns into another one by changes, one after the other, with an answer to each. -/
inductive Change.TurnAll {β : Type} [BEq β] :
    List (Change β) → Multiset β → List Bool → Multiset β → Prop
  | nil {bag : Multiset β} : TurnAll [] bag [] bag
  | cons {change : Change β} {changes : List (Change β)} {answer : Bool} {answers : List Bool}
      {bag bag' bag'' : Multiset β} (head : change.Turns bag answer bag')
      (tail : TurnAll changes bag' answers bag'') :
      TurnAll (change :: changes) bag (answer :: answers) bag''

/-- A change brings in no item but the one that it is about. -/
theorem Change.Turns.mem_or {β : Type} [BEq β] {c : Change β} {bag bag' : Multiset β}
    {answer : Bool} (h : c.Turns bag answer bag') {x : β} (hx : x ∈ bag') :
    x ∈ bag ∨ c.item? = some x := by
  cases h with
  | insert => exact (Multiset.mem_cons.1 hx).symm.imp_right (congrArg some ·.symm)
  | found => exact .inl (Multiset.mem_cons_of_mem hx)
  | missing => exact .inl hx
  | clear => cases hx

variable {α β : Type} [Scalar α] [Positioned α β] [BEq β] {t : Quadtree α β} {item : β}

/-- Whether a change takes place, and the tree after it. -/
def change (t : Quadtree α β) : Change β → Bool × Quadtree α β
  | .insert item => (true, t.insert item)
  | .erase item => ((t.erase? item).isSome, t.erase item)
  | .clear => (true, t.clear)

/-- The answers to changes, one after the other, and the tree after them. -/
def changeAll (t : Quadtree α β) : List (Change β) → List Bool × Quadtree α β
  | [] => ([], t)
  | c :: rest =>
    let (answer, t) := t.change c
    let (answers, t) := t.changeAll rest
    (answer :: answers, t)

/-! ## Ways -/

omit [Positioned α β] [BEq β] in
/-- A quarter that a position is led to holds it. -/
theorem Node.bounds_holds_of_route {sw se nw ne : Node α β} {p : Vec2 α} {quarter : Quarter}
    (h : route sw se nw ne p = some quarter) :
    (match quarter with
      | .sw => sw
      | .se => se
      | .nw => nw
      | .ne => ne).bounds.Holds p := by
  unfold route at h
  split at h
  · cases h; assumption
  · split at h
    · cases h; assumption
    · split at h
      · cases h; assumption
      · split at h
        · cases h; assumption
        · cases h

section

variable [Scalar.Ordered α]

omit [Positioned α β] [BEq β] in
/-- Equal positions are led to the same quarter. -/
theorem Node.route_of_beq {p q : Vec2 α} (h : (p == q) = true) (sw se nw ne : Node α β) :
    route sw se nw ne p = route sw se nw ne q := by
  simp only [route, Rect.holds_congr h]

/-- An item is found if and only if it is equalled by a stored one. -/
theorem Routed.isSome_erase?_iff (h : t.Routed) (item : β)
    (hposition : ∀ x ∈ t.items, (x == item) = true →
      (Positioned.position x == Positioned.position item) = true) :
    (t.erase? item).isSome ↔ ∃ x ∈ t.items, (x == item) = true := by
  constructor
  · intro hsome
    obtain ⟨rest, hrest⟩ := Option.isSome_iff_exists.1 hsome
    obtain ⟨x, hx, hperm⟩ := items_of_erase? hrest
    exact ⟨x, hperm.mem_iff.2 List.mem_cons_self, hx⟩
  · rintro ⟨x, hmem, hx⟩
    rw [Quadtree.erase?, Option.isSome_map]
    exact Node.isSome_erase? h hmem hx (Node.route_of_beq (hposition x hmem hx))

/-- What a tree does on a change, a multiset of its items may do, and the items stay where they are
looked for. -/
theorem Routed.change (h : t.Routed) (c : Change β)
    (hposition : ∀ x ∈ t.items, ∀ y, c.item? = some y → (x == y) = true →
      (Positioned.position x == Positioned.position y) = true) :
    c.Turns ↑t.items (t.change c).1 ↑(t.change c).2.items ∧ (t.change c).2.Routed := by
  cases c with
  | insert item =>
    have hitems : ((t.insert item).items : Multiset β) = item ::ₘ ↑t.items :=
      Multiset.coe_eq_coe.2 (t.items_insert item)
    simp only [Quadtree.change, hitems]
    exact ⟨.insert, h.insert item⟩
  | clear => exact ⟨.clear, t.routed_clear⟩
  | erase item =>
    simp only [Quadtree.change, erase]
    cases hrest : t.erase? item with
    | some rest =>
      obtain ⟨x, hx, hperm⟩ := items_of_erase? hrest
      have hitems : (t.items : Multiset β) = x ::ₘ ↑rest.items := Multiset.coe_eq_coe.2 hperm
      rw [hitems]
      exact ⟨.found hx, h.erase? hrest⟩
    | none =>
      refine ⟨.missing fun x hmem hx => ?_, h⟩
      have hsome := (h.isSome_erase?_iff item fun x hx => hposition x hx item rfl).2
        ⟨x, Multiset.mem_coe.1 hmem, hx⟩
      simp [hrest] at hsome

theorem Routed.changeAll (h : t.Routed) (changes : List (Change β))
    (hposition : ∀ x ∈ t.items ++ changes.filterMap Change.item?,
      ∀ y ∈ changes.filterMap Change.item?, (x == y) = true →
        (Positioned.position x == Positioned.position y) = true) :
    Change.TurnAll changes ↑t.items (t.changeAll changes).1 ↑(t.changeAll changes).2.items ∧
      (t.changeAll changes).2.Routed := by
  induction changes generalizing t with
  | nil => exact ⟨.nil, h⟩
  | cons c rest ih =>
    have hhead (y : β) (hy : c.item? = some y) : y ∈ (c :: rest).filterMap Change.item? :=
      List.mem_filterMap.2 ⟨c, List.mem_cons_self, hy⟩
    have htail {y : β} (hy : y ∈ rest.filterMap Change.item?) :
        y ∈ (c :: rest).filterMap Change.item? :=
      ((List.sublist_cons_self c rest).filterMap Change.item?).mem hy
    obtain ⟨hturns, hrouted⟩ := h.change c fun x hx y hy =>
      hposition x (List.mem_append_left _ hx) y (hhead y hy)
    have hstored : ∀ x ∈ (t.change c).2.items ++ rest.filterMap Change.item?,
        x ∈ t.items ++ (c :: rest).filterMap Change.item? := by
      intro x hx
      obtain hx | hx := List.mem_append.1 hx
      · obtain hold | hnew := hturns.mem_or (Multiset.mem_coe.2 hx)
        · exact List.mem_append_left _ (Multiset.mem_coe.1 hold)
        · exact List.mem_append_right _ (hhead x hnew)
      · exact List.mem_append_right _ (htail hx)
    obtain ⟨hrest, hend⟩ := ih hrouted fun x hx y hy => hposition x (hstored x hx) y (htail hy)
    exact ⟨.cons hturns hrest, hend⟩

/-! ## Queries -/

omit [BEq β] in
/-- The items in an area are among those that a query of it returns, every copy of them. -/
theorem Node.filter_sublist_query {node : Node α β} (h : node.Routed) (area : Rect α) :
    (node.items.filter fun x => area.Encloses (Positioned.position x)).Sublist
      (node.query area) := by
  induction node with
  | leaf bounds bucket => exact List.filter_sublist
  | branch bounds bucket sw se nw ne ihsw ihse ihnw ihne =>
    obtain ⟨⟨hroutesw, hroutese, hroutenw, hroutene⟩, hsw, hse, hnw, hne⟩ := h
    -- a quarter that the area does not touch holds none of its items
    have part {quarter : Node α β}
        (hholds : ∀ x ∈ quarter.items, quarter.bounds.Holds (Positioned.position x))
        (hsub : (quarter.items.filter fun x => area.Encloses (Positioned.position x)).Sublist
          (quarter.query area)) :
        (quarter.items.filter fun x => area.Encloses (Positioned.position x)).Sublist
          (if quarter.bounds.Touches area then quarter.query area else []) := by
      split
      · exact hsub
      next haway =>
        have hnone :
            (quarter.items.filter fun x => area.Encloses (Positioned.position x)) = [] := by
          refine List.filter_eq_nil_iff.2 fun x hx hin => haway ?_
          exact (of_decide_eq_true hin).touches (hholds x hx)
        rw [hnone]
    simp only [items, query, List.filter_append]
    exact ((((List.filter_sublist).append
      (part (fun x hx => bounds_holds_of_route (hroutesw x hx)) (ihsw hsw))).append
      (part (fun x hx => bounds_holds_of_route (hroutese x hx)) (ihse hse))).append
      (part (fun x hx => bounds_holds_of_route (hroutenw x hx)) (ihnw hnw))).append
      (part (fun x hx => bounds_holds_of_route (hroutene x hx)) (ihne hne))

omit [BEq β] in
theorem Routed.filter_sublist_query (h : t.Routed) (area : Rect α) :
    (t.items.filter fun x => area.Encloses (Positioned.position x)).Sublist (t.query area) :=
  Node.filter_sublist_query h area

end

/-- Through any changes a tree over any rectangle stands for a multiset, which gives the same
answers: its items are that multiset, its size is their number, and a query returns some of them,
all in the area among them, as often as they are stored. Items that equal each other must lie at
equal positions, which excludes positions that are not even equal to themselves. -/
theorem changeAll_turnAll [Scalar.Ordered α] (capacity : Nat) (bounds : Rect α)
    (changes : List (Change β))
    (hposition : ∀ x ∈ changes.filterMap Change.item?, ∀ y ∈ changes.filterMap Change.item?,
      (x == y) = true → (Positioned.position x == Positioned.position y) = true) :
    let t : Quadtree α β := ((empty capacity bounds).changeAll changes).2
    Change.TurnAll changes 0 ((empty capacity bounds).changeAll changes).1 ↑t.items ∧
      t.size = (t.items : Multiset β).card ∧
      ∀ area, (t.query area).Sublist t.items ∧
        (t.items.filter fun x => area.Encloses (Positioned.position x)).Sublist
          (t.query area) := by
  intro t
  obtain ⟨hturns, hrouted⟩ := (routed_empty capacity bounds).changeAll changes hposition
  refine ⟨hturns, t.length_items.symm, fun area => ?_⟩
  exact ⟨t.query_sublist_items area, hrouted.filter_sublist_query area⟩

/-- Entries of a road map, two of them the same and one outside the rectangle, in buckets of one
entry. -/
theorem changeAll_turnAll_mapItems :
    let changes : List (Change (MapItem Float32)) :=
      [.insert (.crossroad 0 ⟨1, 1⟩), .insert (.crossroad 0 ⟨1, 1⟩), .insert (.road 0 ⟨7, 7⟩),
        .insert (.crossroad 1 ⟨-3, 2⟩), .erase (.crossroad 0 ⟨1, 1⟩), .erase (.road 0 ⟨1, 1⟩)]
    let grown := (empty 1 ⟨⟨0, 0⟩, ⟨8, 8⟩⟩).changeAll changes
    let answers := [true, true, true, true, true, false]
    let area : Rect Float32 := ⟨⟨-4, 0⟩, ⟨2, 2⟩⟩
    Change.TurnAll changes 0 answers ↑grown.2.items ∧ grown.2.size = 3 ∧
      (grown.2.items.filter fun x => area.Encloses (Positioned.position x)).length = 2 ∧
      (grown.2.items.filter fun x => area.Encloses (Positioned.position x)).Sublist
        (grown.2.query area) := by
  intro changes grown answers area
  have hanswers : grown.1 = answers := by decide +kernel
  obtain ⟨hturns, -, hquery⟩ := changeAll_turnAll 1 ⟨⟨0, 0⟩, ⟨8, 8⟩⟩ changes
    fun x _ y _ h => MapItem.position_beq h
  rw [← hanswers]
  exact ⟨hturns, by decide +kernel, by decide +kernel, (hquery area).2⟩

end Quadtree

end Cityscape
