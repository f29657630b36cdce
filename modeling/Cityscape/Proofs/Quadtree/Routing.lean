import Cityscape.Quadtree.Items

/-!
# Finding items of a quadtree

An item is removed by going down to the quarter that holds its position. This finds the item, since
every item in a quarter was led there by its position and the rectangles of quarters never change.

## Main definitions

* `Quadtree.Node.Routed` — every item lies in the quarter that its position leads to.

## Main statements

* `Quadtree.Routed.insert`, `Quadtree.Routed.erase?` — the operations keep items where they are
  looked for.
* `Quadtree.Routed.isSome_erase?` — a stored item is found.
-/

namespace Cityscape.Quadtree

namespace Node

variable {α β : Type} [Scalar α] [Positioned α β]

/-- The items of every quarter are led there by their positions. -/
def Routed : Node α β → Prop
  | leaf _ _ => True
  | branch _ _ sw se nw ne =>
    ((∀ x ∈ sw.items, route sw se nw ne (Positioned.position x) = some .sw) ∧
      (∀ x ∈ se.items, route sw se nw ne (Positioned.position x) = some .se) ∧
      (∀ x ∈ nw.items, route sw se nw ne (Positioned.position x) = some .nw) ∧
      ∀ x ∈ ne.items, route sw se nw ne (Positioned.position x) = some .ne) ∧
    sw.Routed ∧ se.Routed ∧ nw.Routed ∧ ne.Routed

omit [Positioned α β] in
theorem route_congr {sw se nw ne sw' se' nw' ne' : Node α β} (hsw : sw'.bounds = sw.bounds)
    (hse : se'.bounds = se.bounds) (hnw : nw'.bounds = nw.bounds) (hne : ne'.bounds = ne.bounds) :
    route sw' se' nw' ne' = route sw se nw ne := by
  funext p
  unfold route
  rw [hsw, hse, hnw, hne]

/-! ## Insertion -/

/-- An operation that adds an item to a node and does not touch its rectangle. -/
structure Adds (add : Node α β → β → Node α β) : Prop where
  bounds (node : Node α β) (item : β) : (add node item).bounds = node.bounds
  items (node : Node α β) (item : β) : (add node item).items.Perm (item :: node.items)
  routed {node : Node α β} (item : β) : node.Routed → (add node item).Routed

theorem Adds.keep : Adds (keep : Node α β → β → Node α β) where
  bounds node item := by cases node <;> rfl
  items := items_keep
  routed {node} item h := by
    cases node with
    | leaf => trivial
    | branch => exact h

theorem Adds.hand {add : Node α β → β → Node α β} (h : Adds add) : Adds (hand add) where
  bounds node item := by
    cases node with
    | leaf => rfl
    | branch =>
      simp only [Node.hand]
      split <;> rfl
  items := items_hand h.items
  routed {node} item hnode := by
    cases node with
    | leaf => trivial
    | branch bounds bucket sw se nw ne =>
      have hmem (quarter : Node α β) (x : β) :
          x ∈ (add quarter item).items ↔ x = item ∨ x ∈ quarter.items :=
        (h.items quarter item).mem_iff.trans List.mem_cons
      obtain ⟨hroute, hsw, hse, hnw, hne⟩ := hnode
      simp only [Node.hand]
      split
      next hitem =>
        refine ⟨?_, h.routed item hsw, hse, hnw, hne⟩
        rw [route_congr (h.bounds sw item) rfl rfl rfl]
        simp only [hmem]
        grind
      next hitem =>
        refine ⟨?_, hsw, h.routed item hse, hnw, hne⟩
        rw [route_congr rfl (h.bounds se item) rfl rfl]
        simp only [hmem]
        grind
      next hitem =>
        refine ⟨?_, hsw, hse, h.routed item hnw, hne⟩
        rw [route_congr rfl rfl (h.bounds nw item) rfl]
        simp only [hmem]
        grind
      next hitem =>
        refine ⟨?_, hsw, hse, hnw, h.routed item hne⟩
        rw [route_congr rfl rfl rfl (h.bounds ne item)]
        simp only [hmem]
        grind
      next => exact ⟨hroute, hsw, hse, hnw, hne⟩

theorem Adds.foldl {add : Node α β → β → Node α β} (h : Adds add) {node : Node α β}
    (hnode : node.Routed) (l : List β) :
    (l.foldl add node).bounds = node.bounds ∧ (l.foldl add node).Routed := by
  induction l generalizing node with
  | nil => exact ⟨rfl, hnode⟩
  | cons item l ih =>
    have ⟨hbounds, hrouted⟩ := ih (h.routed item hnode)
    exact ⟨hbounds.trans (h.bounds node item), hrouted⟩

theorem routed_divided (bounds : Rect α) : (divided bounds : Node α β).Routed := by
  simp [divided, Routed, items]

theorem Adds.insert (capacity levels : Nat) :
    Adds (insert capacity levels : Node α β → β → Node α β) := by
  induction levels with
  | zero => exact Adds.keep
  | succ levels ih =>
    have hhand := ih.hand
    refine ⟨fun node item => ?_, items_insert capacity (levels + 1), fun {node} item hnode => ?_⟩
    · cases node with
      | branch => exact hhand.bounds _ item
      | leaf bounds bucket =>
        simp only [Node.insert]
        split
        · rw [← Array.foldl_toList]
          exact (hhand.foldl (routed_divided bounds) _).1
        · rfl
    · cases node with
      | branch => exact hhand.routed item hnode
      | leaf bounds bucket =>
        simp only [Node.insert]
        split
        · rw [← Array.foldl_toList]
          exact (hhand.foldl (routed_divided bounds) _).2
        · trivial

/-! ## Removal -/

variable [BEq β]

omit [Scalar α] [Positioned α β] in
theorem isSome_eraseFrom {bucket : Array β} {item x : β} (hmem : x ∈ bucket)
    (heq : (x == item) = true) : (eraseFrom bucket item).isSome := by
  unfold eraseFrom
  cases hfind : bucket.findIdx? (· == item) with
  | none =>
    have hnone := Array.findIdx?_eq_none_iff.1 hfind x hmem
    simp [heq] at hnone
  | some i =>
    cases hback : bucket.back? with
    | none => simp [Array.back?_eq_none_iff.1 hback] at hmem
    | some last => rfl

theorem bounds_of_erase? {node rest : Node α β} {item : β} (h : node.erase? item = some rest) :
    rest.bounds = node.bounds := by
  cases node with
  | leaf =>
    obtain ⟨bucket, -, rfl⟩ := Option.map_eq_some_iff.1 h
    rfl
  | branch =>
    simp only [erase?] at h
    split at h
    · cases h
      rfl
    · split at h
      · obtain ⟨quarter, -, rfl⟩ := Option.map_eq_some_iff.1 h
        rfl
      · obtain ⟨quarter, -, rfl⟩ := Option.map_eq_some_iff.1 h
        rfl
      · obtain ⟨quarter, -, rfl⟩ := Option.map_eq_some_iff.1 h
        rfl
      · obtain ⟨quarter, -, rfl⟩ := Option.map_eq_some_iff.1 h
        rfl
      · cases h

theorem mem_of_erase? {node rest : Node α β} {item x : β} (h : node.erase? item = some rest)
    (hx : x ∈ rest.items) : x ∈ node.items := by
  obtain ⟨removed, -, hperm⟩ := items_of_erase? h
  exact hperm.mem_iff.2 (List.mem_cons_of_mem removed hx)

theorem Routed.erase? {node rest : Node α β} {item : β} (hnode : node.Routed)
    (h : node.erase? item = some rest) : rest.Routed := by
  induction node generalizing rest with
  | leaf =>
    obtain ⟨bucket, -, rfl⟩ := Option.map_eq_some_iff.1 h
    trivial
  | branch bounds bucket sw se nw ne ihsw ihse ihnw ihne =>
    obtain ⟨⟨hroutesw, hroutese, hroutenw, hroutene⟩, hsw, hse, hnw, hne⟩ := hnode
    simp only [Node.erase?] at h
    split at h
    · cases h
      exact ⟨⟨hroutesw, hroutese, hroutenw, hroutene⟩, hsw, hse, hnw, hne⟩
    · split at h
      · obtain ⟨quarter, hq, rfl⟩ := Option.map_eq_some_iff.1 h
        refine ⟨?_, ihsw hsw hq, hse, hnw, hne⟩
        rw [route_congr (bounds_of_erase? hq) rfl rfl rfl]
        exact ⟨fun x hx => hroutesw x (mem_of_erase? hq hx), hroutese, hroutenw, hroutene⟩
      · obtain ⟨quarter, hq, rfl⟩ := Option.map_eq_some_iff.1 h
        refine ⟨?_, hsw, ihse hse hq, hnw, hne⟩
        rw [route_congr rfl (bounds_of_erase? hq) rfl rfl]
        exact ⟨hroutesw, fun x hx => hroutese x (mem_of_erase? hq hx), hroutenw, hroutene⟩
      · obtain ⟨quarter, hq, rfl⟩ := Option.map_eq_some_iff.1 h
        refine ⟨?_, hsw, hse, ihnw hnw hq, hne⟩
        rw [route_congr rfl rfl (bounds_of_erase? hq) rfl]
        exact ⟨hroutesw, hroutese, fun x hx => hroutenw x (mem_of_erase? hq hx), hroutene⟩
      · obtain ⟨quarter, hq, rfl⟩ := Option.map_eq_some_iff.1 h
        refine ⟨?_, hsw, hse, hnw, ihne hne hq⟩
        rw [route_congr rfl rfl rfl (bounds_of_erase? hq)]
        exact ⟨hroutesw, hroutese, hroutenw, fun x hx => hroutene x (mem_of_erase? hq hx)⟩
      · cases h

/-- A stored item is found by any item that it equals and that is led to the same quarters. -/
theorem isSome_erase? {node : Node α β} {item x : β} (hnode : node.Routed)
    (hmem : x ∈ node.items) (heq : (x == item) = true)
    (hway : ∀ sw se nw ne : Node α β, route sw se nw ne (Positioned.position x) =
      route sw se nw ne (Positioned.position item)) : (node.erase? item).isSome := by
  induction node with
  | leaf bounds bucket =>
    rw [Node.erase?, Option.isSome_map]
    exact isSome_eraseFrom (by simpa [items] using hmem) heq
  | branch bounds bucket sw se nw ne ihsw ihse ihnw ihne =>
    obtain ⟨⟨hroutesw, hroutese, hroutenw, hroutene⟩, hsw, hse, hnw, hne⟩ := hnode
    simp only [Node.erase?, ← hway]
    cases hbucket : eraseFrom bucket item with
    | some rest => rfl
    | none =>
      have hnot : x ∉ bucket := by
        intro hin
        have hsome := isSome_eraseFrom hin heq
        simp [hbucket] at hsome
      have hquarter : x ∈ sw.items ∨ x ∈ se.items ∨ x ∈ nw.items ∨ x ∈ ne.items := by
        simpa [items, hnot, or_assoc] using hmem
      rcases hquarter with hin | hin | hin | hin
      · simpa [hroutesw x hin] using ihsw hsw hin
      · simpa [hroutese x hin] using ihse hse hin
      · simpa [hroutenw x hin] using ihnw hnw hin
      · simpa [hroutene x hin] using ihne hne hin

end Node

variable {α β : Type} [Scalar α] [Positioned α β] {t rest : Quadtree α β} {item : β}

/-- Every item is where it is looked for. -/
def Routed (t : Quadtree α β) : Prop := t.root.Routed

theorem routed_empty (capacity : Nat) (bounds : Rect α) :
    (empty capacity bounds : Quadtree α β).Routed := trivial

theorem routed_clear (t : Quadtree α β) : t.clear.Routed := trivial

theorem Routed.insert (h : t.Routed) (item : β) : (t.insert item).Routed :=
  (Node.Adds.insert t.capacity greatestDepth).routed item h

theorem Routed.erase? [BEq β] (h : t.Routed) (herase : t.erase? item = some rest) :
    rest.Routed := by
  obtain ⟨root, hroot, rfl⟩ := Option.map_eq_some_iff.1 herase
  exact Node.Routed.erase? h hroot

theorem Routed.isSome_erase? [BEq β] (h : t.Routed) (hmem : item ∈ t.items)
    (hself : (item == item) = true) : (t.erase? item).isSome := by
  rw [Quadtree.erase?, Option.isSome_map]
  exact Node.isSome_erase? h hmem hself fun _ _ _ _ => rfl

end Cityscape.Quadtree
