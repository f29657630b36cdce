import Cityscape.Quadtree

/-!
# The items of a quadtree

Seen through its items a quadtree is a multiset: an insertion adds one item and a removal takes one
away, whatever becomes of the buckets and however the halves of a rectangle are rounded.

## Main statements

* `Quadtree.items_insert` — an insertion adds the item to the stored ones.
* `Quadtree.items_of_erase?` — a removal takes an equal item away and keeps all others.
* `Quadtree.query_sublist_items` — a query returns stored items, each at most once.
-/

namespace Cityscape.Quadtree

/-! ## Lists up to order -/

/-- Putting an entry in the place of another one exchanges the two. -/
theorem perm_cons_set {β : Type} {l : List β} {i : Nat} (h : i < l.length) (b : β) :
    (b :: l).Perm (l[i] :: l.set i b) := by
  induction l generalizing i with
  | nil => cases h
  | cons a l ih =>
    cases i with
    | zero => exact .swap a b l
    | succ i =>
      have inner := (ih (Nat.lt_of_succ_lt_succ h)).cons a
      exact (List.Perm.swap a b l).trans (inner.trans (.swap _ _ _))

/-- An entry of a middle part can be drawn to the front of the whole. -/
theorem perm_append_of_perm_cons {β : Type} {l m : List β} {b : β} (front back : List β)
    (h : l.Perm (b :: m)) : (front ++ (l ++ back)).Perm (b :: (front ++ (m ++ back))) :=
  ((h.append_right back).append_left front).trans List.perm_middle

namespace Node

variable {α β : Type}

/-! ## Insertion -/

theorem items_keep (node : Node α β) (item : β) :
    (node.keep item).items.Perm (item :: node.items) := by
  cases node with
  | leaf => simp [keep, items]
  | branch _ bucket =>
    simp only [keep, items, Array.toList_push, List.append_assoc, List.singleton_append]
    exact List.perm_middle

variable [Scalar α]

@[simp] theorem items_divided (bounds : Rect α) : (divided (β := β) bounds).items = [] := rfl

variable [Positioned α β]

/-- Handing an item on adds it when the quarters add what they are given. -/
theorem items_hand {add : Node α β → β → Node α β}
    (h : ∀ node item, (add node item).items.Perm (item :: node.items)) (node : Node α β)
    (item : β) : (hand add node item).items.Perm (item :: node.items) := by
  cases node with
  | leaf => simp [hand, items]
  | branch bounds bucket sw se nw ne =>
    have draw := fun front l back => perm_append_of_perm_cons front back (h l item)
    simp only [hand]
    split <;> simp only [items]
    · simpa using draw bucket.toList sw (se.items ++ nw.items ++ ne.items)
    · simpa using draw (bucket.toList ++ sw.items) se (nw.items ++ ne.items)
    · simpa using draw (bucket.toList ++ sw.items ++ se.items) nw ne.items
    · simpa using draw (bucket.toList ++ sw.items ++ se.items ++ nw.items) ne []
    · simp [List.append_assoc]

/-- Handing on a bucket adds all its items. -/
theorem items_foldl_hand {add : Node α β → β → Node α β}
    (h : ∀ node item, (add node item).items.Perm (item :: node.items)) (node : Node α β)
    (l : List β) : (l.foldl (hand add) node).items.Perm (l ++ node.items) := by
  induction l generalizing node with
  | nil => exact .refl _
  | cons a l ih =>
    exact (ih _).trans (((items_hand h node a).append_left l).trans List.perm_middle)

theorem items_insert (capacity levels : Nat) (node : Node α β) (item : β) :
    (insert capacity levels node item).items.Perm (item :: node.items) := by
  induction levels generalizing node item with
  | zero => exact items_keep node item
  | succ levels ih =>
    cases node with
    | branch => exact items_hand ih _ item
    | leaf bounds bucket =>
      simp only [insert]
      split
      · rw [← Array.foldl_toList, Array.toList_push]
        have handed := items_foldl_hand ih (divided bounds) (bucket.toList ++ [item])
        rw [items_divided, List.append_nil] at handed
        exact handed.trans (List.perm_append_singleton item bucket.toList)
      · simp [items]

/-! ## Removal -/

theorem items_of_eraseFrom [BEq β] {bucket rest : Array β} {item : β}
    (h : eraseFrom bucket item = some rest) :
    ∃ x, (x == item) = true ∧ bucket.toList.Perm (x :: rest.toList) := by
  unfold eraseFrom at h
  split at h
  next i hi =>
    split at h
    next last hl =>
      obtain ⟨hlt, heq, -⟩ := Array.findIdx?_eq_some_iff_getElem.1 hi
      cases h
      refine ⟨bucket[i], heq, ?_⟩
      obtain ⟨l⟩ := bucket
      rcases List.eq_nil_or_concat l with rfl | ⟨front, b, rfl⟩
      · simp at hlt
      · have hb : last = b := by simpa [eq_comm] using hl
        subst hb
        simp only [List.concat_eq_append, List.size_toArray, List.length_append,
          List.length_singleton] at hlt
        by_cases inFront : i < front.length
        · simpa [Array.setIfInBounds, hlt, List.set_append_left, inFront,
            List.getElem_append_left]
            using (List.perm_append_singleton last front).trans (perm_cons_set inFront last)
        · have atLast : i = front.length := by omega
          subst atLast
          simp [List.set_append_right]
    · cases h
  · cases h

theorem items_of_erase? [BEq β] {node rest : Node α β} {item : β}
    (h : node.erase? item = some rest) :
    ∃ x, (x == item) = true ∧ node.items.Perm (x :: rest.items) := by
  induction node generalizing rest with
  | leaf bounds bucket =>
    obtain ⟨b, hb, rfl⟩ := Option.map_eq_some_iff.1 h
    exact items_of_eraseFrom hb
  | branch bounds bucket sw se nw ne hsw hse hnw hne =>
    have draw {l m : List β} {x : β} (front back : List β) (h : l.Perm (x :: m)) :=
      perm_append_of_perm_cons front back h
    simp only [erase?] at h
    split at h
    next b hb =>
      cases h
      obtain ⟨x, hx, hp⟩ := items_of_eraseFrom hb
      exact ⟨x, hx, by
        simpa [items] using draw [] (sw.items ++ se.items ++ nw.items ++ ne.items) hp⟩
    · split at h
      · obtain ⟨t, ht, rfl⟩ := Option.map_eq_some_iff.1 h
        obtain ⟨x, hx, hp⟩ := hsw ht
        exact ⟨x, hx, by
          simpa [items] using draw bucket.toList (se.items ++ nw.items ++ ne.items) hp⟩
      · obtain ⟨t, ht, rfl⟩ := Option.map_eq_some_iff.1 h
        obtain ⟨x, hx, hp⟩ := hse ht
        exact ⟨x, hx, by
          simpa [items] using draw (bucket.toList ++ sw.items) (nw.items ++ ne.items) hp⟩
      · obtain ⟨t, ht, rfl⟩ := Option.map_eq_some_iff.1 h
        obtain ⟨x, hx, hp⟩ := hnw ht
        exact ⟨x, hx, by
          simpa [items] using draw (bucket.toList ++ sw.items ++ se.items) ne.items hp⟩
      · obtain ⟨t, ht, rfl⟩ := Option.map_eq_some_iff.1 h
        obtain ⟨x, hx, hp⟩ := hne ht
        exact ⟨x, hx, by
          simpa [items] using draw (bucket.toList ++ sw.items ++ se.items ++ nw.items) [] hp⟩
      · cases h

/-! ## Queries -/

omit [Positioned α β] in
theorem query_sublist_items (area : Rect α) (node : Node α β) :
    (node.query area).Sublist node.items := by
  induction node with
  | leaf => exact .refl _
  | branch bounds bucket sw se nw ne hsw hse hnw hne =>
    have part {p : Prop} [Decidable p] {l m : List β} (h : l.Sublist m) :
        (if p then l else []).Sublist m := by
      split
      · exact h
      · exact List.nil_sublist m
    exact ((((List.Sublist.refl _).append (part hsw)).append (part hse)).append (part hnw)).append
      (part hne)

end Node

variable {α β : Type} [Scalar α]

theorem query_sublist_items (t : Quadtree α β) (area : Rect α) :
    (t.query area).Sublist t.items :=
  t.root.query_sublist_items area

variable [Positioned α β]

theorem items_insert (t : Quadtree α β) (item : β) :
    (t.insert item).items.Perm (item :: t.items) :=
  t.root.items_insert t.capacity greatestDepth item

theorem items_of_erase? [BEq β] {t rest : Quadtree α β} {item : β}
    (h : t.erase? item = some rest) :
    ∃ x, (x == item) = true ∧ t.items.Perm (x :: rest.items) := by
  obtain ⟨root, hroot, rfl⟩ := Option.map_eq_some_iff.1 h
  exact Node.items_of_erase? hroot

end Cityscape.Quadtree
