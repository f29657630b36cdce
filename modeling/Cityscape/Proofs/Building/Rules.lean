import Cityscape.Building.Catalog
import Cityscape.Proofs.Building.Visibility
import Cityscape.Proofs.Grammar.Outline
import Cityscape.Proofs.Random.Bounds

/-!
# Rules over single-precision numbers

How many tiles there are, which action is drawn and whether a condition holds is decided by numbers.
Bounds for the numbers that are read are enough to know that a rule does what it is for.

## Main definitions

* `Grammar.TilesUpTo` — extents that a limited number of tiles fills.

## Main statements

* `Grammar.TilesUpTo.exists_tileCount` — tiles are counted.
* `Grammar.Rule.exists_apply`, `Grammar.Rule.exists_apply_pair` — an action is selected.
* `Grammar.exists_evaluate_clear` — it is decided whether something covers a shape.
-/

namespace Cityscape

open Grammar Single

/-! ## Tiles -/

namespace Grammar

variable {low high extent spacing a b : Float32} {n : ℕ}

theorem within_max (ha : Within low high a) (hb : Within low high b) :
    Within low high (Scalar.max a b) := by
  unfold Scalar.max
  split
  · exact hb
  · split
    · exact ha
    · exact hb

/-- Extents between two bounds are filled by at most `n` tiles. -/
structure TilesUpTo (n : ℕ) (spacing low high : Float32) : Prop where
  finite : Finite spacing
  pos : 0 < spacing
  least : Within 0 (Float32.ofNat n) (low / spacing)
  greatest : Within 0 (Float32.ofNat n) (high / spacing)
  one_le : 1 ≤ n
  le_limit : n ≤ tileLimit

instance : Decidable (TilesUpTo n spacing low high) :=
  decidable_of_iff (Finite spacing ∧ 0 < spacing ∧ Within 0 (Float32.ofNat n) (low / spacing) ∧
      Within 0 (Float32.ofNat n) (high / spacing) ∧ 1 ≤ n ∧ n ≤ tileLimit)
    ⟨fun ⟨h₁, h₂, h₃, h₄, h₅, h₆⟩ => ⟨h₁, h₂, h₃, h₄, h₅, h₆⟩,
      fun ⟨h₁, h₂, h₃, h₄, h₅, h₆⟩ => ⟨h₁, h₂, h₃, h₄, h₅, h₆⟩⟩

theorem TilesUpTo.exists_tileCount (h : TilesUpTo n spacing low high)
    (hextent : Within low high extent) : ∃ m ≤ n, tileCount extent spacing = some m := by
  have hfew : n < 2 ^ 23 := lt_of_le_of_lt h.le_limit (by norm_num [tileLimit])
  obtain ⟨hnFinite, hnReal⟩ := toReal_ofNat (hfew.trans (by norm_num))
  obtain ⟨hlimitFinite, hlimitReal⟩ := toReal_ofNat (n := tileLimit) (by norm_num [tileLimit])
  have hquotient := hextent.div_finite h.finite h.pos h.least h.greatest
  have hmem := hquotient.toReal_mem
  rw [toReal_zero, hnReal] at hmem
  have hlt : toReal (extent / spacing) < 2 ^ 23 := lt_of_le_of_lt hmem.2 (by exact_mod_cast hfew)
  obtain ⟨hceil, hceilReal⟩ := toReal_ceil hquotient.finite hmem.1 hlt
  have hcount : Within 0 (Float32.ofNat n) (Scalar.max (ceil (extent / spacing)) 1) := by
    refine within_max (.of_toReal finite_zero hnFinite hceil ?_)
      (.of_toReal finite_zero hnFinite toReal_one.1 ?_)
    · rw [toReal_zero, hnReal, hceilReal]
      exact ⟨Nat.cast_nonneg _, by exact_mod_cast Nat.ceil_le.2 hmem.2⟩
    · rw [toReal_zero, hnReal, toReal_one.2]
      exact ⟨zero_le_one, by exact_mod_cast h.one_le⟩
  have hcountMem := hcount.toReal_mem
  rw [toReal_zero, hnReal] at hcountMem
  refine ⟨Scalar.whole (Scalar.max (ceil (extent / spacing)) 1), ?_, ?_⟩
  · have hwhole : (Scalar.max (ceil (extent / spacing)) 1).toUInt64.toNat = _ :=
      toNat_toUInt64 hcount.finite hcountMem.1
        (hcountMem.2.trans_lt (by exact_mod_cast hfew.trans (by norm_num)))
    change (Scalar.max (ceil (extent / spacing)) 1).toUInt64.toNat ≤ n
    rw [hwhole]
    exact Nat.floor_le_of_le hcountMem.2
  · have hle : Scalar.max (ceil (extent / spacing)) 1 ≤ Float32.ofNat tileLimit := by
      rw [le_iff_toReal hcount.finite hlimitFinite, hlimitReal]
      exact hcountMem.2.trans (by exact_mod_cast h.le_limit)
    have hfinite : Scalar.isFinite (Scalar.max (ceil (extent / spacing)) 1) = true := hcount.finite
    simp only [tileCount, if_pos h.pos]
    exact if_pos ⟨hfinite, hle⟩

/-! ## Rules -/

variable [Trigonometry Float32]

namespace Rule

variable {r : Rule Float32}

/-- Where every draw selects an action, one of the actions is run. -/
theorem exists_apply_of_select (hne : r.actions ≠ [])
    (hsum : ¬ (r.probabilitySum ≤ 0 ∨ 1 + 1e-5 < r.probabilitySum))
    (hselect : ∀ u, Within 0 RandomStream.greatestUnit u → ∃ action ∈ r.actions,
      r.select u = some action) (d : Derivation Float32) (target : Shape Float32) :
    ∃ action ∈ r.actions, ∃ stream, r.apply d target = action.run { d with stream } target := by
  obtain ⟨u, stream, hu⟩ : ∃ u stream, (d.stream.unit : Float32 × RandomStream) = (u, stream) :=
    ⟨_, _, rfl⟩
  have hunit := d.stream.unit_within
  rw [hu] at hunit
  obtain ⟨action, hmem, hselect⟩ := hselect u hunit
  refine ⟨action, hmem, stream, ?_⟩
  have hactions : ¬ (r.conditions.isEmpty ∧ r.actions.isEmpty) := by simp [hne]
  simp only [apply, if_neg hactions, if_neg hsum, hu, hselect]

/-- A certain action is run. -/
theorem exists_apply {items : List (Item (Operation Float32))} (h : r.actions = [⟨1, items⟩])
    (d : Derivation Float32) (target : Shape Float32) :
    ∃ stream, r.apply d target = Action.runItems items { d with stream } target := by
  have hsum : r.probabilitySum = Scalar.sum [1] := by rw [probabilitySum, h]; rfl
  have hselect (u : Float32) (hu : Within 0 RandomStream.greatestUnit u) :
      ∃ action ∈ r.actions, r.select u = some action := by
    have hlt : u < slack + 1 := Scalar.Ordered.lt_of_le_of_lt hu.2.2 (by decide +kernel)
    exact ⟨⟨1, items⟩, by simp [h], by rw [select, h, selectFrom, if_pos ⟨hu.2.1, hlt⟩]⟩
  obtain ⟨action, hmem, stream, happly⟩ := exists_apply_of_select (by simp [h])
    (by rw [hsum]; decide +kernel) hselect d target
  rw [h, List.mem_singleton] at hmem
  subst hmem
  exact ⟨stream, happly⟩

/-- One of two actions is run. -/
theorem exists_apply_pair {p q : Float32} {items items' : List (Item (Operation Float32))}
    (h : r.actions = [⟨p, items⟩, ⟨q, items'⟩])
    (hsum : ¬ (Scalar.sum [p, q] ≤ 0 ∨ 1 + 1e-5 < Scalar.sum [p, q])) (hp : Finite (slack + p))
    (hq : RandomStream.greatestUnit < slack + p + q) (d : Derivation Float32)
    (target : Shape Float32) :
    ∃ stream, r.apply d target = Action.runItems items { d with stream } target ∨
      r.apply d target = Action.runItems items' { d with stream } target := by
  have hsum' : r.probabilitySum = Scalar.sum [p, q] := by rw [probabilitySum, h]; rfl
  have hselect (u : Float32) (hu : Within 0 RandomStream.greatestUnit u) :
      ∃ action ∈ r.actions, r.select u = some action := by
    have hlt : u < slack + p + q := Scalar.Ordered.lt_of_le_of_lt hu.2.2 hq
    rw [select, h, selectFrom]
    by_cases hfirst : u < slack + p
    · exact ⟨_, by simp, if_pos ⟨hu.2.1, hfirst⟩⟩
    · have hle : slack + p ≤ u := by
        rw [lt_iff_toReal hu.finite hp, not_lt] at hfirst
        exact (le_iff_toReal hp hu.finite).2 hfirst
      rw [if_neg (fun hboth => hfirst hboth.2), selectFrom]
      exact ⟨_, by simp, if_pos ⟨hle, hlt⟩⟩
  obtain ⟨action, hmem, stream, happly⟩ := exists_apply_of_select (by simp [h])
    (by rw [hsum']; exact hsum) hselect d target
  rw [h, List.mem_pair] at hmem
  rcases hmem with rfl | rfl
  · exact ⟨stream, .inl happly⟩
  · exact ⟨stream, .inr happly⟩

end Rule

namespace RuleSet

variable {κ : Type} {is : κ → Shape Float32 → Prop} {kinds : List κ} {names : List String}
  {d : Derivation Float32} {target : Shape Float32} {r : Rule Float32} {rest : List (Rule Float32)}

/-- The rule that matches rewrites the shape. -/
theorem rewriteBy_yields {items : List (Item (Operation Float32))}
    (hmatch : r.matchShape d target = (.ok true, d.stream)) (hactions : r.actions = [⟨1, items⟩])
    (h : ∀ d, (Action.runItems items d target).Yields is kinds names d) :
    (rewriteBy (r :: rest) d target).2.Yields is kinds names d := by
  obtain ⟨stream, happly⟩ := Rule.exists_apply hactions d target
  rw [rewriteBy, hmatch]
  change (r.apply d target).Yields is kinds names d
  rw [happly]
  exact (h _).withStream

/-- One of the two actions of the rule that matches rewrites the shape. -/
theorem rewriteBy_choice_yields {p q : Float32} {items items' : List (Item (Operation Float32))}
    {kinds' : List κ} {names' : List String} (hmatch : r.matchShape d target = (.ok true, d.stream))
    (hactions : r.actions = [⟨p, items⟩, ⟨q, items'⟩])
    (hsum : ¬ (Scalar.sum [p, q] ≤ 0 ∨ 1 + 1e-5 < Scalar.sum [p, q])) (hp : Finite (Rule.slack + p))
    (hq : RandomStream.greatestUnit < Rule.slack + p + q)
    (h : ∀ d, (Action.runItems items d target).Yields is kinds names d)
    (h' : ∀ d, (Action.runItems items' d target).Yields is kinds' names' d) :
    (rewriteBy (r :: rest) d target).2.Yields is kinds names d ∨
      (rewriteBy (r :: rest) d target).2.Yields is kinds' names' d := by
  obtain ⟨stream, happly⟩ := Rule.exists_apply_pair hactions hsum hp hq d target
  rw [rewriteBy, hmatch]
  change (r.apply d target).Yields is kinds names d ∨ (r.apply d target).Yields is kinds' names' d
  obtain happly | happly := happly
  · exact .inl (happly ▸ (h _).withStream)
  · exact .inr (happly ▸ (h' _).withStream)

/-- A rule that does not match leaves the shape to the next one. -/
theorem rewriteBy_skip_yields (hmatch : r.matchShape d target = (.ok false, d.stream))
    (h : (rewriteBy rest d target).2.Yields is kinds names d) :
    (rewriteBy (r :: rest) d target).2.Yields is kinds names d := by
  rw [rewriteBy, hmatch]
  exact h

theorem rewriteBy_always_yields {symbol : String} {items : List (Item (Operation Float32))}
    (hsymbol : target.symbol = some symbol)
    (h : ∀ d, (Action.runItems items d target).Yields is kinds names d) :
    (rewriteBy (.always symbol items :: rest) d target).2.Yields is kinds names d :=
  rewriteBy_yields (Rule.matchShape_always _ (by simp [Shape.hasSymbol, hsymbol]) d) rfl h

theorem rewrite_yields {rules : RuleSet Float32} {symbol : String} {l : List (Rule Float32)}
    (hsymbol : target.symbol = some symbol)
    (hrules : rules.levels.flatten.filter (·.symbol == symbol) = l)
    (h : (rewriteBy l d target).2.Yields is kinds names d) :
    (rules.rewrite d target).2.Yields is kinds names d := by
  rw [rewrite, rewriteBy_filter hsymbol, hrules]
  exact h

end RuleSet

/-- A rule without conditions matches every shape of its symbol. -/
theorem Rule.matchShape_unconditional {r : Rule Float32} {d : Derivation Float32}
    {target : Shape Float32} (hr : r.conditions = []) (hsymbol : target.symbol = some r.symbol) :
    r.matchShape d target = (.ok true, d.stream) := by
  rw [matchShape, if_pos (by simp [Shape.hasSymbol, hsymbol]), hr, checkAll]

/-- A rule with one condition matches where it holds. -/
theorem Rule.matchShape_condition {r : Rule Float32} {c : Condition Float32}
    {d : Derivation Float32} {target : Shape Float32} {b : Bool} (hr : r.conditions = [c])
    (hsymbol : target.symbol = some r.symbol) (hc : c.evaluate d target = (.ok b, d.stream)) :
    r.matchShape d target = (.ok b, d.stream) := by
  rw [matchShape, if_pos (by simp [Shape.hasSymbol, hsymbol]), hr, checkAll]
  cases b <;> simp [hc, checkAll]

/-- Whether a shape is visible decides the condition. -/
theorem evaluate_visible (d : Derivation Float32) (target : Shape Float32) :
    Catalog.visible.evaluate d target = (.ok target.isVisible, d.stream) := by
  cases hvisible : target.isVisible <;>
    simp [Catalog.visible, Condition.evaluate, Query.answer, Condition.judgeTruth, hvisible]

/-- Where the walks over the parents end, it is decided whether a shape is clear. -/
theorem exists_evaluate_clear {d : Derivation Float32} {target : Shape Float32}
    (h : ∀ id, ∃ b, d.isLineage target id = .ok b) :
    ∃ b, Catalog.clear.evaluate d target = (.ok b, d.stream) := by
  have hadmits (other : Shape Float32) :
      ∃ b, ShapeFilter.noParent.admits d target other = .ok b := by
    cases hid : other.id with
    | none => exact ⟨true, by simp [ShapeFilter.admits, hid]⟩
    | some id =>
      obtain ⟨b, hb⟩ := h id
      exact ⟨!b, by simp [ShapeFilter.admits, hid, hb, Except.map]⟩
  have hcover (others : List (Shape Float32)) :
      ∃ c, coverBy d target .noParent others = .ok c := by
    induction others with
    | nil => exact ⟨_, rfl⟩
    | cons other others ih =>
      obtain ⟨b, hb⟩ := hadmits other
      simp only [coverBy, hb]
      split
      · exact ih
      · cases b with
        | false => exact ih
        | true =>
          cases other.covers target with
          | none => exact ih
          | full | part => exact ⟨_, rfl⟩
  obtain ⟨c, hc⟩ := hcover d.shapes.toList
  refine ⟨(c.code : Float32) == Cover.none.code, ?_⟩
  have hanswer : Query.answer d target (.cover .noParent) =
      .ok (some (.number (c.code : Float32))) := by
    simp only [Query.answer, firstCover, hc]
    rfl
  simp only [Catalog.clear, Condition.evaluate, hanswer]
  rfl

end Grammar

end Cityscape
