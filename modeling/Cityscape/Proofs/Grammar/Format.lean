import Cityscape.Grammar.Decode
import Cityscape.Proofs.Json.Writing
import Cityscape.Shortest

/-!
# Rule sets survive their texts

A rule set that is written as JSON and read again is the same rule set. Numbers have to survive
their spelling, a filter for a symbol must not bear the name of another filter, and the text must
not be nested deeper than texts may be.

## Main definitions

* `RuleSet.numbers`, `RuleSet.filters` — the numbers and the filters of a rule set.
* `Survives` — a number is spelled so that it is read as itself.
* `respelled?`, `spellShortest` — what is read of a spelling, and the spelling by shortest decimals.
* `ShapeFilter.IsReserved` — a filter for a symbol with the name of another filter.
* `ComesBack` — a form is read as what it was written from.

## Main statements

* `ShapeFilter.ofText_text_eq_self_iff` — the filters that survive their texts.
* `Value.comesBack`, `Operation.comesBack`, `Rule.comesBack` — the parts of a rule set.
* `RuleSet.ofText?_write_toJson` — rule sets.
-/

namespace Cityscape.Grammar

open Json

variable {α : Type}

/-! ## Numbers and filters -/

def Value.numbers : Value α → List α
  | number _ v => [v]
  | operation _ _ lhs rhs => lhs.numbers ++ rhs.numbers
  | random _ low high => low.numbers ++ high.numbers
  | scope .. | cover .. => []

namespace Operation

mutual

def numbers : Operation α → List α
  | component _ parameters _ => parameters.flatMap Value.numbers
  | tile _ values _ => values.flatMap Value.numbers
  | subdivide _ values items => values.flatMap Value.numbers ++ slotNumbers items
  | move values | resize values => values.flatMap Value.numbers
  | turn x y z => (x.toList ++ y.toList ++ z.toList).flatMap Value.numbers
  | roof _ angle _ => angle.numbers
  | save | restore | model _ => []

def allNumbers : List (Operation α) → List α
  | [] => []
  | f :: rest => f.numbers ++ allNumbers rest

def itemNumbers : Item (Operation α) → List α
  | ⟨operations, _⟩ => allNumbers operations

def slotNumbers : List (Option (Item (Operation α))) → List α
  | [] => []
  | none :: rest => slotNumbers rest
  | some item :: rest => itemNumbers item ++ slotNumbers rest

end

theorem itemNumbers_eq_flatMap (item : Item (Operation α)) :
    itemNumbers item = item.operations.flatMap numbers := by
  obtain ⟨fs, output⟩ := item
  rw [itemNumbers]
  induction fs with
  | nil => rfl
  | cons f fs ih => rw [allNumbers, ih, List.flatMap_cons]

end Operation

def vectorNumbers (v : Vec3 α) : List α := [v.x, v.y, v.z]

def Shape.numbers (s : Shape α) : List α :=
  vectorNumbers s.scope.position ++ vectorNumbers s.scope.size ++ vectorNumbers s.rotation

def Condition.numbers (c : Condition α) : List α := c.value.toList.flatMap Value.numbers

def Action.numbers (a : Action α) : List α :=
  a.probability :: a.items.flatMap Operation.itemNumbers

def Rule.numbers (r : Rule α) : List α :=
  r.conditions.flatMap Condition.numbers ++ r.actions.flatMap Action.numbers

/-- The numbers of a rule set. -/
def RuleSet.numbers (r : RuleSet α) : List α :=
  r.start.toList.flatMap Shape.numbers ++ r.levels.flatten.flatMap Rule.numbers

/-- The filter that a query looks through. -/
def Query.filter? : Query → Option ShapeFilter
  | visible | parent => none
  | cover filter => some filter

def Rule.filters (r : Rule α) : List ShapeFilter := r.conditions.filterMap (·.query.filter?)

/-- The filters of a rule set. -/
def RuleSet.filters (r : RuleSet α) : List ShapeFilter := r.levels.flatten.flatMap Rule.filters

/-! ## Names -/

@[simp] theorem ofName?_axisName (axis : Axis) : axisOfName? (axisName axis) = some axis := by
  cases axis <;> rfl

@[simp] theorem ScopeProperty.ofName?_name (p : ScopeProperty) : ofName? p.name = some p := by
  cases p <;> rfl

@[simp] theorem Operator.ofName?_name (o : Operator) : ofName? o.name = some o := by
  cases o <;> rfl

@[simp] theorem Cover.ofName?_name (c : Cover) : Cover.ofName? c.name = some c := by
  cases c <;> rfl

@[simp] theorem Relation.ofName?_name (r : Relation) : ofName? r.name = some r := by
  cases r <;> rfl

@[simp] theorem ComponentKind.ofName?_name (k : ComponentKind) : ofName? k.name = some k := by
  cases k <;> rfl

@[simp] theorem RoofKind.ofName?_name (k : RoofKind) : ofName? k.name = some k := by
  cases k <;> rfl

@[simp] theorem case?_string {β : Type} (ofName? : String → Option β) (s : String) :
    case? ofName? (.string s) = ofName? s := rfl

/-- A filter for a symbol that bears the name of another filter. -/
def ShapeFilter.IsReserved : ShapeFilter → Prop
  | symbol name => name ∈ ["all", "noparent", "active"]
  | all | noParent | active => False

/-- The filters that survive their texts are those that are not reserved. -/
theorem ShapeFilter.ofText_text_eq_self_iff (f : ShapeFilter) :
    ofText f.text = f ↔ ¬ f.IsReserved := by
  cases f with
  | symbol name =>
    simp only [text, IsReserved, List.mem_cons, List.not_mem_nil, or_false]
    unfold ofText
    split <;> simp_all
  | _ => simp [ofText, text, IsReserved]

/-! ## Forms that come back -/

/-- A number has a written form, as finite numbers have, and its spelling is read as the number. -/
def Survives [OfNumeral α] (spell : Numeral → String) (a : α) : Prop :=
  ∃ n n', OfNumeral.toNumeral? a = some n ∧
    Reader.number (spell n).toList = some (.number n', []) ∧ OfNumeral.ofNumeral n' = a

/-- What a number is read as when it was spelled. -/
def respelled? [OfNumeral α] (spell : Numeral → String) (a : α) : Option α :=
  match (OfNumeral.toNumeral? a).bind fun n => Reader.number (spell n).toList with
  | some (.number n', []) => some (OfNumeral.ofNumeral n')
  | _ => none

theorem survives_iff [OfNumeral α] {spell : Numeral → String} {a : α} :
    Survives spell a ↔ respelled? spell a = some a := by
  unfold Survives respelled?
  constructor
  · rintro ⟨n, n', hn, hread, ha⟩
    rw [hn, Option.bind_some, hread]
    exact congrArg some ha
  · intro h
    split at h
    next n' hread =>
      obtain ⟨n, hn, hread⟩ := Option.bind_eq_some_iff.1 hread
      exact ⟨n, n', hn, hread, Option.some.inj h⟩
    · cases h

instance [OfNumeral α] [DecidableEq α] (spell : Numeral → String) (a : α) :
    Decidable (Survives spell a) :=
  decidable_of_iff _ survives_iff.symm

/-- A form is readable, and when it is nested as deeply as may be it is read as what it was written
from. -/
structure ComesBack {β : Type} (spell : Numeral → String) (decode : Nat → Json → Option β)
    (j : Json) (b : β) : Prop where
  readable : IsReadable spell j
  decode {m n : Nat} : j.isUsable m = true → m ≤ n → decode n (reread spell j) = some b

section

variable {spell : Numeral → String} {β : Type} {decode : Nat → Json → Option β}

/-- A record comes back when its members tell what it was written from. Its members are nested one
level less than it is. -/
theorem ComesBack.object {ms : List (String × Json)} {b : β}
    (hreadable : MembersReadable spell ms)
    (hdecode : ∀ m n, membersUsable m ms = true → m ≤ n →
      decode (n + 1) (.object (rereadMembers spell ms)) = some b) :
    ComesBack spell decode (.object ms) b where
  readable := hreadable
  decode {m n} hu hmn := by
    obtain ⟨hm, hms⟩ : 0 < m ∧ membersUsable (m - 1) ms = true := by simpa [isUsable] using hu
    obtain ⟨k, rfl⟩ : ∃ k, n = k + 1 := ⟨n - 1, by omega⟩
    exact hdecode (m - 1) k hms (by omega)

/-- A form that comes back does so when it is first taken in as a whole. -/
theorem ComesBack.usable {j : Json} {b : β} (h : ComesBack spell decode j b) :
    ComesBack spell (fun n j => if j.isUsable n then decode n j else none) j b where
  readable := h.readable
  decode {m n} hu hmn := by
    rw [if_pos (isUsable_reread hmn j hu)]
    exact h.decode hu hmn

/-- A list comes back when its elements do. -/
theorem ComesBack.list {encode : β → Json} {xs : List β}
    (h : ∀ x ∈ xs, ComesBack spell decode (encode x) x) :
    ComesBack spell (fun n => list? (decode (n - 1))) (.array (xs.map encode)) xs where
  readable := by
    simp only [IsReadable, allReadable_iff, List.mem_map]
    rintro _ ⟨x, hx, rfl⟩
    exact (h x hx).readable
  decode {m n} hu hmn := by
    simp only [isUsable, Bool.and_eq_true, allUsable_iff, List.mem_map] at hu
    have helements : ∀ x ∈ xs, decode (n - 1) (reread spell (encode x)) = some x := fun x hx =>
      (h x hx).decode (hu.2 _ ⟨x, hx, rfl⟩) (Nat.sub_le_sub_right hmn 1)
    simp only [reread, rereadAll_eq_map, list?, elements?, List.map_map, Option.bind_eq_bind,
      Option.bind_some]
    clear h hu
    induction xs with
    | nil => rfl
    | cons x xs ih =>
      have hrest := ih fun y hy => helements y (List.mem_cons_of_mem x hy)
      simp [helements x List.mem_cons_self, hrest]

/-- A value that may be missing comes back when it does as a value that is there, unless its form is
null. -/
theorem ComesBack.option {encode : β → Json} {x : Option β}
    (h : ∀ b ∈ x, ComesBack spell decode (encode b) b) (hnull : ∀ b, encode b ≠ .null) :
    ComesBack spell (fun n => orNull? (decode n)) (jsonOfOption encode x) x := by
  cases x with
  | none => exact ⟨trivial, fun _ _ => rfl⟩
  | some b =>
    have hb := h b rfl
    refine ⟨hb.readable, fun hu hmn => ?_⟩
    have hread := hb.decode hu hmn
    simp only [jsonOfOption]
    unfold orNull?
    split
    next hj =>
      refine absurd ?_ (hnull b)
      cases he : encode b <;> simp_all [reread]
    next => rw [hread]; rfl

theorem comesBack_string (s : String) : ComesBack spell (fun _ => string?) (.string s) s :=
  ⟨trivial, fun _ _ => rfl⟩

section

variable (spell)

theorem comesBack_bools (bs : List Bool) :
    ComesBack spell (fun _ => list? bool?) (.array (bs.map .bool)) bs := by
  have hbools : ∀ b ∈ bs, ComesBack spell (fun _ => bool?) (.bool b) b :=
    fun _ _ => ⟨trivial, fun _ _ => rfl⟩
  exact ComesBack.list hbools

theorem comesBack_output (output : Option String) :
    ComesBack spell (fun _ => orNull? string?) (jsonOfOption .string output) output := by
  have hstring : ∀ s ∈ output, ComesBack spell (fun _ => string?) (.string s) s :=
    fun s _ => comesBack_string s
  exact ComesBack.option hstring (by simp)

theorem comesBack_strings (xs : List String) :
    ComesBack spell (fun _ => list? string?) (jsonOfStrings xs) xs := by
  have hstrings : ∀ s ∈ xs, ComesBack spell (fun _ => string?) (.string s) s :=
    fun s _ => comesBack_string s
  exact ComesBack.list hstrings

end

end

variable [OfNumeral α] {spell : Numeral → String}

theorem comesBack_scalar {a : α} (h : Survives spell a) :
    ComesBack spell (fun _ => scalar?) (jsonOfScalar a) a := by
  obtain ⟨n, n', hwritten, hread, hback⟩ := h
  refine ⟨?_, fun _ _ => ?_⟩
  · simp only [jsonOfScalar, hwritten]
    exact ⟨n', hread⟩
  · simp [jsonOfScalar, hwritten, reread, Numeral.reread, hread, scalar?, hback]

theorem comesBack_vec3 {v : Vec3 α} (h : ∀ a ∈ vectorNumbers v, Survives spell a) :
    ComesBack spell (fun _ => vec3?) (jsonOfVec3 v) v := by
  have hx := comesBack_scalar (h v.x (by simp [vectorNumbers]))
  have hy := comesBack_scalar (h v.y (by simp [vectorNumbers]))
  have hz := comesBack_scalar (h v.z (by simp [vectorNumbers]))
  refine ⟨⟨hx.readable, hy.readable, hz.readable, trivial⟩, fun {m n} hu hmn => ?_⟩
  simp only [jsonOfVec3, isUsable, allUsable, Bool.and_eq_true] at hu
  have hle := Nat.sub_le_sub_right hmn 1
  simp [jsonOfVec3, reread, rereadAll, vec3?, hx.decode hu.2.1 hle, hy.decode hu.2.2.1 hle,
    hz.decode hu.2.2.2.1 hle]

section

-- The members of a record are looked up one by one.
attribute [local simp] rereadMembers membersUsable MembersReadable members? member? required?
  orDefault? optional? tag? bool? string?

/-! ## Values -/

namespace Value

theorem toJson_ne_null (v : Value α) : v.toJson ≠ .null := by
  cases v <;> simp [toJson]

/-- A value comes back when its numbers survive. -/
theorem comesBack (v : Value α) (h : ∀ a ∈ v.numbers, Survives spell a) :
    ComesBack spell ofJson? v.toJson v := by
  induction v with
  | number relative a =>
    have ha := comesBack_scalar (h a (by simp [numbers]))
    refine .object (by simp [ha.readable]) fun m n hu hmn => ?_
    simp only [membersUsable, Bool.and_eq_true] at hu
    simp [ofJson?, ha.decode hu.2.1 hmn]
  | operation relative operator lhs rhs ihl ihr =>
    have hl := ihl fun a ha => h a (by simp [numbers, ha])
    have hr := ihr fun a ha => h a (by simp [numbers, ha])
    refine .object (by simp [hl.readable, hr.readable]) fun m n hu hmn => ?_
    simp only [membersUsable, Bool.and_eq_true] at hu
    simp [ofJson?, hl.decode hu.2.2.1 hmn, hr.decode hu.2.2.2.1 hmn]
  | random relative low high ihl ihh =>
    have hl := ihl fun a ha => h a (by simp [numbers, ha])
    have hh := ihh fun a ha => h a (by simp [numbers, ha])
    refine .object (by simp [hl.readable, hh.readable]) fun m n hu hmn => ?_
    simp only [membersUsable, Bool.and_eq_true] at hu
    simp [ofJson?, hl.decode hu.2.1 hmn, hh.decode hu.2.2.1 hmn]
  | scope relative property axis =>
    exact .object (by simp) fun m n hu hmn => by simp [ofJson?]
  | cover relative result =>
    exact .object (by simp) fun m n hu hmn => by simp [ofJson?]

/-- A list of values comes back; its elements are nested one level less. -/
theorem comesBack_list {vs : List (Value α)} (h : ∀ a ∈ vs.flatMap numbers, Survives spell a) :
    ComesBack spell (fun n => list? (ofJson? (n - 1))) (jsonOfValues vs) vs :=
  .list fun v hv => v.comesBack fun a ha => h a (List.mem_flatMap.2 ⟨v, hv, ha⟩)

theorem comesBack_option {v : Option (Value α)}
    (h : ∀ a ∈ v.toList.flatMap numbers, Survives spell a) :
    ComesBack spell (fun n => orNull? (ofJson? n)) (jsonOfOption toJson v) v := by
  refine .option (fun b hb => b.comesBack fun a ha => h a ?_) toJson_ne_null
  exact List.mem_flatMap.2 ⟨b, Option.mem_toList.2 hb, ha⟩

end Value

/-! ## Conditions -/

/-- A condition comes back when the numbers of its value survive and its filter is not reserved. -/
theorem Condition.comesBack (c : Condition α) (h : ∀ a ∈ c.numbers, Survives spell a)
    (hfilter : ∀ f ∈ c.query.filter?, ¬ f.IsReserved) :
    ComesBack spell Condition.decode? c.toJson c := by
  obtain ⟨query, relation, value⟩ := c
  have hvalue := Value.comesBack_option h
  refine ComesBack.usable ?_
  cases query with
  | visible =>
    refine .object (by simp [hvalue.readable]) fun m n hu hmn => ?_
    simp only [List.cons_append, List.nil_append, membersUsable, Bool.and_eq_true] at hu
    simp [Query.ofMembers?, hvalue.decode hu.2.2.1 hmn]
  | parent =>
    refine .object (by simp [hvalue.readable]) fun m n hu hmn => ?_
    simp only [List.cons_append, List.nil_append, membersUsable, Bool.and_eq_true] at hu
    simp [Query.ofMembers?, hvalue.decode hu.2.2.1 hmn]
  | cover filter =>
    have htext := filter.ofText_text_eq_self_iff.2 (hfilter filter rfl)
    refine .object (by simp [hvalue.readable]) fun m n hu hmn => ?_
    simp only [List.cons_append, List.nil_append, membersUsable, Bool.and_eq_true] at hu
    simp [Query.ofMembers?, htext, hvalue.decode hu.2.2.2.1 hmn]

/-! ## Operations -/

namespace Operation

theorem allToJson_eq_map (fs : List (Operation α)) : allToJson fs = fs.map toJson := by
  induction fs with
  | nil => rfl
  | cons f fs ih => rw [allToJson, ih, List.map_cons]

theorem slotsToJson_eq_map (items : List (Option (Item (Operation α)))) :
    slotsToJson items = items.map (jsonOfOption itemToJson) := by
  induction items with
  | nil => rfl
  | cons item items ih => cases item <;> rw [slotsToJson, ih] <;> rfl

theorem itemToJson_ne_null (item : Item (Operation α)) : itemToJson item ≠ .null := by
  obtain ⟨operations, output⟩ := item
  simp [itemToJson]

mutual

/-- An operation comes back when its numbers survive. -/
theorem comesBack (f : Operation α) (h : ∀ a ∈ f.numbers, Survives spell a) :
    ComesBack spell ofJson? f.toJson f := by
  match f with
  | component kind parameters symbols =>
    have hparameters := Value.comesBack_list h
    have hsymbols := comesBack_strings spell symbols
    refine .object (by simp [hparameters.readable, hsymbols.readable]) fun m n hu hmn => ?_
    simp only [membersUsable, Bool.and_eq_true] at hu
    simp [ofJson?, hparameters.decode hu.2.2.1 hmn, hsymbols.decode hu.2.2.2.1 hmn]
  | tile axes values symbols =>
    have haxes := comesBack_bools spell axes
    have hvalues := Value.comesBack_list h
    have hsymbols := comesBack_strings spell symbols
    refine .object (by simp [haxes.readable, hvalues.readable, hsymbols.readable])
      fun m n hu hmn => ?_
    simp only [membersUsable, Bool.and_eq_true] at hu
    simp [ofJson?, haxes.decode hu.2.1 hmn, hvalues.decode hu.2.2.1 hmn,
      hsymbols.decode hu.2.2.2.1 hmn]
  | subdivide axis values items =>
    have hvalues := Value.comesBack_list fun a ha => h a (List.mem_append_left _ ha)
    have hitems := comesBack_slots items fun a ha => h a (List.mem_append_right _ ha)
    have hslots := ComesBack.list hitems
    rw [← slotsToJson_eq_map] at hslots
    refine .object (by simp [hvalues.readable, hslots.readable]) fun m n hu hmn => ?_
    simp only [membersUsable, Bool.and_eq_true] at hu
    have hpos : 0 < m := by
      have hlist := hu.2.2.2.1
      simp only [isUsable, Bool.and_eq_true, decide_eq_true_eq] at hlist
      exact hlist.1
    have hread := hslots.decode hu.2.2.2.1 hmn
    rw [Nat.sub_add_cancel (Nat.lt_of_lt_of_le hpos hmn)] at hread
    simp [ofJson?, hvalues.decode hu.2.2.1 hmn, hread]
  | move values =>
    have hvalues := Value.comesBack_list h
    refine .object (by simp [hvalues.readable]) fun m n hu hmn => ?_
    simp only [membersUsable, Bool.and_eq_true] at hu
    simp [ofJson?, hvalues.decode hu.2.1 hmn]
  | resize values =>
    have hvalues := Value.comesBack_list h
    refine .object (by simp [hvalues.readable]) fun m n hu hmn => ?_
    simp only [membersUsable, Bool.and_eq_true] at hu
    simp [ofJson?, hvalues.decode hu.2.1 hmn]
  | turn x y z =>
    have hx := Value.comesBack_option (v := x) fun a ha => h a (by simp_all [numbers])
    have hy := Value.comesBack_option (v := y) fun a ha => h a (by simp_all [numbers])
    have hz := Value.comesBack_option (v := z) fun a ha => h a (by simp_all [numbers])
    refine .object (by simp [hx.readable, hy.readable, hz.readable]) fun m n hu hmn => ?_
    simp only [membersUsable, Bool.and_eq_true] at hu
    simp [ofJson?, hx.decode hu.2.1 hmn, hy.decode hu.2.2.1 hmn, hz.decode hu.2.2.2.1 hmn]
  | save => exact .object (by simp) fun m n hu hmn => by simp [ofJson?]
  | restore => exact .object (by simp) fun m n hu hmn => by simp [ofJson?]
  | roof kind angle output =>
    have hangle := angle.comesBack h
    refine .object (by simp [hangle.readable]) fun m n hu hmn => ?_
    simp only [membersUsable, Bool.and_eq_true] at hu
    simp [ofJson?, hangle.decode hu.2.2.1 hmn]
  | model name => exact .object (by simp) fun m n hu hmn => by simp [ofJson?]

theorem comesBack_all (fs : List (Operation α)) (h : ∀ a ∈ allNumbers fs, Survives spell a) :
    ∀ f ∈ fs, ComesBack spell ofJson? f.toJson f := by
  match fs with
  | [] => exact fun f hf => absurd hf List.not_mem_nil
  | f :: fs =>
    have hf := comesBack f fun a ha => h a (List.mem_append_left _ ha)
    have hfs := comesBack_all fs fun a ha => h a (List.mem_append_right _ ha)
    exact List.forall_mem_cons.2 ⟨hf, hfs⟩

/-- An item comes back; it is read with the level of the list around it. -/
theorem comesBack_item (item : Item (Operation α))
    (h : ∀ a ∈ itemNumbers item, Survives spell a) :
    ComesBack spell (fun n => itemOfJson? (n + 1)) (itemToJson item) item := by
  match item with
  | ⟨fs, output⟩ =>
    have hfs := ComesBack.list (comesBack_all fs h)
    rw [← allToJson_eq_map] at hfs
    have houtput := comesBack_output spell output
    refine .object (by simp [hfs.readable, houtput.readable]) fun m n hu hmn => ?_
    simp only [membersUsable, Bool.and_eq_true] at hu
    -- Operations may be nested two levels deeper than their item allows them to be.
    have hread : list? (ofJson? (n + 1)) (reread spell (.array (allToJson fs))) = some fs :=
      hfs.decode hu.1 (Nat.le_add_right_of_le hmn : m ≤ n + 2)
    simp [itemOfJson?, houtput.decode hu.2.1 hmn, hread]

theorem comesBack_slots (items : List (Option (Item (Operation α))))
    (h : ∀ a ∈ slotNumbers items, Survives spell a) :
    ∀ item ∈ items, ComesBack spell (fun n => orNull? (itemOfJson? (n + 1)))
      (jsonOfOption itemToJson item) item := by
  match items with
  | [] => exact fun f hf => absurd hf List.not_mem_nil
  | none :: items =>
    have hvoid : ∀ item ∈ (none : Option (Item (Operation α))),
        ComesBack spell (fun n => itemOfJson? (n + 1)) (itemToJson item) item :=
      fun _ hitem => by cases hitem
    have hnone := ComesBack.option hvoid itemToJson_ne_null
    exact List.forall_mem_cons.2 ⟨hnone, comesBack_slots items h⟩
  | some item :: items =>
    have hitem := comesBack_item item fun a ha => h a (List.mem_append_left _ ha)
    have hitems := comesBack_slots items fun a ha => h a (List.mem_append_right _ ha)
    refine List.forall_mem_cons.2 ⟨.option (fun b hb => ?_) itemToJson_ne_null, hitems⟩
    cases hb
    exact hitem

end

variable (spell) in
/-- An operation names its function. -/
theorem function_reread (f : Operation α) : ∃ ms, reread spell f.toJson = .object ms ∧
    ∃ name, required? "function" string? ms = some name := by
  cases f <;> exact ⟨_, rfl, by simp⟩

theorem comesBack_decode (f : Operation α) (h : ∀ a ∈ f.numbers, Survives spell a) :
    ComesBack spell decode? f.toJson f := by
  refine ComesBack.usable ⟨(f.comesBack h).readable, fun hu hmn => ?_⟩
  obtain ⟨ms, hms, name, hname⟩ := f.function_reread spell
  have hread := (f.comesBack h).decode hu hmn
  rw [hms] at hread ⊢
  exact Option.bind_eq_some_iff.2 ⟨ms, rfl, Option.bind_eq_some_iff.2 ⟨name, hname, hread⟩⟩

end Operation

/-! ## Rule sets -/

theorem Item.comesBack (item : Item (Operation α))
    (h : ∀ a ∈ Operation.itemNumbers item, Survives spell a) :
    ComesBack spell Item.decode? (Operation.itemToJson item) item := by
  rw [Operation.itemNumbers_eq_flatMap] at h
  obtain ⟨fs, output⟩ := item
  have hall : ∀ f ∈ fs, ComesBack spell Operation.decode? f.toJson f := fun f hf =>
    f.comesBack_decode fun a ha => h a (List.mem_flatMap.2 ⟨f, hf, ha⟩)
  have hfs := ComesBack.list hall
  rw [← Operation.allToJson_eq_map] at hfs
  have houtput := comesBack_output spell output
  refine .object (by simp [hfs.readable, houtput.readable]) fun m n hu hmn => ?_
  simp only [membersUsable, Bool.and_eq_true] at hu
  simp [Item.decode?, houtput.decode hu.2.1 hmn, hfs.decode hu.1 hmn]

theorem Scope.comesBack (s : Scope α)
    (h : ∀ a ∈ vectorNumbers s.position ++ vectorNumbers s.size, Survives spell a) :
    ComesBack spell (fun _ => Scope.decode?)
      (.object [("position", jsonOfVec3 s.position), ("size", jsonOfVec3 s.size)]) s := by
  have hposition := comesBack_vec3 fun a ha => h a (List.mem_append_left _ ha)
  have hsize := comesBack_vec3 fun a ha => h a (List.mem_append_right _ ha)
  refine .object (by simp [hposition.readable, hsize.readable]) fun m n hu hmn => ?_
  simp only [membersUsable, Bool.and_eq_true] at hu
  simp [Scope.decode?, hposition.decode hu.1 hmn, hsize.decode hu.2.1 hmn]

theorem Shape.comesBack [Scalar α] (s : Shape α) (h : ∀ a ∈ s.numbers, Survives spell a)
    (hfresh : s = .ofBox s.symbol s.box) : ComesBack spell (fun _ => Shape.decode?) s.toJson s := by
  have hsymbol := comesBack_output spell s.symbol
  have hscope := s.scope.comesBack fun a ha => h a (List.mem_append_left _ ha)
  have hrotation := comesBack_vec3 fun a ha => h a (List.mem_append_right _ ha)
  refine .object (by simp [hsymbol.readable, hscope.readable, hrotation.readable])
    fun m n hu hmn => ?_
  simp only [membersUsable, Bool.and_eq_true] at hu
  have hread : Shape.decode? (.object (rereadMembers spell
      [("symbol", jsonOfOption .string s.symbol),
        ("scope", .object [("position", jsonOfVec3 s.scope.position),
          ("size", jsonOfVec3 s.scope.size)]),
        ("rotation", jsonOfVec3 s.rotation)])) = some (.ofBox s.symbol s.box) := by
    simp [Shape.decode?, hsymbol.decode hu.1 hmn, hscope.decode hu.2.1 hmn,
      hrotation.decode hu.2.2.1 hmn, Shape.box]
  rwa [← hfresh] at hread

theorem Action.comesBack (a : Action α) (h : ∀ x ∈ a.numbers, Survives spell x) :
    ComesBack spell Action.decode? a.toJson a := by
  have hprobability := comesBack_scalar (h a.probability List.mem_cons_self)
  have hall : ∀ item ∈ a.items, ComesBack spell Item.decode? (Operation.itemToJson item) item :=
    fun item hitem => item.comesBack fun x hx =>
      h x (List.mem_cons_of_mem _ (List.mem_flatMap.2 ⟨item, hitem, hx⟩))
  have hitems := ComesBack.list hall
  refine .object (by simp [hprobability.readable, hitems.readable]) fun m n hu hmn => ?_
  simp only [membersUsable, Bool.and_eq_true] at hu
  simp [Action.decode?, hprobability.decode hu.1 hmn, hitems.decode hu.2.1 hmn]

theorem Rule.comesBack (r : Rule α) (h : ∀ a ∈ r.numbers, Survives spell a)
    (hfilters : ∀ f ∈ r.filters, ¬ f.IsReserved) :
    ComesBack spell Rule.decode? r.toJson r := by
  have hcondition : ∀ c ∈ r.conditions, ComesBack spell Condition.decode? c.toJson c := by
    refine fun c hc => c.comesBack (fun a ha => h a ?_) fun f hf => hfilters f ?_
    · exact List.mem_append_left _ (List.mem_flatMap.2 ⟨c, hc, ha⟩)
    · exact List.mem_filterMap.2 ⟨c, hc, hf⟩
  have haction : ∀ a ∈ r.actions, ComesBack spell Action.decode? a.toJson a := fun a ha =>
    a.comesBack fun x hx => h x (List.mem_append_right _ (List.mem_flatMap.2 ⟨a, ha, hx⟩))
  have hconditions := ComesBack.list hcondition
  have hactions := ComesBack.list haction
  refine .object (by simp [hconditions.readable, hactions.readable]) fun m n hu hmn => ?_
  simp only [membersUsable, Bool.and_eq_true] at hu
  simp [Rule.decode?, hconditions.decode hu.2.1 hmn, hactions.decode hu.2.2.1 hmn]

theorem comesBack_level (rules : List (Rule α))
    (h : ∀ r ∈ rules, ComesBack spell Rule.decode? r.toJson r) :
    ComesBack spell levelOfJson? (.object [("rules", .array (rules.map Rule.toJson))]) rules := by
  have hrules := ComesBack.list h
  refine .object (by simp [hrules.readable]) fun m n hu hmn => ?_
  simp only [membersUsable, Bool.and_eq_true] at hu
  simp [levelOfJson?, hrules.decode hu.1 hmn]

namespace RuleSet

/-- The rule set of a form that is nested at most `levels` deep. -/
def decode? [Scalar α] (levels : Nat) (j : Json) : Option (RuleSet α) := do
  let ms ← j.members?
  return ⟨← required? "name" string? ms, ← optional? "axiom" Shape.decode? ms,
    ← required? "priorities" (list? (levelOfJson? (levels - 2))) ms⟩

theorem ofJson?_eq_decode? [Scalar α] (j : Json) :
    (ofJson? j : Option (RuleSet α)) = decode? nestingLimit j := rfl

/-- A rule set comes back when its numbers survive, its filters are not reserved and its start has
no place in a derivation yet. -/
theorem comesBack [Scalar α] (r : RuleSet α) (h : ∀ a ∈ r.numbers, Survives spell a)
    (hfilters : ∀ f ∈ r.filters, ¬ f.IsReserved)
    (hstart : ∀ s ∈ r.start, s = .ofBox s.symbol s.box) :
    ComesBack spell decode? r.toJson r := by
  have hrule : ∀ rules ∈ r.levels, ∀ rule ∈ rules,
      ComesBack spell Rule.decode? rule.toJson rule := by
    intro rules hrules rule hmem
    have hmem : rule ∈ r.levels.flatten := List.mem_flatten.2 ⟨rules, hrules, hmem⟩
    refine rule.comesBack (fun a ha => h a ?_) fun f hf => hfilters f ?_
    · exact List.mem_append_right _ (List.mem_flatMap.2 ⟨rule, hmem, ha⟩)
    · exact List.mem_flatMap.2 ⟨rule, hmem, hf⟩
  have hlevels := ComesBack.list fun rules hrules => comesBack_level rules (hrule rules hrules)
  have hshape : ∀ s ∈ r.start, ComesBack spell (fun _ => Shape.decode?) s.toJson s := by
    refine fun s hs => s.comesBack (fun a ha => h a (List.mem_append_left _ ?_)) (hstart s hs)
    exact List.mem_flatMap.2 ⟨s, Option.mem_toList.2 hs, ha⟩
  have hbegin := ComesBack.option hshape (by simp [Shape.toJson])
  refine .object (by simp [hbegin.readable, hlevels.readable]) fun m n hu hmn => ?_
  simp only [membersUsable, Bool.and_eq_true] at hu
  simp [decode?, hbegin.decode hu.2.1 hmn, hlevels.decode hu.2.2.1 hmn]

end RuleSet

end

/-! ## Texts of rule sets -/

namespace RuleSet

/-- A rule set that is written as JSON and read again is the same rule set, however its numbers are
spelled as long as they survive. -/
theorem ofText?_write_toJson [Scalar α] (r : RuleSet α) (spell : Numeral → String)
    (h : ∀ a ∈ r.numbers, Survives spell a) (hfilters : ∀ f ∈ r.filters, ¬ f.IsReserved)
    (hstart : ∀ s ∈ r.start, s = .ofBox s.symbol s.box) (hdepth : r.toJson.depth ≤ nestingLimit) :
    ofText? (write spell r.toJson) = some r := by
  have hback := r.comesBack h hfilters hstart
  have husable := isUsable_of_depth_le r.toJson hback.readable hdepth
  rw [ofText?, Json.ofText?_write hback.readable]
  exact (ofJson?_eq_decode? _).trans (hback.decode husable (Nat.le_refl nestingLimit))

/-- Spells whole counts by their digits, and other numbers by the shortest decimal that stands for
them in single precision, with a digit behind the point. -/
def spellShortest : Numeral → String
  | .natural n => toString n
  | .negative n => "-" ++ toString n
  | .real x =>
    let text := Shortest.text (Single.ofDouble x)
    if '.' ∈ text.toList then text else text ++ ".0"

/-- A rule with a filter for a symbol, two weighted actions, an empty slot and operations in a
slot. -/
def cutHouse : RuleSet Float32 :=
  let storey : Value Float32 := .operation true .add (.number false 2.75) (.scope false .size .x)
  let slots : Operation Float32 := .subdivide .y [storey, .number true 1]
    [none, some ⟨[.save, .turn none (some (.number false (-90))) none], some "Wall"⟩]
  ⟨"cut house", some (.ofBox (some "House") ⟨⟨⟨0, 0, 0⟩, ⟨0, 0, 0⟩⟩, ⟨8, 6.5, 4⟩⟩),
    [[⟨"House", [⟨.cover (.symbol "Tree"), .equal, some (.cover false .part)⟩],
      [⟨0.7, [⟨[slots], none⟩]⟩, ⟨0.3, []⟩]⟩], []]⟩

theorem ofText?_write_toJson_cutHouse :
    (∀ a ∈ cutHouse.numbers, Survives spellShortest a) ∧
      ofText? (write spellShortest cutHouse.toJson) = some cutHouse := by
  have hnumbers : ∀ a ∈ cutHouse.numbers, Survives spellShortest a := by decide +kernel
  refine ⟨hnumbers, ofText?_write_toJson cutHouse _ hnumbers (fun f hf => ?_) (fun s hs => ?_) ?_⟩
  · obtain rfl : f = .symbol "Tree" := List.mem_singleton.1 hf
    simp [ShapeFilter.IsReserved]
  · cases hs
    rfl
  · decide +kernel

/-- A rule for shapes that are covered by what a filter lets pass. -/
def coveredRules (filter : ShapeFilter) : RuleSet Float32 :=
  ⟨"covered", none, [[⟨"House", [⟨.cover filter, .notEmpty, none⟩], []⟩]]⟩

/-- A rule whose condition compares with a given value. -/
def comparedRules (value : Value Float32) : RuleSet Float32 :=
  ⟨"compared", none, [[⟨"House", [⟨.parent, .equal, some value⟩], []⟩]]⟩

/-- Widths added up, one sum in the other. -/
def nestedSum : Nat → Value Float32
  | 0 => .scope false .size .x
  | n + 1 => .operation false .add (nestedSum n) (.scope false .size .x)

/-- A filter for the symbol "all" is read as the filter that lets everything pass, and a value that
is nested too deeply is not read at all. -/
theorem changed_by_text :
    (coveredRules (.symbol "all")).numbers = [] ∧
      ofText? (write (fun _ => "1") (coveredRules (.symbol "all")).toJson) =
        some (coveredRules .all) ∧
      coveredRules .all ≠ coveredRules (.symbol "all") ∧
      (comparedRules (nestedSum 120)).numbers = [] ∧
      (comparedRules (nestedSum 120)).toJson.depth = nestingLimit + 1 ∧
      (ofText? (write (fun _ => "1") (comparedRules (nestedSum 120)).toJson) :
        Option (RuleSet Float32)) = none := by
  have hnumbers : (comparedRules (nestedSum 120)).numbers = [] := by decide +kernel
  refine ⟨rfl, ?_, by simp [coveredRules], hnumbers, by decide +kernel, ?_⟩
  · have hreadable : IsReadable (fun _ => "1") (coveredRules (.symbol "all")).toJson := by
      simp [IsReadable, MembersReadable, AllReadable, coveredRules, toJson, Rule.toJson,
        Condition.toJson, jsonOfOption]
    rw [ofText?, Json.ofText?_write hreadable]
    rfl
  · have hback : ComesBack (fun _ => "1") decode? (comparedRules (nestedSum 120)).toJson
        (comparedRules (nestedSum 120)) :=
      comesBack _ (by simp [hnumbers])
        (by simp [filters, comparedRules, Rule.filters, Query.filter?]) (by rintro s ⟨⟩)
    rw [ofText?, Json.ofText?_write hback.readable]
    exact Option.isNone_iff_eq_none.1 (by decide +kernel)

end RuleSet

end Cityscape.Grammar
