import Cityscape.Json.Reader
import Mathlib.Data.List.Basic

/-!
# Written JSON texts

A tree is written without blanks, with the escapes that texts need and no others. How numbers are
spelled is left open: a number of a tree comes back as the number that its spelling is read as.

## Main definitions

* `Json.write` — the text of a tree.
* `Json.reread` — the tree with its numbers as they are read.
* `Json.IsReadable` — every number is spelled as a number, and every part has a value.
* `Json.depth` — the levels to which a tree is nested.

## Main statements

* `Json.ofText?_write` — what is written is read.
-/

namespace Cityscape.Json

/-! ## Writing -/

/-- A character between quotes. -/
def escape : Char → List Char
  | '"' => ['\\', '"']
  | '\\' => ['\\', '\\']
  | '\x08' => ['\\', 'b']
  | '\x0c' => ['\\', 'f']
  | '\n' => ['\\', 'n']
  | '\r' => ['\\', 'r']
  | '\t' => ['\\', 't']
  | c =>
    if c.toNat < 0x20 then
      ['\\', 'u', '0', '0', Nat.digitChar (c.toNat / 16), Nat.digitChar (c.toNat % 16)]
    else [c]

def quote (s : String) : List Char := '"' :: (s.toList.flatMap escape ++ ['"'])

variable (spell : Numeral → String)

mutual

/-- The characters of a tree; nothing for a part without a value, which no text stands for. -/
def characters : Json → List Char
  | .null => ['n', 'u', 'l', 'l']
  | .bool true => ['t', 'r', 'u', 'e']
  | .bool false => ['f', 'a', 'l', 's', 'e']
  | .number n => (spell n).toList
  | .string s => quote s
  | .array elements => '[' :: elementsText elements
  | .object members => '\x7b' :: membersText members
  | .unusable => []

/-- The elements of a list after its opening bracket. -/
def elementsText : List Json → List Char
  | [] => [']']
  | [e] => characters e ++ [']']
  | e :: f :: rest => characters e ++ ',' :: elementsText (f :: rest)

/-- The members of an object after its opening brace. -/
def membersText : List (String × Json) → List Char
  | [] => ['\x7d']
  | [(name, value)] => quote name ++ ':' :: (characters value ++ ['\x7d'])
  | (name, value) :: m :: rest =>
    quote name ++ ':' :: (characters value ++ ',' :: membersText (m :: rest))

end

/-- The text of a tree. -/
def write (j : Json) : String := String.ofList (characters spell j)

/-! ## Numbers as they are read -/

/-- The number that the spelling of a number is read as. -/
def Numeral.reread (n : Numeral) : Numeral :=
  match Reader.number (spell n).toList with
  | some (.number n, _) => n
  | _ => n

mutual

/-- The tree with its numbers as they are read. -/
def reread : Json → Json
  | .number n => .number (n.reread spell)
  | .array elements => .array (rereadAll elements)
  | .object members => .object (rereadMembers members)
  | j => j

def rereadAll : List Json → List Json
  | [] => []
  | e :: rest => reread e :: rereadAll rest

def rereadMembers : List (String × Json) → List (String × Json)
  | [] => []
  | (name, value) :: rest => (name, reread value) :: rereadMembers rest

end

mutual

/-- Every number of the tree is spelled as a number, and every part has a value. -/
def IsReadable : Json → Prop
  | .number n => ∃ n', Reader.number (spell n).toList = some (.number n', [])
  | .array elements => AllReadable elements
  | .object members => MembersReadable members
  | .unusable => False
  | .null | .bool _ | .string _ => True

def AllReadable : List Json → Prop
  | [] => True
  | e :: rest => IsReadable e ∧ AllReadable rest

def MembersReadable : List (String × Json) → Prop
  | [] => True
  | (_, value) :: rest => IsReadable value ∧ MembersReadable rest

end

/-! ## Nesting -/

mutual

/-- The number of levels to which lists and objects are nested. -/
def depth : Json → Nat
  | .array elements => depthOfAll elements + 1
  | .object members => depthOfMembers members + 1
  | .null | .bool _ | .number _ | .string _ | .unusable => 0

def depthOfAll : List Json → Nat
  | [] => 0
  | e :: rest => max (depth e) (depthOfAll rest)

def depthOfMembers : List (String × Json) → Nat
  | [] => 0
  | (_, value) :: rest => max (depth value) (depthOfMembers rest)

end

omit spell

variable {spell : Numeral → String}

mutual

/-- A tree all parts of which have a value is usable as long as it is not nested too deeply. -/
theorem isUsable_of_depth_le {levels : Nat} (j : Json) (hj : IsReadable spell j)
    (h : j.depth ≤ levels) : j.isUsable levels = true := by
  match j with
  | .null | .bool _ | .number _ | .string _ => rfl
  | .array es =>
    simp only [depth] at h
    simp only [isUsable, Bool.and_eq_true, decide_eq_true_eq]
    exact ⟨by omega, allUsable_of_depth_le es hj (by omega)⟩
  | .object ms =>
    simp only [depth] at h
    simp only [isUsable, Bool.and_eq_true, decide_eq_true_eq]
    exact ⟨by omega, membersUsable_of_depth_le ms hj (by omega)⟩

theorem allUsable_of_depth_le {levels : Nat} (es : List Json) (hes : AllReadable spell es)
    (h : depthOfAll es ≤ levels) : allUsable levels es = true := by
  match es with
  | [] => rfl
  | e :: es =>
    simp only [depthOfAll] at h
    simp only [allUsable, Bool.and_eq_true]
    exact ⟨isUsable_of_depth_le e hes.1 (by omega), allUsable_of_depth_le es hes.2 (by omega)⟩

theorem membersUsable_of_depth_le {levels : Nat} (ms : List (String × Json))
    (hms : MembersReadable spell ms) (h : depthOfMembers ms ≤ levels) :
    membersUsable levels ms = true := by
  match ms with
  | [] => rfl
  | (name, j) :: ms =>
    simp only [depthOfMembers] at h
    simp only [membersUsable, Bool.and_eq_true]
    exact ⟨isUsable_of_depth_le j hms.1 (by omega),
      membersUsable_of_depth_le ms hms.2 (by omega)⟩

end

/-! ## Parts of trees -/

@[simp] theorem reread_string (s : String) : reread spell (.string s) = .string s := rfl

@[simp] theorem reread_bool (b : Bool) : reread spell (.bool b) = .bool b := rfl

@[simp] theorem isReadable_string (s : String) : IsReadable spell (.string s) := trivial

@[simp] theorem isReadable_bool (b : Bool) : IsReadable spell (.bool b) := trivial

theorem allReadable_iff {es : List Json} :
    AllReadable spell es ↔ ∀ e ∈ es, IsReadable spell e := by
  induction es with
  | nil => simp [AllReadable]
  | cons e es ih => simp [AllReadable, ih]

theorem rereadAll_eq_map (es : List Json) : rereadAll spell es = es.map (reread spell) := by
  induction es with
  | nil => rfl
  | cons e es ih => rw [rereadAll, ih, List.map_cons]

theorem allUsable_iff {levels : Nat} {es : List Json} :
    allUsable levels es = true ↔ ∀ e ∈ es, e.isUsable levels = true := by
  induction es with
  | nil => simp [allUsable]
  | cons e es ih => simp [allUsable, ih]

mutual

/-- Reading numbers again takes away nothing and nests nothing more deeply. -/
theorem isUsable_reread {m n : Nat} (hmn : m ≤ n) (j : Json) (h : j.isUsable m = true) :
    (reread spell j).isUsable n = true := by
  match j with
  | .null | .bool _ | .number _ | .string _ => rfl
  | .array es =>
    simp only [isUsable, Bool.and_eq_true, decide_eq_true_eq] at h
    simp only [reread, isUsable, Bool.and_eq_true, decide_eq_true_eq]
    exact ⟨Nat.lt_of_lt_of_le h.1 hmn, allUsable_rereadAll (Nat.sub_le_sub_right hmn 1) es h.2⟩
  | .object ms =>
    simp only [isUsable, Bool.and_eq_true, decide_eq_true_eq] at h
    simp only [reread, isUsable, Bool.and_eq_true, decide_eq_true_eq]
    exact ⟨Nat.lt_of_lt_of_le h.1 hmn,
      membersUsable_rereadMembers (Nat.sub_le_sub_right hmn 1) ms h.2⟩

theorem allUsable_rereadAll {m n : Nat} (hmn : m ≤ n) (es : List Json)
    (h : allUsable m es = true) : allUsable n (rereadAll spell es) = true := by
  match es with
  | [] => rfl
  | e :: es =>
    simp only [allUsable, Bool.and_eq_true] at h
    simp only [rereadAll, allUsable, Bool.and_eq_true]
    exact ⟨isUsable_reread hmn e h.1, allUsable_rereadAll hmn es h.2⟩

theorem membersUsable_rereadMembers {m n : Nat} (hmn : m ≤ n) (ms : List (String × Json))
    (h : membersUsable m ms = true) : membersUsable n (rereadMembers spell ms) = true := by
  match ms with
  | [] => rfl
  | (name, j) :: ms =>
    simp only [membersUsable, Bool.and_eq_true] at h
    simp only [rereadMembers, membersUsable, Bool.and_eq_true]
    exact ⟨isUsable_reread hmn j h.1, membersUsable_rereadMembers hmn ms h.2⟩

end

omit spell

namespace Reader

/-! ## Texts are read -/

theorem hexWord?_control : ∀ n < 0x20,
    hexWord? '0' '0' (Nat.digitChar (n / 16)) (Nat.digitChar (n % 16)) = some n := by decide

/-- A character is read from its escape. -/
theorem units_escape (c : Char) (found : List Unit16) (rest : List Char) :
    units found (escape c ++ rest) = units (.char c :: found) rest := by
  unfold escape
  split
  · rfl
  · rfl
  · rfl
  · rfl
  · rfl
  · rfl
  · rfl
  next hquote hslash _ _ _ _ _ =>
    split
    next hcontrol =>
      have hchar : Unit16.ofNat c.toNat = .char c := by
        rw [Unit16.ofNat, if_neg (by omega), if_neg (by omega), Char.ofNat_toNat]
      simp [units, hexWord?_control c.toNat hcontrol, hchar]
    next hplain =>
      rw [List.singleton_append, units, if_neg hplain]
      · exact hquote
      · exact fun _ _ _ _ _ h => absurd h hslash
      · exact fun _ _ h => absurd h hslash

theorem units_flatMap_escape (cs rest : List Char) (found : List Unit16) :
    units found (cs.flatMap escape ++ '"' :: rest) =
      some ((cs.map Unit16.char).reverse ++ found, rest) := by
  induction cs generalizing found with
  | nil => simp [units]
  | cons c cs ih => simp [units_escape, ih]

theorem joinUnits_map_char (cs chars : List Char) :
    joinUnits chars (cs.map Unit16.char) = some (cs.reverse ++ chars) := by
  induction cs generalizing chars with
  | nil => rfl
  | cons c cs ih => simp [joinUnits, ih]

/-- A text is read up to its closing quote. -/
theorem text_quote (s : String) (rest : List Char) :
    text (s.toList.flatMap escape ++ '"' :: rest) = some (some s, rest) := by
  have hjoin : joinUnits [] (s.toList.map Unit16.char).reverse = some s.toList := by
    rw [← List.map_reverse, joinUnits_map_char, List.reverse_reverse, List.append_nil]
  rw [text, units_flatMap_escape, List.append_nil]
  simp [hjoin]

/-! ## Numbers are read -/

/-- A number does not go on after it: what comes next closes a value or separates it from the
next. -/
def Ends (rest : List Char) : Prop := ∀ c ∈ rest.head?, c = ',' ∨ c = ']' ∨ c = '\x7d'

theorem digits_append {cs rest cs' : List Char} {ds : List Nat} (h : digits cs = (ds, cs'))
    (hrest : Ends rest) : digits (cs ++ rest) = (ds, cs' ++ rest) := by
  induction cs generalizing ds with
  | nil =>
    cases h
    cases rest with
    | nil => rfl
    | cons c rest =>
      have hdigit : c.isDigit = false := by
        rcases hrest c rfl with rfl | rfl | rfl <;> rfl
      simp [digits, hdigit]
  | cons c cs ih =>
    unfold digits at h
    split at h
    next hdigit =>
      obtain ⟨found, left, hfound⟩ : ∃ found left, digits cs = (found, left) := ⟨_, _, rfl⟩
      rw [hfound] at h
      cases h
      simp [digits, hdigit, ih hfound]
    next hdigit =>
      cases h
      simp [digits, hdigit]

theorem wholeDigits_append {cs rest cs' : List Char} {ds : List Nat}
    (h : wholeDigits cs = some (ds, cs')) (hrest : Ends rest) :
    wholeDigits (cs ++ rest) = some (ds, cs' ++ rest) := by
  obtain ⟨found, left, hfound⟩ : ∃ found left, digits cs = (found, left) := ⟨_, _, rfl⟩
  unfold wholeDigits at h ⊢
  rw [hfound] at h
  rw [digits_append hfound hrest]
  match found with
  | [] => cases h
  | [0] => cases h; rfl
  | [_ + 1] => cases h; rfl
  | 0 :: _ :: _ => cases h
  | (_ + 1) :: _ :: _ => cases h; rfl

theorem fractionDigits_append {cs rest cs' : List Char} {ds : Option (List Nat)}
    (h : fractionDigits cs = some (ds, cs')) (hrest : Ends rest) :
    fractionDigits (cs ++ rest) = some (ds, cs' ++ rest) := by
  unfold fractionDigits at h
  split at h
  next cs =>
    obtain ⟨found, left, hfound⟩ : ∃ found left, digits cs = (found, left) := ⟨_, _, rfl⟩
    rw [hfound] at h
    simp only [List.cons_append, fractionDigits, digits_append hfound hrest]
    match found with
    | [] => cases h
    | _ :: _ => cases h; rfl
  next hpoint =>
    cases h
    unfold fractionDigits
    split
    next after hafter =>
      cases cs with
      | nil =>
        have hc := hrest '.' (by rw [← List.nil_append rest, hafter]; rfl)
        simp at hc
      | cons c cs =>
        cases hafter
        exact absurd rfl (hpoint cs)
    next => rfl

/-- The sign of an exponent, and the characters after it. -/
def exponentSign : List Char → Bool × List Char
  | '+' :: rest => (false, rest)
  | '-' :: rest => (true, rest)
  | rest => (false, rest)

theorem exponentSign_append (c : Char) (cs rest : List Char) :
    exponentSign (c :: cs ++ rest) =
      ((exponentSign (c :: cs)).1, (exponentSign (c :: cs)).2 ++ rest) := by
  rw [List.cons_append]
  by_cases hplus : c = '+'
  · subst hplus; rfl
  by_cases hminus : c = '-'
  · subst hminus; rfl
  · simp [exponentSign, hplus, hminus]

theorem exponentDigits_cons (c : Char) (cs : List Char) :
    exponentDigits (c :: cs) =
      if c = 'e' || c = 'E' then
        match digits (exponentSign cs).2 with
        | ([], _) => none
        | (ds, rest) => some (some ((exponentSign cs).1, ds), rest)
      else some (none, c :: cs) := rfl

theorem exponentDigits_append {cs rest cs' : List Char} {e : Option (Bool × List Nat)}
    (h : exponentDigits cs = some (e, cs')) (hrest : Ends rest) :
    exponentDigits (cs ++ rest) = some (e, cs' ++ rest) := by
  match cs with
  | [] =>
    cases h
    cases rest with
    | nil => rfl
    | cons c rest => rcases hrest c rfl with rfl | rfl | rfl <;> rfl
  | [c] =>
    rw [exponentDigits_cons] at h
    rw [List.cons_append, exponentDigits_cons]
    split at h
    · cases h
    next hletter =>
      cases h
      exact if_neg hletter
  | c :: sign :: cs =>
    rw [exponentDigits_cons] at h
    rw [List.cons_append, exponentDigits_cons, exponentSign_append]
    split at h
    next hletter =>
      rw [if_pos hletter]
      obtain ⟨found, left, hfound⟩ :
        ∃ found left, digits (exponentSign (sign :: cs)).2 = (found, left) := ⟨_, _, rfl⟩
      rw [hfound] at h
      rw [digits_append hfound hrest]
      match found with
      | [] => cases h
      | _ :: _ => cases h; rfl
    next hletter =>
      cases h
      exact if_neg hletter

/-- A number after its sign. -/
def unsigned (negative : Bool) (cs : List Char) : Option (Json × List Char) := do
  let (whole, cs) ← wholeDigits cs
  let (fraction, cs) ← fractionDigits cs
  let (exponent, cs) ← exponentDigits cs
  match Decimal.toNumeral? ⟨negative, whole, fraction, exponent⟩ with
  | some n => some (.number n, cs)
  | none => some (.unusable, cs)

/-- The sign of a number, and the characters after it. -/
def sign : List Char → Bool × List Char
  | '-' :: rest => (true, rest)
  | rest => (false, rest)

theorem number_eq (cs : List Char) : number cs = unsigned (sign cs).1 (sign cs).2 := rfl

theorem sign_append (c : Char) (cs rest : List Char) :
    sign (c :: cs ++ rest) = ((sign (c :: cs)).1, (sign (c :: cs)).2 ++ rest) := by
  rw [List.cons_append]
  by_cases hminus : c = '-'
  · subst hminus; rfl
  · simp [sign, hminus]

theorem unsigned_append {negative : Bool} {cs rest cs' : List Char} {j : Json}
    (h : unsigned negative cs = some (j, cs')) (hrest : Ends rest) :
    unsigned negative (cs ++ rest) = some (j, cs' ++ rest) := by
  obtain ⟨⟨whole, cs₁⟩, hwhole, h⟩ := Option.bind_eq_some_iff.1 h
  obtain ⟨⟨fraction, cs₂⟩, hfraction, h⟩ := Option.bind_eq_some_iff.1 h
  obtain ⟨⟨exponent, cs₃⟩, hexponent, h⟩ := Option.bind_eq_some_iff.1 h
  refine Option.bind_eq_some_iff.2 ⟨_, wholeDigits_append hwhole hrest, ?_⟩
  refine Option.bind_eq_some_iff.2 ⟨_, fractionDigits_append hfraction hrest, ?_⟩
  refine Option.bind_eq_some_iff.2 ⟨_, exponentDigits_append hexponent hrest, ?_⟩
  dsimp only at h ⊢
  split at h <;> (cases h; rfl)

/-- A number is read in the same way when something else follows. -/
theorem number_append {cs rest cs' : List Char} {j : Json} (h : number cs = some (j, cs'))
    (hrest : Ends rest) : number (cs ++ rest) = some (j, cs' ++ rest) := by
  cases cs with
  | nil => cases h
  | cons c cs =>
    rw [number_eq] at h
    rw [number_eq, sign_append, unsigned_append h hrest]

/-- A number starts with its sign or with a digit. -/
theorem number_head {cs : List Char} {found : Json × List Char} (h : number cs = some found) :
    ∃ c rest, cs = c :: rest ∧ (c = '-' ∨ c.isDigit = true) := by
  cases cs with
  | nil => cases h
  | cons c cs =>
    refine ⟨c, cs, rfl, ?_⟩
    by_contra hc
    obtain ⟨hminus, hdigit⟩ := not_or.1 hc
    have hsign : sign (c :: cs) = (false, c :: cs) := by simp [sign, hminus]
    rw [number_eq, hsign] at h
    obtain ⟨⟨whole, _⟩, hwhole, -⟩ := Option.bind_eq_some_iff.1 h
    simp [wholeDigits, digits, hdigit] at hwhole

theorem skipBlanks_cons {c : Char} (cs : List Char) (h : isBlank c = false) :
    skipBlanks (c :: cs) = c :: cs := by
  simp [skipBlanks, h]

theorem isBlank_of_number {c : Char} (h : c = '-' ∨ c.isDigit = true) : isBlank c = false := by
  rcases h with rfl | hdigit
  · rfl
  · by_contra hblank
    simp only [isBlank, Bool.not_eq_false, Bool.or_eq_true, decide_eq_true_eq] at hblank
    rcases hblank with ((rfl | rfl) | rfl) | rfl <;> cases hdigit

theorem value_eq_number {fuel : Nat} {c : Char} (cs : List Char)
    (h : c = '-' ∨ c.isDigit = true) : value (fuel + 1) (c :: cs) = number (c :: cs) := by
  have hother {d : Char} {rest : List Char} (hcs : c :: cs = d :: rest)
      (hd : d ≠ '-' ∧ d.isDigit = false) : False := by
    cases hcs
    rcases h with rfl | hdigit
    · exact hd.1 rfl
    · cases hd.2.symm.trans hdigit
  unfold value
  rw [skipBlanks_cons cs (isBlank_of_number h)]
  split
  next heq => exact (hother heq (by decide)).elim
  next heq => exact (hother heq (by decide)).elim
  next heq => exact (hother heq (by decide)).elim
  next heq => exact (hother heq (by decide)).elim
  next heq => exact (hother heq (by decide)).elim
  next heq => exact (hother heq (by decide)).elim
  next => rfl

/-! ## One step of reading -/

theorem value_array {fuel : Nat} {c : Char} (cs : List Char) (hblank : isBlank c = false)
    (hc : c ≠ ']') : value (fuel + 1) ('[' :: c :: cs) = elements fuel [] (c :: cs) := by
  rw [value, skipBlanks_cons _ (rfl : isBlank '[' = false)]
  simp only [skipBlanks_cons cs hblank]
  split
  next heq => exact absurd (List.cons.inj heq).1 hc
  next => rfl

theorem elements_more {fuel : Nat} {found : List Json} {cs rest : List Char} {j : Json}
    (h : value fuel cs = some (j, ',' :: rest)) :
    elements (fuel + 1) found cs = elements fuel (j :: found) rest := by
  rw [elements, h]
  rfl

theorem elements_end {fuel : Nat} {found : List Json} {cs rest : List Char} {j : Json}
    (h : value fuel cs = some (j, ']' :: rest)) :
    elements (fuel + 1) found cs = some (.array (found.reverse ++ [j]), rest) := by
  rw [elements, h, ← List.reverse_cons]
  rfl

section

variable {fuel : Nat} {found : List (Option String × Json)} {cs rest : List Char} {j : Json}

/-- The quote that a name starts with is taken first. -/
theorem quote_append (name : String) (cs : List Char) :
    quote name ++ ':' :: cs = '"' :: (name.toList.flatMap escape ++ '"' :: ':' :: cs) := by
  simp [quote]

theorem members_more (name : String) (h : value fuel cs = some (j, ',' :: rest)) :
    members (fuel + 1) found (quote name ++ ':' :: cs) =
      members fuel ((some name, j) :: found) rest := by
  rw [quote_append, members, skipBlanks_cons _ rfl]
  simp only [text_quote, skipBlanks_cons _ (rfl : isBlank ':' = false), h,
    skipBlanks_cons _ (rfl : isBlank ',' = false)]

theorem members_end (name : String) (h : value fuel cs = some (j, '\x7d' :: rest)) :
    members (fuel + 1) found (quote name ++ ':' :: cs) =
      some (objectOf (found.reverse ++ [(some name, j)]), rest) := by
  rw [quote_append, members, skipBlanks_cons _ rfl]
  simp only [text_quote, skipBlanks_cons _ (rfl : isBlank ':' = false), h,
    skipBlanks_cons _ (rfl : isBlank '\x7d' = false), List.reverse_cons]

end

/-! ## Values are read -/

/-- A member whose name has a value. -/
def named (m : String × Json) : Option String × Json := (some m.1, m.2)

theorem objectOf_named (ms : List (String × Json)) : objectOf (ms.map named) = .object ms := by
  have hnames (f : Option String × Json → Option (String × Json))
      (hf : ∀ m, f (named m) = some m) : (ms.map named).mapM f = some ms := by
    induction ms with
    | nil => rfl
    | cons m ms ih => simp [hf, ih]
  rw [objectOf, hnames _ fun _ => rfl]

variable {spell : Numeral → String}

/-- The text of a value starts with no blank, and not as the end of a list does. -/
theorem characters_head {j : Json} (h : IsReadable spell j) :
    ∃ c cs, characters spell j = c :: cs ∧ isBlank c = false ∧ c ≠ ']' := by
  cases j with
  | number n =>
    obtain ⟨n', hn⟩ := h
    obtain ⟨c, cs, hcs, hc⟩ := number_head hn
    refine ⟨c, cs, hcs, isBlank_of_number hc, ?_⟩
    rintro rfl
    exact absurd hc (by decide)
  | bool b => cases b <;> exact ⟨_, _, rfl, rfl, by decide⟩
  | unusable => exact h.elim
  | _ => exact ⟨_, _, rfl, rfl, by decide⟩

theorem elementsText_head {e : Json} (h : IsReadable spell e) (es : List Json) :
    ∃ c cs, elementsText spell (e :: es) = c :: cs ∧ isBlank c = false ∧ c ≠ ']' := by
  obtain ⟨c, cs, hcs, hc⟩ := characters_head h
  cases es with
  | nil => exact ⟨c, _, by rw [elementsText, hcs]; rfl, hc⟩
  | cons f es => exact ⟨c, _, by rw [elementsText, hcs]; rfl, hc⟩

variable (spell) in
theorem membersText_head (m : String × Json) (ms : List (String × Json)) :
    ∃ cs, membersText spell (m :: ms) = '"' :: cs := by
  cases ms <;> exact ⟨_, rfl⟩

theorem ends_cons {c : Char} (rest : List Char) (h : c = ',' ∨ c = ']' ∨ c = '\x7d') :
    Ends (c :: rest) := by
  intro d hd
  cases hd
  exact h

mutual

/-- A written value is read. Every list and every object, and every element and member in it, has a
character of its own, so as much fuel as there are characters is enough. -/
theorem value_characters : (j : Json) → IsReadable spell j → (fuel : Nat) → (rest : List Char) →
    (characters spell j).length < fuel → Ends rest →
      value fuel (characters spell j ++ rest) = some (reread spell j, rest)
  | .null, _, _ + 1, _, _, _ => rfl
  | .bool true, _, _ + 1, _, _, _ => rfl
  | .bool false, _, _ + 1, _, _, _ => rfl
  | .number n, h, fuel + 1, rest, _, hrest => by
    obtain ⟨n', hn⟩ := h
    obtain ⟨c, cs, hcs, hc⟩ := number_head hn
    have hread := number_append hn hrest
    simp only [characters, reread, Numeral.reread, hn]
    rw [hcs] at hread ⊢
    rw [List.cons_append, value_eq_number _ hc]
    exact hread
  | .string s, _, fuel + 1, rest, _, _ => by
    simp only [characters, quote, List.cons_append, List.append_assoc, List.nil_append]
    unfold value
    rw [skipBlanks_cons _ rfl]
    simp [text_quote, reread]
  | .array [], _, _ + 1, _, _, _ => rfl
  | .array (e :: es), h, fuel + 1, rest, hfuel, _ => by
    have hlength : (elementsText spell (e :: es)).length < fuel := by
      simpa [characters] using hfuel
    have hread := elements_elementsText (e :: es) h (List.cons_ne_nil e es) fuel [] rest hlength
    obtain ⟨c, cs, hcs, hblank, hc⟩ := elementsText_head h.1 es
    rw [hcs] at hread
    rw [characters, hcs, List.cons_append, List.cons_append, value_array _ hblank hc]
    exact hread
  | .object [], _, _ + 1, _, _, _ => rfl
  | .object (m :: ms), h, fuel + 1, rest, hfuel, _ => by
    have hlength : (membersText spell (m :: ms)).length < fuel := by
      simpa [characters] using hfuel
    have hread := members_membersText (m :: ms) h (List.cons_ne_nil m ms) fuel [] rest hlength
    obtain ⟨cs, hcs⟩ := membersText_head spell m ms
    rw [hcs] at hread
    rw [characters, hcs]
    exact hread
  | .unusable, h, _, _, _, _ => h.elim

theorem elements_elementsText : (es : List Json) → AllReadable spell es → es ≠ [] →
    (fuel : Nat) → (found : List Json) → (rest : List Char) →
    (elementsText spell es).length < fuel →
      elements fuel found (elementsText spell es ++ rest) =
        some (.array (found.reverse ++ rereadAll spell es), rest)
  | [e], h, _, fuel + 1, found, rest, hfuel => by
    have hlength : (characters spell e).length < fuel := by
      simp only [elementsText, List.length_append, List.length_singleton] at hfuel
      omega
    have hread := value_characters e h.1 fuel (']' :: rest) hlength (ends_cons rest (by simp))
    rw [elementsText, List.append_assoc]
    exact elements_end hread
  | e :: f :: es, h, _, fuel + 1, found, rest, hfuel => by
    have hlength : (characters spell e).length < fuel ∧
        (elementsText spell (f :: es)).length < fuel := by
      simp only [elementsText, List.length_append, List.length_cons] at hfuel
      omega
    have hread := value_characters e h.1 fuel (',' :: (elementsText spell (f :: es) ++ rest))
      hlength.1 (ends_cons _ (by simp))
    have hrest := elements_elementsText (f :: es) h.2 (List.cons_ne_nil f es) fuel
      (reread spell e :: found) rest hlength.2
    rw [elementsText, List.append_assoc, List.cons_append, elements_more hread, hrest]
    simp [rereadAll]

theorem members_membersText : (ms : List (String × Json)) → MembersReadable spell ms → ms ≠ [] →
    (fuel : Nat) → (found : List (String × Json)) → (rest : List Char) →
    (membersText spell ms).length < fuel →
      members fuel (found.map named) (membersText spell ms ++ rest) =
        some (.object (found.reverse ++ rereadMembers spell ms), rest)
  | [(name, j)], h, _, fuel + 1, found, rest, hfuel => by
    have hlength : (characters spell j).length < fuel := by
      simp only [membersText, List.length_append, List.length_cons] at hfuel
      omega
    have hread := value_characters j h.1 fuel ('\x7d' :: rest) hlength (ends_cons rest (by simp))
    simp only [membersText, List.append_assoc, List.cons_append, List.nil_append]
    rw [members_end name hread]
    have hobject := objectOf_named (found.reverse ++ [(name, reread spell j)])
    rw [List.map_append, List.map_reverse] at hobject
    exact congrArg (fun j => some (j, rest)) hobject
  | (name, j) :: m :: ms, h, _, fuel + 1, found, rest, hfuel => by
    have hlength : (characters spell j).length < fuel ∧
        (membersText spell (m :: ms)).length < fuel := by
      simp only [membersText, List.length_append, List.length_cons] at hfuel
      omega
    have hread := value_characters j h.1 fuel (',' :: (membersText spell (m :: ms) ++ rest))
      hlength.1 (ends_cons _ (by simp))
    have hrest := members_membersText (m :: ms) h.2 (List.cons_ne_nil m ms) fuel
      ((name, reread spell j) :: found) rest hlength.2
    simp only [membersText, List.append_assoc, List.cons_append]
    rw [members_more name hread]
    simp only [rereadMembers, List.reverse_cons, List.append_assoc] at hrest ⊢
    exact hrest

end

end Reader

/-- What is written is read, with the numbers as they are read. -/
theorem ofText?_write {spell : Numeral → String} {j : Json} (h : IsReadable spell j) :
    ofText? (write spell j) = some (reread spell j) := by
  have hread := Reader.value_characters j h ((characters spell j).length + 1) []
    (Nat.lt_succ_self _) (by rintro c ⟨⟩)
  rw [List.append_nil] at hread
  have hlength : (write spell j).length = (characters spell j).length := by
    simp [write]
  have htext : (write spell j).toList = characters spell j := String.toList_ofList
  rw [ofText?, hlength, htext, hread]
  rfl

end Cityscape.Json
