/-!
# JSON values

The tree of a JSON text, with what a decoder needs to know about it. Members keep their order and
their repetitions, and whole numbers are kept apart from other numbers, because decoders tell them
apart.

## Main definitions

* `Json.Numeral` — a number as it was written: a count, a negative whole number or another number.
* `Json` — the tree.
* `Json.isUsable` — no part of the tree is well-formed text without a value, and it is not nested
  too deeply.
* `Json.member?` — the value of a member that occurs at most once.
-/

namespace Cityscape

/-- A number as a text gives it. -/
inductive Json.Numeral
  /-- A whole number that is not negative and fits a machine word. -/
  | natural (n : Nat)
  /-- The negative of a whole number that fits a signed machine word. -/
  | negative (n : Nat)
  /-- Any other number. -/
  | real (x : Float)

/-- The tree of a JSON text. -/
inductive Json
  | null
  | bool (b : Bool)
  | number (n : Json.Numeral)
  | string (s : String)
  | array (elements : List Json)
  | object (members : List (String × Json))
  /-- Well-formed text that has no value: a number beyond the range of numbers, or a text or a
  member name with half of a surrogate pair. It may be skipped but not read. -/
  | unusable

namespace Json

/-! ## Usable trees -/

mutual

/-- Whether every part of the tree has a value and lists and objects are nested at most `levels`
deep. -/
def isUsable (levels : Nat) : Json → Bool
  | .unusable => false
  | .array elements => 0 < levels && allUsable (levels - 1) elements
  | .object members => 0 < levels && membersUsable (levels - 1) members
  | _ => true

def allUsable (levels : Nat) : List Json → Bool
  | [] => true
  | e :: rest => isUsable levels e && allUsable levels rest

def membersUsable (levels : Nat) : List (String × Json) → Bool
  | [] => true
  | (_, e) :: rest => isUsable levels e && membersUsable levels rest

end

/-! ## Members -/

/-- The value of the member `name`: `some none` when there is none, and nothing when the member is
repeated. -/
def member? (name : String) : List (String × Json) → Option (Option Json)
  | [] => some none
  | (key, value) :: rest =>
    if key = name then
      if rest.any (·.1 = name) then none else some (some value)
    else member? name rest

end Json

end Cityscape
