import Cityscape.Json.Reader
import Cityscape.Vector

/-!
# Decoding JSON values

The rules by which values are read from JSON trees: a member that a record does not know is skipped,
a member it knows occurs at most once, only an optional value may be missing or null, whole numbers
are written without point and exponent, and vectors are lists of exactly as many numbers as they
have components.

## Main definitions

* `Json.nat?`, `Json.int?`, `Json.scalar?`, `Json.vec2?`, … — values of one kind.
* `Json.required?`, `Json.orDefault?`, `Json.optional?` — members of a record.
-/

namespace Cityscape.Json

/-! ## Values -/

def bool? : Json → Option Bool
  | .bool b => some b
  | _ => none

def string? : Json → Option String
  | .string s => some s
  | _ => none

/-- A whole number from zero to `limit`. -/
def nat? (limit : Nat) : Json → Option Nat
  | .number (.natural n) => if n ≤ limit then some n else none
  | _ => none

/-- A whole number from `-limit - 1` to `limit`. -/
def int? (limit : Nat) : Json → Option Int
  | .number (.natural n) => if n ≤ limit then some n else none
  | .number (.negative n) => if n ≤ limit + 1 then some (-(n : Int)) else none
  | _ => none

def scalar? {α : Type} [OfNumeral α] : Json → Option α
  | .number n => some (OfNumeral.ofNumeral n)
  | _ => none

def elements? : Json → Option (List Json)
  | .array es => some es
  | _ => none

def members? : Json → Option (List (String × Json))
  | .object ms => some ms
  | _ => none

def list? {β : Type} (decode : Json → Option β) (j : Json) : Option (List β) := do
  (← j.elements?).mapM decode

/-- A value or null. -/
def orNull? {β : Type} (decode : Json → Option β) : Json → Option (Option β)
  | .null => some none
  | j => (decode j).map some

/-- The name of a case without contents: a text, or an object with one member that is empty. -/
def caseName? : Json → Option String
  | .string s => some s
  | .object [(name, .null)] => some name
  | _ => none

/-- The case that a record names in one of its members: by its name, or by its place among the names
of all cases. -/
def tag? (names : List String) : Json → Option String
  | .string s => some s
  | .number (.natural n) => names[n]?
  | _ => none

def vec2? {α : Type} [OfNumeral α] : Json → Option (Vec2 α)
  | .array [x, y] => do return ⟨← x.scalar?, ← y.scalar?⟩
  | _ => none

def vec3? {α : Type} [OfNumeral α] : Json → Option (Vec3 α)
  | .array [x, y, z] => do return ⟨← x.scalar?, ← y.scalar?, ← z.scalar?⟩
  | _ => none

/-! ## Members of a record -/

/-- The value of a member that may not be missing. -/
def required? {β : Type} (name : String) (decode : Json → Option β)
    (members : List (String × Json)) : Option β := do
  match ← member? name members with
  | some j => decode j
  | none => none

/-- The value of a member, or a default when it is missing. -/
def orDefault? {β : Type} (name : String) (default : β) (decode : Json → Option β)
    (members : List (String × Json)) : Option β := do
  match ← member? name members with
  | some j => decode j
  | none => some default

/-- The value of a member that may be missing or null. -/
def optional? {β : Type} (name : String) (decode : Json → Option β)
    (members : List (String × Json)) : Option (Option β) :=
  orDefault? name none (orNull? decode) members

end Cityscape.Json
