import Cityscape.Json.Number

/-!
# Reading JSON texts

A recursive-descent reader. It accepts exactly the JSON grammar: one value, blanks around it, no
leading zeros, no control characters in texts.

## Main definitions

* `Json.Reader.value` — one value and the characters after it.
* `Json.ofText?` — the tree of a whole text.
-/

namespace Cityscape.Json

namespace Reader

/-- Characters that may stand between tokens. -/
def isBlank (c : Char) : Bool := c = ' ' || c = '\t' || c = '\n' || c = '\r'

/-- The characters from the first that is not blank. -/
def skipBlanks : List Char → List Char
  | [] => []
  | c :: rest => if isBlank c then skipBlanks rest else c :: rest

/-- The characters after an expected word. -/
def expect : List Char → List Char → Option (List Char)
  | [], rest => some rest
  | _ :: _, [] => none
  | e :: es, c :: rest => if e = c then expect es rest else none

/-! ## Numbers -/

/-- The leading decimal digits, and the characters after them. -/
def digits : List Char → List Nat × List Char
  | [] => ([], [])
  | c :: rest =>
    if c.isDigit then
      let (ds, rest) := digits rest
      ((c.toNat - '0'.toNat) :: ds, rest)
    else ([], c :: rest)

/-- The digits before the point: a zero, or digits that do not start with one. -/
def wholeDigits (cs : List Char) : Option (List Nat × List Char) :=
  match digits cs with
  | ([], _) => none
  | (0 :: _ :: _, _) => none
  | found => some found

/-- The digits after a point, if there is one. -/
def fractionDigits : List Char → Option (Option (List Nat) × List Char)
  | '.' :: rest =>
    match digits rest with
    | ([], _) => none
    | (ds, rest) => some (some ds, rest)
  | rest => some (none, rest)

/-- The exponent, if there is one. -/
def exponentDigits : List Char → Option (Option (Bool × List Nat) × List Char)
  | [] => some (none, [])
  | c :: rest =>
    if c = 'e' || c = 'E' then
      let (below, rest) := match rest with
        | '+' :: rest => (false, rest)
        | '-' :: rest => (true, rest)
        | rest => (false, rest)
      match digits rest with
      | ([], _) => none
      | (ds, rest) => some (some (below, ds), rest)
    else some (none, c :: rest)

def number (cs : List Char) : Option (Json × List Char) := do
  let (negative, cs) := match cs with
    | '-' :: rest => (true, rest)
    | rest => (false, rest)
  let (whole, cs) ← wholeDigits cs
  let (fraction, cs) ← fractionDigits cs
  let (exponent, cs) ← exponentDigits cs
  match Decimal.toNumeral? ⟨negative, whole, fraction, exponent⟩ with
  | some n => some (.number n, cs)
  | none => some (.unusable, cs)

/-! ## Texts -/

def hexDigit? (c : Char) : Option Nat :=
  if '0' ≤ c ∧ c ≤ '9' then some (c.toNat - '0'.toNat)
  else if 'a' ≤ c ∧ c ≤ 'f' then some (c.toNat - 'a'.toNat + 10)
  else if 'A' ≤ c ∧ c ≤ 'F' then some (c.toNat - 'A'.toNat + 10)
  else none

def hexWord? (a b c d : Char) : Option Nat := do
  let a ← hexDigit? a
  let b ← hexDigit? b
  let c ← hexDigit? c
  let d ← hexDigit? d
  some (a * 4096 + b * 256 + c * 16 + d)

/-- The character that an escape of one letter stands for. -/
def escape? : Char → Option Char
  | '"' => some '"'
  | '\\' => some '\\'
  | '/' => some '/'
  | 'b' => some '\x08'
  | 'f' => some '\x0c'
  | 'n' => some '\n'
  | 'r' => some '\r'
  | 't' => some '\t'
  | _ => none

/-- One unit of a text. -/
inductive Unit16
  | char (c : Char)
  /-- The first half of a surrogate pair. -/
  | high (n : Nat)
  /-- The second half of a surrogate pair. -/
  | low (n : Nat)

def Unit16.ofNat (n : Nat) : Unit16 :=
  if 0xD800 ≤ n ∧ n ≤ 0xDBFF then .high n
  else if 0xDC00 ≤ n ∧ n ≤ 0xDFFF then .low n
  else .char (Char.ofNat n)

/-- The units of a text up to its closing quote, in reverse, and the characters after it. -/
def units (found : List Unit16) : List Char → Option (List Unit16 × List Char)
  | '"' :: rest => some (found, rest)
  | '\\' :: 'u' :: a :: b :: c :: d :: rest =>
    match hexWord? a b c d with
    | some n => units (.ofNat n :: found) rest
    | none => none
  | '\\' :: c :: rest =>
    match escape? c with
    | some c => units (.char c :: found) rest
    | none => none
  | c :: rest => if c.toNat < 0x20 then none else units (.char c :: found) rest
  | [] => none

/-- The characters of units given in reverse; nothing when half of a surrogate pair stands alone. -/
def joinUnits (chars : List Char) : List Unit16 → Option (List Char)
  | [] => some chars
  | .char c :: rest => joinUnits (c :: chars) rest
  | .low l :: .high h :: rest =>
    joinUnits (Char.ofNat (0x10000 + (h - 0xD800) * 0x400 + (l - 0xDC00)) :: chars) rest
  | _ => none

/-- A text after its opening quote: `some none` when it is well formed but has no value. -/
def text (cs : List Char) : Option (Option String × List Char) :=
  match units [] cs with
  | none => none
  | some (found, rest) => some ((joinUnits [] found).map String.ofList, rest)

/-! ## Values -/

/-- The object of the members read; it has no value when a name has none. -/
def objectOf (members : List (Option String × Json)) : Json :=
  match members.mapM fun (name, value) => name.map (·, value) with
  | some members => .object members
  | none => .unusable

mutual

/-- One value and the characters after it. Every step takes a character, so `fuel` characters are
read at most. -/
def value : Nat → List Char → Option (Json × List Char)
  | 0, _ => none
  | fuel + 1, cs =>
    match skipBlanks cs with
    | '[' :: rest =>
      match skipBlanks rest with
      | ']' :: rest => some (.array [], rest)
      | rest => elements fuel [] rest
    | '\x7b' :: rest =>
      match skipBlanks rest with
      | '\x7d' :: rest => some (.object [], rest)
      | rest => members fuel [] rest
    | '"' :: rest =>
      match text rest with
      | some (some s, rest) => some (.string s, rest)
      | some (none, rest) => some (.unusable, rest)
      | none => none
    | 'n' :: rest => (expect ['u', 'l', 'l'] rest).map (.null, ·)
    | 't' :: rest => (expect ['r', 'u', 'e'] rest).map (.bool true, ·)
    | 'f' :: rest => (expect ['a', 'l', 's', 'e'] rest).map (.bool false, ·)
    | rest => number rest

/-- The elements of a list up to its closing bracket; `found` holds those read, in reverse. -/
def elements : Nat → List Json → List Char → Option (Json × List Char)
  | 0, _, _ => none
  | fuel + 1, found, cs =>
    match value fuel cs with
    | none => none
    | some (v, rest) =>
      match skipBlanks rest with
      | ',' :: rest => elements fuel (v :: found) rest
      | ']' :: rest => some (.array (v :: found).reverse, rest)
      | _ => none

/-- The members of an object up to its closing brace; `found` holds those read, in reverse. -/
def members : Nat → List (Option String × Json) → List Char → Option (Json × List Char)
  | 0, _, _ => none
  | fuel + 1, found, cs =>
    match skipBlanks cs with
    | '"' :: rest =>
      match text rest with
      | none => none
      | some (name, rest) =>
        match skipBlanks rest with
        | ':' :: rest =>
          match value fuel rest with
          | none => none
          | some (v, rest) =>
            match skipBlanks rest with
            | ',' :: rest => members fuel ((name, v) :: found) rest
            | '\x7d' :: rest => some (objectOf ((name, v) :: found).reverse, rest)
            | _ => none
        | _ => none
    | _ => none

end

end Reader

/-- The tree of a text that holds one value and blanks around it. -/
def ofText? (s : String) : Option Json :=
  match Reader.value (s.length + 1) s.toList with
  | some (v, rest) => if (Reader.skipBlanks rest).isEmpty then some v else none
  | none => none

end Cityscape.Json
