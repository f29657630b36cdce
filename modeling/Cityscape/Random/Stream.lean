import Cityscape.Fault
import Cityscape.Random.ChaCha
import Cityscape.Scalar

/-!
# Random streams

A stream of random words grown from a seed, and the numbers drawn from it.

## Main definitions

* `RandomStream` — the key of a stream and its place in it.
* `RandomStream.ofSeed` — the stream of a seed.
* `RandomStream.word`, `RandomStream.longWord` — the next words.
* `RandomStream.unit` — a number from zero up to one.
* `RandomStream.below` — a number from a half-open interval.
* `RandomStream.between` — a number from a closed interval.
* `RandomStream.pick` — a count below a bound.
-/

namespace Cityscape

/-- A stream of random words. -/
structure RandomStream where
  key : ChaCha.Row × ChaCha.Row
  /-- The number of the block after the one in use. -/
  next : UInt64
  /-- The block in use. -/
  block : Array UInt32
  /-- How many words of the block were taken. -/
  taken : Nat

namespace RandomStream

/-! ## Seeds -/

/-- One step of the generator that spreads a seed over a key: the next state, and the word it
yields. -/
def spread (state : UInt64) : UInt64 × UInt32 :=
  let state := state * 6364136223846793005 + 11634580027462260723
  let word := (((state >>> 18) ^^^ state) >>> 27).toUInt32
  let turn := (state >>> 59).toUInt32
  (state, (word >>> turn) ||| (word <<< ((32 - turn) % 32)))

/-- A row of words spread from a seed, and the state after it. -/
def spreadRow (state : UInt64) : ChaCha.Row × UInt64 :=
  let (state, w0) := spread state
  let (state, w1) := spread state
  let (state, w2) := spread state
  let (state, w3) := spread state
  (⟨w0, w1, w2, w3⟩, state)

def ofSeed (seed : UInt64) : RandomStream :=
  let (first, state) := spreadRow seed
  let (second, _) := spreadRow state
  ⟨(first, second), 0, #[], 0⟩

/-! ## Words -/

def word (s : RandomStream) : UInt32 × RandomStream :=
  match s.block[s.taken]? with
  | some w => (w, { s with taken := s.taken + 1 })
  | none =>
    let fresh := ChaCha.block s.key s.next
    (fresh.getD 0 0, { s with next := s.next + 1, block := fresh, taken := 1 })

/-- The next two words as one, the lower half first. -/
def longWord (s : RandomStream) : UInt64 × RandomStream :=
  let (low, s) := s.word
  let (high, s) := s.word
  (low.toUInt64 ||| (high.toUInt64 <<< 32), s)

/-! ## Numbers -/

variable {α : Type} [Scalar α]

/-- The number of draws after which a rejecting draw is given up. -/
def patience : Nat := 0x10000000000000000

/-- A number from zero up to but not including one, in steps of 2⁻²⁴. -/
def unit (s : RandomStream) : α × RandomStream :=
  let (w, s) := s.word
  (Scalar.ofNat (w >>> 8).toNat / 16777216.0, s)

/-- A number from zero up to but not including one, in steps of 2⁻²³. -/
def fraction (s : RandomStream) : α × RandomStream :=
  let (w, s) := s.word
  (Scalar.ofNat (w >>> 9).toNat / 8388608.0, s)

/-- Draws until the number that a fraction of `width` above `low` gives is below `high`. -/
def drawBelow (low high width : α) : Nat → RandomStream → Except Fault (α × RandomStream)
  | 0, _ => .error .endless
  | fuel + 1, s =>
    let (v, s) : α × RandomStream := s.fraction
    let x := v * width + low
    if x < high then .ok (x, s) else drawBelow low high width fuel s

/-- A number from the interval from `low` up to but not including `high`, which must not be empty
and must have a finite width. -/
def below (low high : α) (s : RandomStream) : Except Fault (α × RandomStream) :=
  if low < high ∧ Scalar.isFinite (high - low) then
    drawBelow low high (high - low) patience s
  else .error .badInterval

/-- The greatest fraction that is drawn. -/
def greatestFraction : α := Scalar.ofNat 8388607 / 8388608.0

/-- Makes a width smaller until the greatest fraction of it above `low` does not pass `high`. -/
def fitWidth (low high : α) : Nat → α → α
  | 0, width => width
  | fuel + 1, width =>
    if high < width * greatestFraction + low then fitWidth low high fuel (Scalar.pred width)
    else width

/-- A number from the interval from `low` to `high`, both included, which must have a finite
width. -/
def between (low high : α) (s : RandomStream) : Except Fault (α × RandomStream) :=
  let width := (high - low) / greatestFraction
  if low ≤ high ∧ Scalar.isFinite width then
    let (v, s) : α × RandomStream := s.fraction
    .ok (v * fitWidth low high 0x100000000 width + low, s)
  else .error .badInterval

/-! ## Counts -/

/-- The number of leading zero bits of a word of `bits` bits. -/
def leadingZeros (bits n : Nat) : Nat := bits - (n.log2 + 1)

/-- Draws until the low half of the product with `n` is one that is equally likely for every
count. -/
def drawPick (n zone : Nat) : Nat → RandomStream → Except Fault (Nat × RandomStream)
  | 0, _ => .error .endless
  | fuel + 1, s =>
    let (v, s) := s.longWord
    let product := v.toNat * n
    if product % 0x10000000000000000 ≤ zone then .ok (product / 0x10000000000000000, s)
    else drawPick n zone fuel s

/-- A count below `n`, every one equally likely. -/
def pick (n : Nat) (s : RandomStream) : Except Fault (Nat × RandomStream) :=
  if n = 0 then .error .badInterval
  else drawPick n (n <<< leadingZeros 64 n - 1) patience s

end RandomStream

end Cityscape
