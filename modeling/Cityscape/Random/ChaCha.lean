/-!
# The ChaCha block function

The block function of the ChaCha stream cipher with twelve rounds, which random streams are cut
from. A state is a square of words, kept as four rows, and a round works on the four columns or on
the four diagonals at once.

## Main definitions

* `ChaCha.Row`, `ChaCha.State` — four words, and four rows of them.
* `ChaCha.doubleRound` — a round on the columns and a round on the diagonals.
* `ChaCha.block` — sixteen words of output for a key and a block number.
-/

namespace Cityscape.ChaCha

/-- Four words. -/
structure Row where
  w0 : UInt32
  w1 : UInt32
  w2 : UInt32
  w3 : UInt32
  deriving Inhabited, Repr, DecidableEq

namespace Row

instance : Add Row := ⟨fun a b => ⟨a.w0 + b.w0, a.w1 + b.w1, a.w2 + b.w2, a.w3 + b.w3⟩⟩

instance : XorOp Row :=
  ⟨fun a b => ⟨a.w0 ^^^ b.w0, a.w1 ^^^ b.w1, a.w2 ^^^ b.w2, a.w3 ^^^ b.w3⟩⟩

/-- Every word turned left by `n` bits. -/
def turnBits (a : Row) (n : UInt32) : Row :=
  let turn (w : UInt32) : UInt32 := (w <<< n) ||| (w >>> (32 - n))
  ⟨turn a.w0, turn a.w1, turn a.w2, turn a.w3⟩

/-- The words moved one column to the left, the first becoming the last. -/
def shift (a : Row) : Row := ⟨a.w1, a.w2, a.w3, a.w0⟩

def toList (a : Row) : List UInt32 := [a.w0, a.w1, a.w2, a.w3]

end Row

/-- A square of sixteen words. -/
structure State where
  a : Row
  b : Row
  c : Row
  d : Row
  deriving Inhabited, Repr, DecidableEq

namespace State

/-- The quarter round on all four columns. -/
def round (s : State) : State :=
  let a := s.a + s.b
  let d := (s.d ^^^ a).turnBits 16
  let c := s.c + d
  let b := (s.b ^^^ c).turnBits 12
  let a := a + b
  let d := (d ^^^ a).turnBits 8
  let c := c + d
  let b := (b ^^^ c).turnBits 7
  ⟨a, b, c, d⟩

/-- Moves the diagonals into the columns. -/
def diagonals (s : State) : State := ⟨s.a, s.b.shift, s.c.shift.shift, s.d.shift.shift.shift⟩

/-- Moves the columns back into the diagonals. -/
def columns (s : State) : State := ⟨s.a, s.b.shift.shift.shift, s.c.shift.shift, s.d.shift⟩

/-- A round on the columns and a round on the diagonals. -/
def doubleRound (s : State) : State := s.round.diagonals.round.columns

def toList (s : State) : List UInt32 := s.a.toList ++ s.b.toList ++ s.c.toList ++ s.d.toList

end State

/-- The first row of every block: sixteen letters that say how long the key is. -/
def header : Row := ⟨0x61707865, 0x3320646e, 0x79622d32, 0x6b206574⟩

/-- The output for a key and a block number. -/
def block (key : Row × Row) (number : UInt64) : Array UInt32 :=
  let start : State := ⟨header, key.1, key.2, ⟨number.toUInt32, (number >>> 32).toUInt32, 0, 0⟩⟩
  let mixed := Nat.repeat State.doubleRound 6 start
  let sums : State := ⟨mixed.a + start.a, mixed.b + start.b, mixed.c + start.c, mixed.d + start.d⟩
  sums.toList.toArray

end Cityscape.ChaCha
