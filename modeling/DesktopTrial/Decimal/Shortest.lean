/-!
# Shortest decimals

A binary64 value is printed with the fewest digits that still read back as that
value.  The choice is made in exact natural-number arithmetic: the reals that
round to the value form an interval, decimal grids are tried from coarse to
fine, and on each grid only the two neighbours of the value can be the answer.
-/

namespace DesktopTrial.Decimal

/-- The magnitude `significand * 2 ^ exponent` of a finite binary64 value. -/
structure Binary where
  significand : Nat
  exponent : Int
  /-- Holds when the gap below the value is half the gap above it. -/
  narrowBelow : Bool
deriving DecidableEq, Repr

/-- The magnitude `digits * 10 ^ exponent`. -/
structure Scaled where
  digits : Nat
  exponent : Int
deriving DecidableEq, Repr

/-- Which of two equally close decimals is taken. -/
inductive Tie where
  | even
  | up
deriving DecidableEq, Repr

def signBit (bits : UInt64) : Bool := bits.toNat / Nat.pow 2 63 == 1

/-- The magnitude held in the bits of a finite value. -/
def Binary.ofBits (bits : UInt64) : Binary :=
  let biased : Nat := bits.toNat / Nat.pow 2 52 % Nat.pow 2 11
  let fraction : Nat := bits.toNat % Nat.pow 2 52
  if biased = 0 then ⟨fraction, -1074, false⟩
  else ⟨Nat.pow 2 52 + fraction, Int.ofNat biased - 1075, fraction == 0 && biased > 1⟩

/-- The decimal grid of step `10 ^ exponent`, with a value and the ends of its
interval brought to the common denominator `step`. -/
structure Grid where
  low : Nat
  value : Nat
  high : Nat
  step : Nat
  /-- The ends themselves round to the value. -/
  closed : Bool

def Binary.grid (x : Binary) (exponent : Int) : Grid :=
  let quarter := Nat.pow 2 (x.exponent - 2).toNat * Nat.pow 10 (-exponent).toNat
  { low := (4 * x.significand - if x.narrowBelow then 1 else 2) * quarter
    value := 4 * x.significand * quarter
    high := (4 * x.significand + 2) * quarter
    step := Nat.pow 2 (2 - x.exponent).toNat * Nat.pow 10 exponent.toNat
    closed := x.significand % 2 == 0 }

/-- The grid point `count` lies among the reals that round to the value. -/
def Grid.readsBack (g : Grid) (count : Nat) : Bool :=
  let point := count * g.step
  (g.low < point || (g.closed && g.low == point)) &&
    (point < g.high || (g.closed && point == g.high))

/-- The grid point nearest to the value, when it or its neighbour reads back. -/
def Grid.nearest? (g : Grid) (tie : Tie) : Option Nat :=
  let below := g.value / g.step
  let above := below + 1
  let doubled := 2 * g.value
  let middle := (below + above) * g.step
  match g.readsBack below, g.readsBack above with
  | true, true =>
      if doubled < middle then some below
      else if middle < doubled then some above
      else match tie with
        | .even => if below % 2 = 0 then some below else some above
        | .up => some above
  | true, false => some below
  | false, true => some above
  | false, false => none

/-- Is the value at least `10 ^ power`? -/
def Binary.reaches (x : Binary) (power : Int) : Bool :=
  Nat.pow 2 (-x.exponent).toNat * Nat.pow 10 power.toNat ≤
    x.significand * Nat.pow 2 x.exponent.toNat * Nat.pow 10 (-power).toNat

/-- The power of ten of the leading digit of a positive value: a guess from the
binary logarithm, corrected by exact comparison. -/
def Binary.leadingPower (x : Binary) : Int :=
  let guess := ((x.significand.log2 : Int) + x.exponent) * 30103 / 100000
  if x.reaches (guess + 1) then guess + 1
  else if x.reaches guess then guess
  else guess - 1

/-- Moves trailing zeros of the digits into the exponent. -/
def stripZeros : Nat → Scaled → Scaled
  | 0, d => d
  | fuel + 1, d =>
      if d.digits ≠ 0 ∧ d.digits % 10 = 0 then
        stripZeros fuel ⟨d.digits / 10, d.exponent + 1⟩
      else d

/-- The value itself, written out to its last digit. -/
def Binary.exact (x : Binary) : Scaled :=
  ⟨x.significand * Nat.pow 2 x.exponent.toNat * Nat.pow 5 (-x.exponent).toNat,
    if x.exponent < 0 then x.exponent else 0⟩

/-- The shortest decimal that reads back as the positive value `x`, and the
nearest one of that length. -/
def Binary.shortest (tie : Tie) (x : Binary) : Scaled :=
  let top := x.leadingPower
  let found := (List.range 17).findSome? fun (extra : Nat) =>
    ((x.grid (top - extra)).nearest? tie).map fun count =>
      (⟨count, top - extra⟩ : Scaled)
  stripZeros 1100 (found.getD x.exact)

end DesktopTrial.Decimal
