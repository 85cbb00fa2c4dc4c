import Reckoner.Number.Binary

/-! The shortest decimal that reads back as a given double. The reals that round to the double form
an interval. A grid of the multiples of a power of ten meets it in at most a few points, and of the
grids that meet it the coarsest gives the fewest digits. Only the two neighbours of the double on a
grid need a test: if any point of the grid lies in the interval, one of them does.
-/

set_option autoImplicit false

namespace Reckoner.Number

structure Decimal where
  digits : Nat
  scale : Int
  deriving DecidableEq, Repr

/-- The interval of reals around `value / unit` that round to it, as fractions over one unit. -/
structure Interval where
  low : Nat
  value : Nat
  high : Nat
  unit : Nat
  closed : Bool
  deriving DecidableEq, Repr

/-- Half the gap to either neighbour, in quarters of the last place. The gap below a power of two is
half as wide as the one above. -/
def Interval.around (b : Binary) : Interval :=
  let up := Nat.pow 2 (b.exponent - 2).toNat
  let below := if b.mantissa = 4503599627370496 ∧ -1074 < b.exponent then 1 else 2
  { low := (4 * b.mantissa - below) * up
    value := 4 * b.mantissa * up
    high := (4 * b.mantissa + 2) * up
    unit := Nat.pow 2 (2 - b.exponent).toNat
    closed := b.mantissa % 2 == 0 }

/-- The multiple of `10 ^ p` in the interval that is nearest to its value; of two, the upper. -/
def Interval.onGrid (i : Interval) (p : Int) : Option Nat :=
  let step := i.unit * Nat.pow 10 p.toNat
  let scaled := Nat.pow 10 (-p).toNat
  let value := i.value * scaled
  let inside (n : Nat) : Bool :=
    if i.closed then decide (i.low * scaled ≤ n * step) && decide (n * step ≤ i.high * scaled)
    else decide (i.low * scaled < n * step) && decide (n * step < i.high * scaled)
  let n := value / step
  match inside n, inside (n + 1) with
  | true, true => some (if value - n * step < (n + 1) * step - value then n else n + 1)
  | true, false => some n
  | false, true => some (n + 1)
  | false, false => none

def Interval.coarsest (i : Interval) : (steps : Nat) → (p : Int) → Decimal
  | 0, p => ⟨i.value * Nat.pow 10 (-p).toNat / (i.unit * Nat.pow 10 p.toNat), p⟩
  | steps + 1, p =>
    match i.onGrid p with
    | some n => ⟨n, p⟩
    | none => i.coarsest steps (p - 1)

def shortest (b : Binary) : Decimal :=
  if b.mantissa = 0 then ⟨0, 0⟩
  else (Interval.around b).coarsest 20 ((b.exponent + b.mantissa.log2 + 1) * 30103 / 100000 + 1)

end Reckoner.Number
