import LambdaLowering.FloatingPoint

/-! The decimal with the fewest digits that reads back as a given binary number.

A decimal reads back when it lies in the interval of numbers that round to the binary number. Grids
of powers of ten are tried from coarse to fine. On each only the two neighbours of the number can be
the nearest point, and the first grid with a neighbour in the interval has the fewest digits.
-/

set_option autoImplicit false

namespace LambdaLowering.Decimal

structure Scaled where
  digits : Nat
  exponent : Int
  deriving DecidableEq, Repr

/-- A number and the ends of its rounding interval, over one denominator. -/
structure Interval where
  low : Nat
  mid : Nat
  high : Nat
  denominator : Nat
  closed : Bool

/-- The interval ends halfway to each neighbour; ties round to an even significand. -/
def Interval.of (magnitude : Magnitude) : Interval :=
  let scale := Nat.pow 2 magnitude.exponent.toNat
  let quarters := 4 * magnitude.significand
  { low := (quarters - (if magnitude.narrowBelow then 1 else 2)) * scale
    mid := quarters * scale
    high := (quarters + 2) * scale
    denominator := 4 * Nat.pow 2 (-magnitude.exponent).toNat
    closed := magnitude.significand % 2 == 0 }

/-- Comparing decimals on one grid with the interval needs only whole numbers of these units. -/
structure Grid where
  interval : Interval
  exponent : Int

namespace Grid

def step (grid : Grid) : Nat := Nat.pow 10 grid.exponent.toNat * grid.interval.denominator

def factor (grid : Grid) : Nat := Nat.pow 10 (-grid.exponent).toNat

def readsBack (grid : Grid) (digits : Nat) : Bool :=
  let point := digits * grid.step
  let low := grid.interval.low * grid.factor
  let high := grid.interval.high * grid.factor
  if grid.interval.closed then low ≤ point && point ≤ high else low < point && point < high

/-- The nearer neighbour that reads back; of two equally near ones the larger. -/
def nearest? (grid : Grid) : Option Scaled :=
  let mid := grid.interval.mid * grid.factor
  let below := mid / grid.step
  -- A neighbour that does not read back gives way to the other.
  let digits :=
    if !grid.readsBack below then below + 1
    else if !grid.readsBack (below + 1) then below
    else if 2 * mid < (2 * below + 1) * grid.step then below else below + 1
  if grid.readsBack digits then some ⟨digits, grid.exponent⟩ else none

end Grid

def exact (magnitude : Magnitude) : Scaled :=
  if 0 ≤ magnitude.exponent then
    ⟨magnitude.significand * Nat.pow 2 magnitude.exponent.toNat, 0⟩
  else
    ⟨magnitude.significand * Nat.pow 5 (-magnitude.exponent).toNat, magnitude.exponent⟩

/-- The exponent of a grid coarser than the number: a binary digit is less than 0.30103 decimal
ones. -/
def coarseExponent (magnitude : Magnitude) : Int :=
  (magnitude.exponent + (magnitude.significand.log2 + 1 : Nat)) * 30103 / 100000 + 1

/-- Seventeen digits always read back, so the search ends well within this many grids. -/
def gridsTried : Nat := 21

def shortest (magnitude : Magnitude) : Scaled :=
  let interval := Interval.of magnitude
  let start := coarseExponent magnitude
  ((List.range gridsTried).findSome? fun (finer : Nat) =>
    (Grid.mk interval (start - finer)).nearest?).getD (exact magnitude)

end LambdaLowering.Decimal
