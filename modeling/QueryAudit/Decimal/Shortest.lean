/-!
# The shortest decimal

A binary floating point number stands for an interval of reals, all of which
round to it.  Its shortest decimal has the fewest digits among the decimals in
that interval, and is the one nearest to the number among those.

The number is `m · 2 ^ q`.  With few digits the decimals form a coarse grid, so
for each count of digits only the two grid points around the number matter: if
any grid point lies in the interval, one of these two does.  All comparisons
are between products of natural numbers.
-/

namespace QueryAudit.Decimal

/-- A positive number `significand · 2 ^ exponent`, in double precision. -/
structure Binary where
  significand : Nat
  exponent : Int
  /-- Is the next smaller number only half as far away as the next larger one? -/
  atPowerOfTwo : Bool
  deriving DecidableEq, Repr

/-- The magnitude of a double precision number, given by its bits. -/
def Binary.ofBits (bits : UInt64) : Binary :=
  let fraction : Nat := bits.toNat % Nat.pow 2 52
  let biased : Nat := bits.toNat / Nat.pow 2 52 % Nat.pow 2 11
  if biased = 0 then ⟨fraction, -1074, false⟩
  else ⟨fraction + Nat.pow 2 52, (biased : Int) - 1075, fraction = 0 ∧ 1 < biased⟩

/-- A decimal `digits · 10 ^ exponent`. -/
structure Digits where
  digits : Nat
  exponent : Int
  deriving DecidableEq, Repr

/-- The decimals with one exponent near a number: the products that compare grid
points, the number and the ends of its interval.  The grid point `k` is `k · step`,
the number is `value`, and the interval runs from `low` to `high`. -/
structure Grid where
  step : Nat
  low : Nat
  value : Nat
  high : Nat
  closed : Bool

/-- The grid of the multiples of `10 ^ exponent` around a number. -/
def Grid.around (b : Binary) (exponent : Int) : Grid :=
  let scale := Nat.pow 2 (b.exponent - 2).toNat * Nat.pow 10 (-exponent).toNat
  { step := Nat.pow 2 (2 - b.exponent).toNat * Nat.pow 10 exponent.toNat
    low := (4 * b.significand - if b.atPowerOfTwo then 1 else 2) * scale
    value := 4 * b.significand * scale
    high := (4 * b.significand + 2) * scale
    closed := b.significand % 2 = 0 }

/-- Does a grid point lie in the interval? -/
def Grid.holds (g : Grid) (k : Nat) : Bool :=
  if g.closed then decide (g.low ≤ k * g.step) && decide (k * g.step ≤ g.high)
  else decide (g.low < k * g.step) && decide (k * g.step < g.high)

/-- The grid point in the interval that is nearest to the number, if any; of two
at the same distance the even one. -/
def Grid.nearest? (g : Grid) : Option Nat :=
  let k := g.value / g.step
  if g.holds k && g.holds (k + 1) then
    let below := g.value - k * g.step
    let above := (k + 1) * g.step - g.value
    if below < above || (below == above && k % 2 == 0) then some k else some (k + 1)
  else if g.holds k then some k
  else if g.holds (k + 1) then some (k + 1)
  else none

/-- The number of digits in front of the decimal point; negative for zeros behind it. -/
def pointPosition (b : Binary) : Int :=
  let num := b.significand * Nat.pow 2 b.exponent.toNat
  let den := Nat.pow 2 (-b.exponent).toNat
  if den ≤ num then ((Nat.toDigits 10 (num / den)).length : Int)
  else
    match (List.range 400).find? fun k => decide (den ≤ num * Nat.pow 10 k) with
    | some k => 1 - (k : Int)
    | none => 0

/-- A decimal without zeros at the end of its digits; `fuel` bounds their number. -/
def Digits.stripZeros (fuel : Nat) (d : Digits) : Digits :=
  match fuel with
  | 0 => d
  | fuel + 1 =>
    if d.digits % 10 = 0 then stripZeros fuel ⟨d.digits / 10, d.exponent + 1⟩ else d

/-- The shortest decimal of a positive number.  Seventeen digits always suffice. -/
def shortest (b : Binary) : Digits :=
  let point := pointPosition b
  let found := (List.range 17).findSome? fun (n : Nat) =>
    let exponent := point - ((n : Int) + 1)
    (Grid.around b exponent).nearest?.map fun k => (⟨k, exponent⟩ : Digits)
  (found.getD ⟨0, 0⟩).stripZeros 20

end QueryAudit.Decimal
