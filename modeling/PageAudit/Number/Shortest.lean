import PageAudit.Number.Double

/-!
# The fewest digits that read back

Every number owns an interval of fractions that round to it. Of the decimal grids, the powers of ten
and their multiples, the coarsest that has a point in the interval gives the fewest digits; if it
has two such points, the nearer is taken. A grid that has any has one next to the number itself, so
only the two neighbours of the number are looked at.
-/

namespace PageAudit.Double

/-- What a multiple of `10 ^ g` and a multiple of `2 ^ e` are to be multiplied with, so that they
compare like the numbers themselves. -/
def commonScale (g e : Int) : Nat × Nat :=
  (Nat.pow 10 g.toNat * Nat.pow 2 (-e).toNat, Nat.pow 10 (-g).toNat * Nat.pow 2 e.toNat)

/-- The nearest neighbour on the grid of `10 ^ g` that reads back as `significand · 2 ^ exponent`.
All lengths are measured in quarters of the last bit. -/
def neighbour? (significand : Nat) (exponent g : Int) : Option Nat :=
  let (decimal, binary) := commonScale g (exponent - 2)
  let value := 4 * significand * binary
  let atPower := significand == Nat.pow 2 (precision - 1) && leastExponent < exponent
  let low := (4 * significand - if atPower then 1 else 2) * binary
  let high := (4 * significand + 2) * binary
  let inside (point : Nat) : Bool :=
    (low < point && point < high)
      || (significand % 2 == 0 && (low == point || point == high))
  let c := value / decimal
  let below := inside (c * decimal)
  let above := inside ((c + 1) * decimal)
  if below && above then
    let middle := (2 * c + 1) * decimal
    some (if 2 * value < middle || (2 * value == middle && c % 2 == 0) then c else c + 1)
  else if below then some c
  else if above then some (c + 1)
  else none

/-- The first grid with a neighbour that reads back, from the coarsest on: the neighbour and the
power of ten. -/
def firstNeighbour (significand : Nat) (exponent g : Int) : Nat → Nat × Int
  | 0 => (0, g)
  | tries + 1 =>
    match neighbour? significand exponent g with
    | some c => (c, g)
    | none => firstNeighbour significand exponent (g - 1) tries

/-- A power of ten that is greater than a positive number. -/
def powerAbove (significand : Nat) (exponent : Int) : Int :=
  ((significand.log2 : Int) + exponent + 1) * 30103 / 100000 + 2

/-- Seventeen digits always read back; the rest is for the first power being too great. -/
def gridTries : Nat := 22

/-- The shortest decimal form of a positive number, as a coefficient and a power of ten. -/
def shortest (significand : Nat) (exponent : Int) : Nat × Int :=
  firstNeighbour significand exponent (powerAbove significand exponent) gridTries

end PageAudit.Double
