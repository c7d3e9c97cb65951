/-!
# Numbers of double precision

A finite number is a significand times a power of two. The significand has at most 53 bits, and
exactly 53 unless the exponent is the least there is, so every number has one form. `ofRatio` rounds
a fraction to the nearest number, a fraction half way between two to the one with the even
significand.
-/

namespace PageAudit

/-- A number, finite or not. A finite one has a sign even if it is zero. -/
inductive Double where
  | finite (negative : Bool) (significand : Nat) (exponent : Int)
  | infinite (negative : Bool)
  | notANumber
  deriving DecidableEq, Repr

namespace Double

/-- The number of bits of a significand. -/
def precision : Nat := 53

/-- The exponent of the smallest numbers. -/
def leastExponent : Int := -1074

/-- The exponent of the largest numbers. -/
def greatestExponent : Int := 971

/-- Either of the two zeros. -/
def signedZero (negative : Bool) : Double :=
  finite negative 0 leastExponent

/-- The zero without a minus sign. -/
def zero : Double := signedZero false

/-- Either of the two zeros. -/
def isZero : Double → Bool
  | finite _ significand _ => significand == 0
  | _ => false

/-- Less than zero, which neither of the zeros is. -/
def isNegative : Double → Bool
  | finite negative significand _ => negative && significand != 0
  | infinite negative => negative
  | notANumber => false

/-- The quotient rounded to the nearest whole number, a half to the even one. -/
def roundDiv (num den : Nat) : Nat :=
  let q := num / den
  let twice := 2 * (num % den)
  if twice < den || (twice == den && q % 2 == 0) then q else q + 1

/-- The numerator and the denominator of `num / den / 2 ^ e`. -/
def scaled (num den : Nat) (e : Int) : Nat × Nat :=
  if e < 0 then (num * Nat.pow 2 (-e).toNat, den) else (num, den * Nat.pow 2 e.toNat)

/-- The exponent at which a positive fraction has a significand of full precision, or the least. -/
def exponentOf (num den : Nat) : Int :=
  let e : Int := (num.log2 : Int) - den.log2 - precision
  let (n, d) := scaled num den e
  max leastExponent (if n < d * Nat.pow 2 precision then e else e + 1)

/-- A significand that rounding has carried to one bit too many is halved. -/
def normal (negative : Bool) (significand : Nat) (e : Int) : Double :=
  let (significand, e) :=
    if significand == Nat.pow 2 precision then (Nat.pow 2 (precision - 1), e + 1)
    else (significand, e)
  if greatestExponent < e then infinite negative else finite negative significand e

/-- The number nearest to a fraction. -/
def ofRatio (negative : Bool) (num den : Nat) : Double :=
  if num == 0 then signedZero negative
  else
    let e := exponentOf num den
    let (n, d) := scaled num den e
    normal negative (roundDiv n d) e

/-- From this number of digits before the point on, a number is infinite. -/
def tooLarge : Int := 310

/-- With as many noughts after the point, a number is zero. -/
def tooSmall : Int := -330

/-- The number nearest to `coefficient · 10 ^ exponent`. -/
def ofDecimal (negative : Bool) (coefficient : Nat) (exponent : Int) : Double :=
  let point := (Nat.toDigits 10 coefficient).length + exponent
  if coefficient == 0 || point < tooSmall then signedZero negative
  else if tooLarge < point then infinite negative
  else if exponent < 0 then ofRatio negative coefficient (Nat.pow 10 (-exponent).toNat)
  else ofRatio negative (coefficient * Nat.pow 10 exponent.toNat) 1

/-- The whole part of a number times `n`; what is negative or not finite counts as nothing. -/
def wholeTimes (n : Nat) : Double → Nat
  | finite false significand e =>
    if e < 0 then significand * n / Nat.pow 2 (-e).toNat
    else significand * n * Nat.pow 2 e.toNat
  | _ => 0

end Double

end PageAudit
