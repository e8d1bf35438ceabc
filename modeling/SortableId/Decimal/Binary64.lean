/-!
# Binary floating-point numbers

Nonnegative finite numbers of double precision, as exact products of a mantissa and a power of
two.  Every operation computes the exact result as a ratio of natural numbers and rounds once, to
the nearest number and to the even mantissa in a tie.
-/

namespace SortableId

/-- The number `mantissa * 2 ^ exponent`.  Mantissas stay below `2 ^ 53`, and they stay at or above
`2 ^ 52` unless the exponent is the least one, which is `-1074`. -/
structure Binary64 where
  mantissa : Nat
  exponent : Int
  deriving DecidableEq, Repr

namespace Binary64

/-- Zero. -/
def zero : Binary64 := ⟨0, -1074⟩

/-- The least mantissa with 53 bits. -/
def leastFullMantissa : Nat := 1 <<< 52

/-- A number is the ratio of this natural number and `denominator`. -/
def numerator (x : Binary64) : Nat := x.mantissa <<< x.exponent.toNat

/-- A number is the ratio of `numerator` and this natural number. -/
def denominator (x : Binary64) : Nat := 1 <<< (-x.exponent).toNat

/-- A quotient rounded to the nearest natural number, and to the even one in a tie. -/
def roundDiv (dividend divisor : Nat) : Nat :=
  let quotient := dividend / divisor
  let twice := 2 * (dividend % divisor)
  if twice < divisor ∨ (twice = divisor ∧ quotient % 2 = 0) then quotient else quotient + 1

/-- A ratio divided by a power of two, as a dividend and a divisor. -/
def scaled (dividend divisor : Nat) (exponent : Int) : Nat × Nat :=
  (dividend <<< (-exponent).toNat, divisor <<< exponent.toNat)

/-- The exponent for which the mantissa of a ratio has 53 bits, or the least exponent. -/
def exponentOf (dividend divisor : Nat) : Int :=
  let guess : Int := (dividend.log2 : Int) - divisor.log2 - 53
  let (above, below) := scaled dividend divisor guess
  max (-1074) (if above < below <<< 53 then guess else guess + 1)

/-- The number nearest to a ratio, unless it is too large for any. -/
def ofRatio (dividend divisor : Nat) : Option Binary64 :=
  if dividend = 0 then
    some zero
  else
    let exponent := exponentOf dividend divisor
    let (above, below) := scaled dividend divisor exponent
    let mantissa := roundDiv above below
    let rounded : Binary64 :=
      if mantissa = 2 * leastFullMantissa then ⟨leastFullMantissa, exponent + 1⟩
      else ⟨mantissa, exponent⟩
    if 971 < rounded.exponent then none else some rounded

/-- One, a half and the least positive number are kept; a third is rounded to the nearest. -/
example :
    ofRatio 1 1 = some ⟨leastFullMantissa, -52⟩ ∧
      ofRatio 1 2 = some ⟨leastFullMantissa, -53⟩ ∧
      ofRatio 1 3 = some ⟨6004799503160661, -54⟩ ∧ ofRatio 1 (1 <<< 1074) = some ⟨1, -1074⟩ ∧
      ofRatio (1 <<< 1024) 1 = none := by
  decide +kernel

/-- The rounded product. -/
def mul (x y : Binary64) : Option Binary64 :=
  ofRatio (x.numerator * y.numerator) (x.denominator * y.denominator)

/-- The rounded quotient. -/
def div (x y : Binary64) : Option Binary64 :=
  ofRatio (x.numerator * y.denominator) (x.denominator * y.numerator)

/-- The rounded power of ten. -/
def powerOfTen (exponent : Nat) : Option Binary64 := ofRatio (Nat.pow 10 exponent) 1

end Binary64

end SortableId
