import SortableId.Decimal.Binary64

/-!
# Shortest decimals

Among the decimals that are rounded to a given binary number, those with the fewest digits are the
shortest, and of these the one nearest to the number is taken.
-/

namespace SortableId

/-- The number `digits * 10 ^ exponent`. -/
structure Decimal where
  digits : Nat
  exponent : Int
  deriving DecidableEq, Repr

namespace Decimal

/-- The quotient of a number and a power of ten, as a dividend and a divisor. -/
def scaled (x : Binary64) (exponent : Int) : Nat × Nat :=
  (x.numerator * Nat.pow 10 (-exponent).toNat, x.denominator * Nat.pow 10 exponent.toNat)

/-- The exponent of the first digit of a positive number. -/
def leadingExponent (x : Binary64) : Int :=
  if x.denominator ≤ x.numerator then
    ((Nat.toDigits 10 (x.numerator / x.denominator)).length : Int) - 1
  else
    let reaches (places : Nat) := decide (x.denominator ≤ x.numerator * Nat.pow 10 places)
    Int.neg (((List.range 325).find? reaches).getD 0)

/-- Whether a decimal is rounded to the given number.  The numbers that are lie between the
midpoints to both neighbours; the midpoints belong to them if the mantissa is even, and the lower
neighbour is nearer where the mantissa is the least with 53 bits. -/
def roundsTo (x : Binary64) (decimal : Decimal) : Bool :=
  let quarter := x.exponent - 2
  let scaledDigits :=
    (decimal.digits * Nat.pow 10 decimal.exponent.toNat) <<< (-quarter).toNat
  let scaledQuarters (quarters : Nat) :=
    (quarters * Nat.pow 10 (-decimal.exponent).toNat) <<< quarter.toNat
  let gapBelow := if x.mantissa = Binary64.leastFullMantissa ∧ x.exponent ≠ -1074 then 1 else 2
  let low := scaledQuarters (4 * x.mantissa - gapBelow)
  let high := scaledQuarters (4 * x.mantissa + 2)
  if x.mantissa % 2 = 0 then decide (low ≤ scaledDigits ∧ scaledDigits ≤ high)
  else decide (low < scaledDigits ∧ scaledDigits < high)

/-- The nearest decimal with the given exponent that is rounded to the number, if there is one: one
of the two neighbours of the number on that grid. -/
def onGrid? (x : Binary64) (exponent : Int) : Option Decimal :=
  let (dividend, divisor) := scaled x exponent
  let quotient := dividend / divisor
  let near := Binary64.roundDiv dividend divisor
  let far := if near = quotient then quotient + 1 else quotient
  [near, far].map (Decimal.mk · exponent) |>.find? (roundsTo x)

/-- A decimal without zeros at its end. -/
def withoutTrailingZero (decimal : Decimal) : Decimal :=
  if decimal.digits % 10 = 0 then ⟨decimal.digits / 10, decimal.exponent + 1⟩ else decimal

/-- The shortest decimal that is rounded to a positive number.  Seventeen digits always suffice. -/
def shortest (x : Binary64) : Decimal :=
  let leading := leadingExponent x
  let found := (List.range 17).findSome? fun more => onGrid? x (leading - (more : Nat))
  withoutTrailingZero (found.getD ⟨0, 0⟩)

/-- Where a format stops writing all places of a number and starts to write an exponent. -/
structure Format where
  /-- The least exponent of the first digit for which all places are written. -/
  leastPositional : Int
  /-- The greatest exponent of the first digit for which all places are written. -/
  greatestPositional : Int

/-- The digits of a decimal with all its places and at least one place behind the point. -/
def positional (decimal : Decimal) (leading : Int) : List Char :=
  let digits := Nat.toDigits 10 decimal.digits
  if 0 ≤ decimal.exponent then
    digits ++ List.replicate decimal.exponent.toNat '0' ++ ['.', '0']
  else if 0 ≤ leading then
    digits.take (leading.toNat + 1) ++ '.' :: digits.drop (leading.toNat + 1)
  else
    ['0', '.'] ++ List.replicate (-leading - 1).toNat '0' ++ digits

/-- The digits of a decimal with a point behind the first and an exponent with its sign. -/
def scientific (decimal : Decimal) (leading : Int) : List Char :=
  let sign := if leading < 0 then '-' else '+'
  let fraction :=
    match (Nat.toDigits 10 decimal.digits).tail with
    | [] => []
    | digits => '.' :: digits
  (Nat.toDigits 10 decimal.digits).take 1 ++ fraction ++
    'e' :: sign :: Nat.toDigits 10 leading.natAbs

/-- The text of a number in the given format. -/
def text (format : Format) (x : Binary64) : String :=
  if x.mantissa = 0 then
    "0.0"
  else
    let decimal := shortest x
    let leading := decimal.exponent + (Nat.toDigits 10 decimal.digits).length - 1
    String.ofList <|
      if format.leastPositional ≤ leading ∧ leading ≤ format.greatestPositional then
        decimal.positional leading
      else
        decimal.scientific leading

end Decimal

end SortableId
