import StateAddress.Text

/-!
# Decimal fractions

Exact fractions with a finite decimal expansion, as they occur among lengths and sizes.  The
sign is kept apart from the digits, so that a negative zero keeps its sign.

## Main definitions

* `Decimal` : a sign, a number of units and the number of places after the point.
* `Decimal.ofScaled` : the fraction without superfluous zeros.
* `Decimal.numeral` : the written form, with a point and at least one digit behind it, or with an
  exponent where the point is far from the digits.
* `Decimal.Scaled` : numbers as an integer over a power of ten, and their order.
-/

namespace StateAddress

/-- The fraction `± units / 10 ^ places`. -/
structure Decimal where
  negative : Bool
  units : Nat
  places : Nat
  deriving DecidableEq, Repr

namespace Decimal

/-- Drops zeros at the end of the expansion, all but the first place. -/
def trim : (units places : Nat) → Nat × Nat
  | units, 0 => (10 * units, 1)
  | units, 1 => (units, 1)
  | units, places + 2 =>
      if units % 10 = 0 then trim (units / 10) (places + 1) else (units, places + 2)

/-- The fraction `± units / 10 ^ places` without superfluous zeros. -/
def ofScaled (negative : Bool) (units places : Nat) : Decimal :=
  ⟨negative, (trim units places).1, (trim units places).2⟩

/-- The last `width` decimal digits of a number. -/
def digits : (width : Nat) → (n : Nat) → Text
  | 0, _ => []
  | width + 1, n => digits width (n / 10) ++ [.scalar (Nat.digitChar (n % 10))]

/-- The number of units that make up one, with a number of places. -/
def unitsPerOne (places : Nat) : Nat := Nat.pow 10 places

/-- The written form with whole part, point and places. -/
def plainNumeral (d : Decimal) : Text :=
  Text.ofNat (d.units / unitsPerOne d.places) ++ "." ++
    digits d.places (d.units % unitsPerOne d.places)

/-- How many of the significant digits stand before the point; a negative number counts zeros
between the point and the first of them. -/
def pointPosition (d : Decimal) : Int := (Text.ofNat d.units).length - d.places

/-- The significant digits, without the zeros at their end. -/
def significand (d : Decimal) : Text :=
  ((Text.ofNat d.units).reverse.dropWhile (· = .scalar '0')).reverse

/-- An exponent: its sign and two digits or more. -/
def exponent (e : Int) : Text :=
  (if e < 0 then "-" else "+") ++
    (if e.natAbs < 10 then digits 2 e.natAbs else Text.ofNat e.natAbs)

/-- The written form with an exponent, after the first significant digit. -/
def scientificNumeral (d : Decimal) : Text :=
  d.significand.take 1 ++ (if d.significand.length ≤ 1 then "" else ".") ++
    d.significand.drop 1 ++ "e" ++ exponent (d.pointPosition - 1)

/-- Whether a fraction is written without an exponent, as zero and those are whose point is near
the first digit. -/
def isPlain (d : Decimal) : Bool :=
  d.units = 0 || (-4 < d.pointPosition && d.pointPosition ≤ 16)

/-- The written form, after the sign. -/
def numeral (d : Decimal) : Text :=
  (if d.negative then "-" else "") ++ (if d.isPlain then d.plainNumeral else d.scientificNumeral)

/-- A number as an integer over a power of ten. -/
structure Scaled where
  units : Int
  places : Nat
  deriving DecidableEq, Repr

/-- The number that an integer is. -/
def Scaled.ofInt (n : Int) : Scaled := ⟨n, 0⟩

/-- The number that a fraction is. -/
def toScaled (d : Decimal) : Scaled :=
  ⟨if d.negative then -(d.units : Int) else d.units, d.places⟩

/-- Whether the first number is smaller. -/
def Scaled.lt (x y : Scaled) : Bool :=
  decide (x.units * unitsPerOne y.places < y.units * unitsPerOne x.places)

/-- Whether the numbers are the same. -/
def Scaled.eq (x y : Scaled) : Bool :=
  decide (x.units * unitsPerOne y.places = y.units * unitsPerOne x.places)

@[simp] theorem Scaled.lt_ofInt (m n : Int) :
    (Scaled.ofInt m).lt (Scaled.ofInt n) = decide (m < n) := by
  simp [Scaled.lt, Scaled.ofInt, unitsPerOne]

@[simp] theorem Scaled.eq_ofInt (m n : Int) :
    (Scaled.ofInt m).eq (Scaled.ofInt n) = decide (m = n) := by
  simp [Scaled.eq, Scaled.ofInt, unitsPerOne]

end Decimal

end StateAddress
