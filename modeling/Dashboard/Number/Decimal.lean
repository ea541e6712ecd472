import Dashboard.Number.Rounding

/-
  Decimal numbers: the floating point number nearest to a
  decimal, and the shortest decimal that reads back as a
  given floating point number.

  Key definitions include:
    * `Decimal`
    * `FloatFormat.nearest`
    * `Binary.ofDecimal`
    * `FloatFormat.shortest`
-/

------------------------------------------------------------
-- Decimals
------------------------------------------------------------

namespace Dashboard

/- A natural number times a power of ten. -/
structure Decimal where
  significand : Nat
  exponent : Int
deriving DecidableEq, Repr

namespace Decimal

/- The decimal digits of a natural number. -/
def digitsOf (n : Nat) : List Char :=
  Nat.toDigits 10 n

/- The value of a run of decimal digits. -/
def valueOf (digits : List Char) : Nat :=
  digits.foldl (fun n c => 10 * n + (c.toNat - 48)) 0

/-
  The number of places before the decimal point when the
  significand is written with its point at the front.
-/
def magnitude (d : Decimal) : Int :=
  (digitsOf d.significand).length + d.exponent

/- The value as a dividend and a divisor. -/
def ratio (d : Decimal) : Nat × Nat :=
  match d.exponent with
  | .ofNat n => (d.significand * Nat.pow 10 n, 1)
  | .negSucc n => (d.significand, Nat.pow 10 (n + 1))

end Decimal

end Dashboard

------------------------------------------------------------
-- Reading
------------------------------------------------------------

namespace Dashboard

/- The units of a format nearest to a decimal. -/
def FloatFormat.nearest
    (f : FloatFormat)
    (d : Decimal) : Nat :=
  let (dividend, divisor) := d.ratio
  f.roundQuotient (dividend * Nat.pow 2 f.scale) divisor

namespace Binary

variable {f : FloatFormat}

/-
  The number nearest to a decimal.  A decimal far outside
  the range of the format is settled by its magnitude, so
  that no huge power of ten is needed: a thousand places
  are too many in front of the point and too many behind it.
-/
def ofDecimal
    (negative : Bool)
    (d : Decimal) : Binary f :=
  if d.significand = 0 || d.magnitude < -1000 then
    ofUnits negative 0
  else if 1000 < d.magnitude then
    infinite negative
  else
    ofUnits negative (f.nearest d)

end Binary

end Dashboard

------------------------------------------------------------
-- Shortest Decimals
------------------------------------------------------------

namespace Dashboard

/-
  Where a number goes that lies in the middle between two
  decimals: to the greater one, or to the even one.
-/
inductive Tie where
  | up
  | toEven
deriving DecidableEq, Repr

/- Whether a tie goes to the lesser one of two decimals. -/
def Tie.goesDown (tie : Tie) (lesser : Nat) : Bool :=
  match tie with
  | up => false
  | toEven => lesser % 2 == 0

namespace FloatFormat

variable (f : FloatFormat)

/- The decimal that equals a count of units exactly. -/
def exact (units : Nat) : Decimal :=
  ⟨units * Nat.pow 5 f.scale, -(f.scale : Int)⟩

/-
  The decimal exponent of the first significant digit of a
  positive count of units.
-/
def leadingExponent (units : Nat) : Int :=
  (Decimal.digitsOf (units * Nat.pow 5 f.scale)).length - 1 -
    (f.scale : Int)

/-
  The two neighbours of a count of units on the grid of
  multiples of a power of ten, the nearer one first.
-/
def neighbours
    (tie : Tie)
    (units : Nat)
    (exponent : Int) :
    Decimal × Decimal :=
  let (dividend, divisor) := Decimal.ratio ⟨units, -exponent⟩
  let step := divisor * Nat.pow 2 f.scale
  let below := dividend / step
  let twice := 2 * (dividend % step)
  if twice < step || (twice == step && tie.goesDown below) then
    (⟨below, exponent⟩, ⟨below + 1, exponent⟩)
  else
    (⟨below + 1, exponent⟩, ⟨below, exponent⟩)

/-
  A multiple of a power of ten that reads back as the count
  of units, the nearest one if there are two.
-/
def onGrid?
    (tie : Tie)
    (units : Nat)
    (exponent : Int) :
    Option Decimal :=
  let (nearer, other) := f.neighbours tie units exponent
  if f.nearest nearer = units then
    some nearer
  else if f.nearest other = units then
    some other
  else
    none

/-
  The decimal with the fewest digits that reads back as a
  count of units.  Seventeen digits are always enough for
  double precision; past them the exact decimal is taken,
  which reads back whatever the format.
-/
def shortest (tie : Tie) (units : Nat) : Decimal :=
  let leading := f.leadingExponent units
  match (List.range 17).findSome? fun (n : Nat) =>
      f.onGrid? tie units (leading - (n : Int)) with
  | some d => d
  | none => f.exact units

end FloatFormat

end Dashboard
