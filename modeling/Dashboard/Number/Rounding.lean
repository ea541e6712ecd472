import Dashboard.Number.Binary

/-
  Rounding to a floating point format, and arithmetic as
  exact arithmetic followed by one rounding.

  Key definitions include:
    * `divideToEven`
    * `FloatFormat.roundQuotient`
    * `Binary.ofQuotient`
    * `Binary.add`
    * `Binary.mul`
    * `Binary.div`
    * `Binary.roundToWhole`
-/

------------------------------------------------------------
-- Rounding
------------------------------------------------------------

namespace Dashboard

/-
  The quotient rounded to the nearest natural number, where
  a half goes to the even neighbour.
-/
def divideToEven (dividend divisor : Nat) : Nat :=
  let quotient := dividend / divisor
  let twice := 2 * (dividend % divisor)
  if twice < divisor then
    quotient
  else if divisor < twice then
    quotient + 1
  else
    quotient + quotient % 2

/-
  A quotient of units rounded to as many significant bits
  as the format keeps.
-/
def FloatFormat.roundQuotient
    (f : FloatFormat)
    (dividend divisor : Nat) : Nat :=
  let surplus := (dividend / divisor).log2 + 1 - f.precision
  divideToEven dividend (divisor * Nat.pow 2 surplus) *
    Nat.pow 2 surplus

namespace Binary

variable {f : FloatFormat}

/- The number nearest to a quotient of units. -/
def ofQuotient
    (negative : Bool)
    (dividend divisor : Nat) : Binary f :=
  ofUnits negative (f.roundQuotient dividend divisor)

/- The number nearest to an integer. -/
def ofInt (n : Int) : Binary f :=
  ofQuotient (n < 0) (n.natAbs * Nat.pow 2 f.scale) 1

/- The number nearest to a natural number. -/
def ofNat (n : Nat) : Binary f :=
  ofInt n

/- The nearest number of another format. -/
def convert
    {g : FloatFormat} :
    Binary f → Binary g
  | finite negative units _ =>
      ofQuotient negative (units * Nat.pow 2 g.scale)
        (Nat.pow 2 f.scale)
  | infinite negative => infinite negative
  | notANumber => notANumber

end Binary

end Dashboard

------------------------------------------------------------
-- Arithmetic
------------------------------------------------------------

namespace Dashboard

namespace Binary

variable {f : FloatFormat}

/- The positive zero. -/
def zero : Binary f :=
  ofUnits false 0

/-
  The sum of two numbers.  A sum of zero is negative only
  when both summands are.
-/
def add (x y : Binary f) : Binary f :=
  match x, y with
  | finite n a _, finite m b _ =>
      let sum := signed n a + signed m b
      if sum = 0 then
        ofUnits (n && m) 0
      else
        ofQuotient (sum < 0) sum.natAbs 1
  | finite .., y => y
  | infinite n, infinite m =>
      if n = m then infinite n else notANumber
  | infinite n, finite .. => infinite n
  | _, _ => notANumber

/- The product of two numbers. -/
def mul (x y : Binary f) : Binary f :=
  match x, y with
  | finite n a _, finite m b _ =>
      ofQuotient (n != m) (a * b) (Nat.pow 2 f.scale)
  | finite n a _, infinite m =>
      if a = 0 then notANumber else infinite (n != m)
  | infinite n, finite m b _ =>
      if b = 0 then notANumber else infinite (n != m)
  | infinite n, infinite m => infinite (n != m)
  | _, _ => notANumber

/- The quotient of two numbers. -/
def div (x y : Binary f) : Binary f :=
  match x, y with
  | finite n a _, finite m b _ =>
      if b = 0 then
        if a = 0 then notANumber else infinite (n != m)
      else
        ofQuotient (n != m) (a * Nat.pow 2 f.scale) b
  | finite n _ _, infinite m => ofUnits (n != m) 0
  | infinite n, finite m _ _ => infinite (n != m)
  | _, _ => notANumber

/- The sum of a list, from left to right. -/
def sum (xs : List (Binary f)) : Binary f :=
  xs.foldl add zero

/-
  The magnitude of a count of units as a whole number, where
  a half goes up.
-/
def wholeOf (f : FloatFormat) (units : Nat) : Nat :=
  (2 * units + Nat.pow 2 f.scale) / Nat.pow 2 (f.scale + 1)

/-
  The nearest whole number, where a half goes away from
  zero.
-/
def roundToWhole : Binary f → Binary f
  | finite negative units _ =>
      ofQuotient negative (wholeOf f units * Nat.pow 2 f.scale) 1
  | x => x

/- The integer that a number is, if it is one. -/
def toInt? : Binary f → Option Int
  | finite negative units _ =>
      if units % Nat.pow 2 f.scale = 0 then
        some (signed negative (units / Nat.pow 2 f.scale))
      else
        none
  | _ => none

end Binary

end Dashboard
