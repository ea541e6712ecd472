import Dashboard.Number.Decimal

/-
  Numerals: numbers as they are written in data.

  Key definitions include:
    * `Numeral`
    * `Numeral.nearest`
    * `Numeral.stepwise?`

  A numeral can be read as the nearest number, or in steps:
  its digits as a count of 64 bits, and then the power of ten.
  Each step rounds, so a numeral of more than fifteen digits
  may be read in steps as a neighbour of the nearest number.
-/

------------------------------------------------------------
-- Numerals
------------------------------------------------------------

namespace Dashboard

/-
  A sign, the digits before a point, the digits after it, and
  an exponent.
-/
structure Numeral where
  negative : Bool
  whole : List Char
  fraction : Option (List Char)
  exponent : Option Int
deriving DecidableEq, Repr

namespace Numeral

/- A numeral with neither a point nor an exponent. -/
def isInteger (numeral : Numeral) : Bool :=
  numeral.fraction.isNone && numeral.exponent.isNone

/- The value of the digits before the point, with the sign. -/
def integer (numeral : Numeral) : Int :=
  Binary.signed numeral.negative
    (Decimal.valueOf numeral.whole)

/- The digits after the point. -/
def places (numeral : Numeral) : List Char :=
  numeral.fraction.getD []

/- The number nearest to a numeral. -/
def nearest
    {f : FloatFormat}
    (numeral : Numeral) : Binary f :=
  .ofDecimal numeral.negative
    ⟨Decimal.valueOf (numeral.whole ++ numeral.places),
      numeral.exponent.getD 0 -
        (numeral.places.length : Int)⟩

end Numeral

end Dashboard

------------------------------------------------------------
-- Digits
------------------------------------------------------------

namespace Dashboard

namespace Numeral

/-
  A count with digits appended as long as it fits in 64 bits,
  and the number of digits that are left.
-/
def appendDigits (count : Nat) : List Char → Nat × Nat
  | [] => (count, 0)
  | c :: rest =>
      let next := 10 * count + (c.toNat - 48)
      if next < 0x10000000000000000 then
        appendDigits next rest
      else
        (count, (c :: rest).length)

/-
  The digits of a numeral as a count of 64 bits times a power
  of ten.  Digits before the point that are left raise the
  power, and digits after the point that are left are lost.
-/
def counted (numeral : Numeral) : Decimal :=
  let (head, raised) := appendDigits 0 numeral.whole
  let (count, lost) := appendDigits head numeral.places
  ⟨count,
    numeral.exponent.getD 0 + (raised : Int) -
      ((numeral.places.length - lost : Nat) : Int)⟩

end Numeral

end Dashboard

------------------------------------------------------------
-- Powers Of Ten
------------------------------------------------------------

namespace Dashboard

namespace Double

/- The greatest exponent of a finite power of ten. -/
def greatestExponent : Nat := 308

/- The number nearest to a power of ten. -/
def tenTo (n : Nat) : Double :=
  .ofDecimal false ⟨1, n⟩

/- A number times a power of ten, unless it is too large. -/
def raise? (x : Double) (n : Nat) : Option Double :=
  if n ≤ greatestExponent then
    some (x.mul (tenTo n))
  else if x.equals .zero then
    some x
  else
    none

/-
  A number divided by a power of ten, in two steps if there
  is no such power.  A count of 64 bits divided by a power
  that needs more steps leaves nothing.
-/
def lower (x : Double) (n : Nat) : Double :=
  if n ≤ greatestExponent then
    x.div (tenTo n)
  else if n ≤ 2 * greatestExponent then
    (x.div (tenTo greatestExponent)).div
      (tenTo (n - greatestExponent))
  else
    .zero

/- A number times a power of ten with any exponent. -/
def scale? (x : Double) : Int → Option Double
  | .ofNat n => (raise? x n).filter Binary.isFinite
  | .negSucc n => some (lower x (n + 1))

end Double

namespace Numeral

/- A number with the sign of a numeral. -/
def withSign (numeral : Numeral) (x : Double) : Double :=
  if numeral.negative then x.neg else x

/- The number that a numeral is in steps, if it is finite. -/
def stepwise? (numeral : Numeral) : Option Double :=
  let counted := numeral.counted
  (Double.scale? (.ofNat counted.significand)
    counted.exponent).map numeral.withSign

end Numeral

end Dashboard
