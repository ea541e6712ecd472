import Dashboard.Number.Decimal

/-
  Writing numbers.

  Key definitions include:
    * `NumberStyle`
    * `NumberStyle.data`
    * `NumberStyle.prose`
    * `NumberStyle.write`
-/

------------------------------------------------------------
-- Styles
------------------------------------------------------------

namespace Dashboard

/-
  How a number is written: the range of decimal points, if
  any, outside which an exponent is used, and whether a
  whole number shows one decimal place, and where a tie
  between two shortest decimals goes.  A decimal point of `n`
  stands after the first `n` digits.
-/
structure NumberStyle where
  plain : Option (Int × Int)
  wholePlace : Bool
  tie : Tie
deriving DecidableEq, Repr

namespace NumberStyle

/-
  Numbers in data are plain from `0.00001` up to sixteen
  places before the point, and whole numbers end in `.0`.
-/
def data : NumberStyle :=
  ⟨some (-4, 16), true, .toEven⟩

/- Numbers in prose never have an exponent. -/
def prose : NumberStyle :=
  ⟨none, false, .up⟩

end NumberStyle

end Dashboard

------------------------------------------------------------
-- Layout
------------------------------------------------------------

namespace Dashboard

namespace NumberStyle

/- The significant digits without trailing zeros. -/
def significant (d : Decimal) : List Char :=
  match
    ((Decimal.digitsOf d.significand).reverse.dropWhile
      (· == '0')).reverse with
  | [] => ['0']
  | digits => digits

/- Digits written without an exponent. -/
def writePlain
    (style : NumberStyle)
    (digits : List Char)
    (point : Int) : List Char :=
  if point ≤ 0 then
    '0' :: '.' :: List.replicate (-point).toNat '0' ++ digits
  else
    let places := point.toNat
    if digits.length ≤ places then
      digits ++ List.replicate (places - digits.length) '0' ++
        (if style.wholePlace then ['.', '0'] else [])
    else
      digits.take places ++ '.' :: digits.drop places

/- Digits written with an exponent. -/
def writeExponent
    (digits : List Char)
    (point : Int) : List Char :=
  let exponent := point - 1
  digits.take 1 ++
    (if digits.length ≤ 1 then [] else '.' :: digits.drop 1) ++
    'e' :: (if exponent < 0 then '-' else '+') ::
      Decimal.digitsOf exponent.natAbs

/- A positive decimal in a style. -/
def writeDecimal
    (style : NumberStyle)
    (d : Decimal) : List Char :=
  let digits := significant d
  match style.plain with
  | none => style.writePlain digits d.magnitude
  | some (first, last) =>
      if first ≤ d.magnitude && d.magnitude ≤ last then
        style.writePlain digits d.magnitude
      else
        writeExponent digits d.magnitude

/- A finite magnitude in a style. -/
def writeUnits
    (style : NumberStyle)
    (f : FloatFormat)
    (units : Nat) : List Char :=
  if units = 0 then
    style.writePlain ['0'] 1
  else
    style.writeDecimal (f.shortest style.tie units)

/- A number in a style. -/
def write
    {f : FloatFormat}
    (style : NumberStyle)
    (x : Binary f) : List Char :=
  let sign := if x.isNegative then ['-'] else []
  match x with
  | .finite _ units _ => sign ++ style.writeUnits f units
  | .infinite _ => sign ++ ['i', 'n', 'f']
  | .notANumber => ['N', 'a', 'N']

end NumberStyle

/- A number as it stands in a sentence. -/
def Binary.prose {f : FloatFormat} (x : Binary f) : String :=
  String.ofList (NumberStyle.prose.write x)

end Dashboard
