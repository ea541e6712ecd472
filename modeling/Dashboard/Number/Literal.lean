import Dashboard.Number.Decimal
import Dashboard.Text.Blank
import Dashboard.Text.Word

/-
  Numbers at the start of a text, and texts that read as a
  number.

  Key definitions include:
    * `NumberLiteral`
    * `NumberLiteral.scan`
    * `floatPrefix?`
    * `integerOfDigits?`
    * `integerPrefix?`
    * `readsAsNumber`

  A literal is an optional sign followed by `Infinity` or by
  digits with at most one point, at least one digit, and an
  optional exponent.  Scanning takes as much as it can.
-/

------------------------------------------------------------
-- Literals
------------------------------------------------------------

namespace Dashboard

/- The parts of a literal after its sign. -/
inductive NumberBody where
  | infinity
  | decimal (whole fraction : List Char) (exponent : Int)
deriving DecidableEq, Repr

/- A literal: its sign and what follows. -/
structure NumberLiteral where
  negative : Bool
  body : NumberBody
deriving DecidableEq, Repr

namespace NumberLiteral

/- A sign, if there is one, and the rest of the text. -/
def scanSign : List Char → Bool × List Char
  | '+' :: rest => (false, rest)
  | '-' :: rest => (true, rest)
  | text => (false, text)

/- The leading digits and the rest of the text. -/
def scanDigits (text : List Char) : List Char × List Char :=
  (text.takeWhile Text.isDigit, text.dropWhile Text.isDigit)

/-
  The exponent at the start of a text, and the rest; without
  digits there is no exponent and nothing is taken.
-/
def scanExponent (text : List Char) : Int × List Char :=
  match text with
  | [] => (0, [])
  | mark :: rest =>
      if mark = 'e' || mark = 'E' then
        let (negative, unsigned) := scanSign rest
        let (digits, after) := scanDigits unsigned
        if digits.isEmpty then
          (0, text)
        else
          (Binary.signed negative (Decimal.valueOf digits),
            after)
      else
        (0, text)

/-
  The digits before and after a point, at least one of them,
  and the rest of the text.
-/
def scanPlaces
    (text : List Char) :
    Option (List Char × List Char × List Char) :=
  let (whole, after) := scanDigits text
  match after with
  | '.' :: more =>
      let (fraction, rest) := scanDigits more
      if whole.isEmpty && fraction.isEmpty then
        none
      else
        some (whole, fraction, rest)
  | _ => if whole.isEmpty then none else some (whole, [], after)

/- A literal without its sign, and the rest of the text. -/
def scanBody
    (text : List Char) :
    Option (NumberBody × List Char) :=
  let infinity := "Infinity".toList
  if infinity.isPrefixOf text then
    some (.infinity, text.drop infinity.length)
  else
    match scanPlaces text with
    | none => none
    | some (whole, fraction, after) =>
        let (exponent, rest) := scanExponent after
        some (.decimal whole fraction exponent, rest)

/- The literal at the start of a text, and the rest. -/
def scan
    (text : List Char) :
    Option (NumberLiteral × List Char) :=
  let (negative, unsigned) := scanSign text
  match scanBody unsigned with
  | none => none
  | some (body, rest) => some (⟨negative, body⟩, rest)

/- The number nearest to a literal. -/
def value
    {f : FloatFormat}
    (literal : NumberLiteral) : Binary f :=
  match literal.body with
  | .infinity => .infinite literal.negative
  | .decimal whole fraction exponent =>
      .ofDecimal literal.negative
        ⟨Decimal.valueOf (whole ++ fraction),
          exponent - (fraction.length : Int)⟩

end NumberLiteral

end Dashboard

------------------------------------------------------------
-- Numbers At The Start
------------------------------------------------------------

namespace Dashboard

/- The number at the start of a text, after blanks. -/
def floatPrefix? (text : String) : Option Double :=
  match NumberLiteral.scan (Text.trimLeft text.toList) with
  | none => none
  | some (literal, _) => some literal.value

/- The least and the greatest 64-bit integer with a sign. -/
def leastInteger : Int := -0x8000000000000000

def greatestInteger : Int := 0x7fffffffffffffff

/- The nearest integer that 64 bits with a sign can hold. -/
def clampInteger (n : Int) : Int :=
  max leastInteger (min n greatestInteger)

/- An integer, if 64 bits with a sign can hold it. -/
def fitting? (n : Int) : Option Int :=
  if clampInteger n = n then some n else none

/-
  An integer with a digit appended, away from zero.  Ten times
  the integer has to fit first, and then the sum.
-/
def appendDigit?
    (negative : Bool)
    (n : Int)
    (digit : Char) : Option Int :=
  match fitting? (10 * n) with
  | none => none
  | some tens =>
      fitting?
        (tens + Binary.signed negative (digit.toNat - 48))

/- The integer that digits behind a sign are, if it fits. -/
def integerOfDigits?
    (negative : Bool)
    (digits : List Char) : Option Int :=
  digits.foldlM (appendDigit? negative) 0

/-
  The integer at the start of a text, after blanks.  Digits
  that do not fit stand for the bound that the sign points to.
-/
def integerPrefix? (text : String) : Option Int :=
  let (negative, unsigned) :=
    NumberLiteral.scanSign (Text.trimLeft text.toList)
  let digits := unsigned.takeWhile Text.isDigit
  if digits.isEmpty then
    none
  else
    some
      ((integerOfDigits? negative digits).getD
        (if negative then leastInteger else greatestInteger))

end Dashboard

------------------------------------------------------------
-- Texts That Read As A Number
------------------------------------------------------------

namespace Dashboard

/- The value of digits in a base, if all of them fit it. -/
def valueInBase?
    (base : Nat)
    (digits : List Char) : Option Nat :=
  digits.foldlM
    (fun n c =>
      match Text.digitValue? c with
      | some d => if d < base then some (base * n + d) else none
      | none => none)
    0

/- The base that a letter after a leading zero announces. -/
def baseOfMark? (mark : Char) : Option Nat :=
  if mark = 'x' || mark = 'X' then
    some 16
  else if mark = 'o' || mark = 'O' then
    some 8
  else if mark = 'b' || mark = 'B' then
    some 2
  else
    none

/-
  The value of a literal in base sixteen, eight or two that
  fits in 64 bits.
-/
def basedLiteral? (text : List Char) : Option Nat :=
  match text with
  | '0' :: mark :: digits =>
      if digits.isEmpty then
        none
      else
        match baseOfMark? mark with
        | none => none
        | some base =>
            match valueInBase? base digits with
            | some n =>
                if n < 0x10000000000000000 then
                  some n
                else
                  none
            | none => none
  | _ => none

/- A text that is one literal from start to end. -/
def isLiteral (text : List Char) : Bool :=
  match NumberLiteral.scan text with
  | some (_, []) => true
  | _ => false

/-
  A text that reads as a number: blank, a literal, or a
  literal in another base, with blanks around it allowed.
-/
def readsAsNumber (text : String) : Bool :=
  let trimmed := Text.trim text.toList
  trimmed.isEmpty || isLiteral trimmed ||
    (basedLiteral? trimmed).isSome

end Dashboard
