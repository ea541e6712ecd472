/-
  Binary floating point numbers as whole numbers of a
  smallest unit.

  Key definitions include:
    * `FloatFormat`
    * `FloatFormat.Fits`
    * `Binary`
    * `Binary.compare?`

  Every finite number of a format is a multiple of the
  smallest positive one, so a sign and a natural number say
  exactly which number is meant, and comparing two numbers
  is comparing two integers.
-/

------------------------------------------------------------
-- Formats
------------------------------------------------------------

namespace Dashboard

/-
  A floating point format: the number of significant bits,
  the binary logarithm of the units in one, and the binary
  logarithm of the units that no finite number reaches.
-/
structure FloatFormat where
  precision : Nat
  scale : Nat
  range : Nat
deriving DecidableEq, Repr

namespace FloatFormat

/- Double precision: 53 bits, down to two to the -1074. -/
def double : FloatFormat :=
  ⟨53, 1074, 2098⟩

/- Single precision: 24 bits, down to two to the -149. -/
def single : FloatFormat :=
  ⟨24, 149, 277⟩

/-
  A count of units is the magnitude of a finite number when
  it is in range and has no more significant bits than the
  format keeps.
-/
def Fits
    (f : FloatFormat)
    (units : Nat) : Prop :=
  units < Nat.pow 2 f.range ∧
    units % Nat.pow 2 (units.log2 + 1 - f.precision) = 0

instance
    (f : FloatFormat)
    (units : Nat) :
    Decidable (f.Fits units) := by
  unfold Fits
  infer_instance

end FloatFormat

end Dashboard

------------------------------------------------------------
-- Numbers
------------------------------------------------------------

namespace Dashboard

/- A number of a floating point format. -/
inductive Binary (f : FloatFormat) where
  | finite
      (negative : Bool)
      (units : Nat)
      (fits : f.Fits units)
  | infinite (negative : Bool)
  | notANumber
deriving DecidableEq

/- Numbers of double precision. -/
abbrev Double :=
  Binary FloatFormat.double

/- Numbers of single precision. -/
abbrev Single :=
  Binary FloatFormat.single

namespace Binary

variable {f : FloatFormat}

/- A magnitude with a sign. -/
def signed (negative : Bool) (magnitude : Nat) : Int :=
  if negative then -(magnitude : Int) else magnitude

/-
  The number of that many units, or an infinity when that
  is no finite number of the format.
-/
def ofUnits
    (negative : Bool)
    (units : Nat) : Binary f :=
  if fits : f.Fits units then
    finite negative units fits
  else
    infinite negative

/- Whether a number is neither infinite nor undefined. -/
def isFinite : Binary f → Bool
  | finite .. => true
  | _ => false

/- Whether a number is written with a minus sign. -/
def isNegative : Binary f → Bool
  | finite negative .. => negative
  | infinite negative => negative
  | notANumber => false

/- The same magnitude with the other sign. -/
def neg : Binary f → Binary f
  | finite negative units fits => finite (!negative) units fits
  | infinite negative => infinite (!negative)
  | notANumber => notANumber

end Binary

end Dashboard

------------------------------------------------------------
-- Order
------------------------------------------------------------

namespace Dashboard

namespace Binary

variable {f : FloatFormat}

/-
  The integer that stands for a number in comparisons: its
  units, with an infinity beyond all of them.  The two zeros
  share one integer.
-/
def rank? : Binary f → Option Int
  | finite negative units _ => some (signed negative units)
  | infinite negative =>
      some (signed negative (Nat.pow 2 f.range))
  | notANumber => none

/- The order of two numbers, unless one is undefined. -/
def compare? (x y : Binary f) : Option Ordering :=
  match x.rank?, y.rank? with
  | some a, some b => some (compare a b)
  | _, _ => none

/- Less than; false when a number is undefined. -/
def below (x y : Binary f) : Bool :=
  x.compare? y == some .lt

/- At most; false when a number is undefined. -/
def atMost (x y : Binary f) : Bool :=
  x.compare? y == some .lt || x.compare? y == some .eq

/- Equal as numbers; false when a number is undefined. -/
def equals (x y : Binary f) : Bool :=
  x.compare? y == some .eq

end Binary

end Dashboard
