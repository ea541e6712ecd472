import Dashboard.Number.Literal

/-
  Where a setting stands: names joined by points, with places
  in lists in square brackets.

  Key definitions include:
    * `KeyStep`
    * `KeyPath.parse?`

  A name consists of ASCII letters, digits, underscores,
  hyphens and spaces.  A place in a list counts from its
  start, or from its end when it is negative.
-/

------------------------------------------------------------
-- Steps
------------------------------------------------------------

namespace Dashboard

/- A step from a value to a part of it. -/
inductive KeyStep where
  | member (name : String)
  | item (place : Int)
deriving DecidableEq, Repr

namespace KeyStep

/- The characters of names. -/
def isNameChar (c : Char) : Bool :=
  Text.isNameChar c || c == '-' || c == ' '

/- What may stand around a place inside its brackets. -/
def isGap (c : Char) : Bool :=
  c == ' ' || c == '\t'

/- The step of the name at the start of a text. -/
def scanMember?
    (text : List Char) :
    Option (KeyStep × List Char) :=
  let name := text.takeWhile isNameChar
  if name.isEmpty then
    none
  else
    some
      (.member (String.ofList name), text.dropWhile isNameChar)

/- A minus sign, if there is one, and the rest of the text. -/
def scanMinus : List Char → Bool × List Char
  | '-' :: rest => (true, rest)
  | text => (false, text)

/-
  The step of the place at the start of a text that follows
  an opening bracket.
-/
def scanItem?
    (text : List Char) :
    Option (KeyStep × List Char) :=
  let (negative, unsigned) :=
    scanMinus (text.dropWhile isGap)
  let (digits, after) := NumberLiteral.scanDigits unsigned
  let place :=
    Binary.signed negative (Decimal.valueOf digits)
  match after.dropWhile isGap with
  | ']' :: rest =>
      if digits.isEmpty || clampInteger place != place then
        none
      else
        some (.item place, rest)
  | _ => none

/- The step at the start of a text that follows another. -/
def scan? :
    List Char → Option (KeyStep × List Char)
  | '.' :: rest => scanMember? rest
  | '[' :: rest => scanItem? rest
  | _ => none

end KeyStep

end Dashboard

------------------------------------------------------------
-- Paths
------------------------------------------------------------

namespace Dashboard

namespace KeyPath

/-
  The steps that a text consists of, of which there are not
  more than the text has characters.
-/
def steps? : Nat → List Char → Option (List KeyStep)
  | _, [] => some []
  | 0, _ :: _ => none
  | fuel + 1, c :: text =>
      match KeyStep.scan? (c :: text) with
      | none => none
      | some (step, rest) =>
          (steps? fuel rest).map (step :: ·)

/- The steps of a path, which starts with a name. -/
def parse? (text : String) : Option (List KeyStep) :=
  match KeyStep.scanMember? text.toList with
  | none => none
  | some (step, rest) =>
      (steps? rest.length rest).map (step :: ·)

end KeyPath

end Dashboard
