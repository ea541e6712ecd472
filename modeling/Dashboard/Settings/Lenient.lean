import Dashboard.Settings.Layers
import Dashboard.Settings.Reader

/-
  Reading settings leniently, as people write them.

  Key definitions include:
    * `Reading.lenient`
    * `Settings.ofLayers?`

  A plain value may be written as another one that means it:
  a number as a text, a truth value as a word or a number,
  and a text as a number or a truth value.
-/

------------------------------------------------------------
-- Plain Values
------------------------------------------------------------

namespace Dashboard

namespace Reading

/- Words for true and words for false. -/
def word? (text : String) : Option Bool :=
  let name := Text.lower text
  if ["true", "on", "yes"].contains name then
    some true
  else if ["false", "off", "no"].contains name then
    some false
  else
    none

/- A truth value, a number, or a word. -/
def lenientBool : Json → Option Bool
  | .bool value => some value
  | .number n => some (!n.toDouble.equals .zero)
  | .string text =>
      if text = "1" then
        some true
      else if text = "0" then
        some false
      else
        word? text
  | _ => none

/-
  The natural number nearest to a number, where a half goes
  up, between zero and the greatest one of 64 bits.
-/
def nearestNatural (x : Double) : Nat :=
  match x.roundToWhole with
  | .infinite false => 0xffffffffffffffff
  | rounded =>
      match rounded.toInt? with
      | some n => min n.toNat 0xffffffffffffffff
      | none => 0

/- A natural number in one of its forms. -/
def anyNatural : Json → Option Nat
  | .number (.integer n) =>
      if 0 ≤ n then some n.toNat else none
  | .number (.float x) => some (nearestNatural x)
  | .bool value => some value.toNat
  | .string text =>
      match word? text with
      | some value => some value.toNat
      | none => Scalar.natural? text.toList
  | _ => none

/- A natural number of at most so many bits. -/
def lenientNatural
    (bits : Nat)
    (json : Json) : Option Nat :=
  (anyNatural json).filter fun n => n < Nat.pow 2 bits

/- A number in one of its forms. -/
def lenientDouble : Json → Option Double
  | .number n => some n.toDouble
  | .bool value => some (.ofNat value.toNat)
  | .string text =>
      match word? text with
      | some value => some (.ofNat value.toNat)
      | none => Scalar.double? text.toList
  | _ => none

/- A number rounded to single precision. -/
def lenientSingle (json : Json) : Option Single :=
  (lenientDouble json).map Binary.convert

/- A text, or the text of a plain value. -/
def lenientText : Json → Option String
  | .string text => some text
  | .bool value => some (if value then "true" else "false")
  | .number (.integer n) => some (toString n)
  | .number (.float x) => some x.prose
  | _ => none

/- A name without regard to case. -/
def sameName?
    (allowed : List String)
    (written : String) : Option String :=
  allowed.find? fun name =>
    Text.lower name == Text.lower written

/- One of some names, or a table with that name alone. -/
def lenientName
    (allowed : List String) : Json → Option String
  | .string written => sameName? allowed written
  | .object [(written, _)] => sameName? allowed written
  | _ => none

/- The fields of a structure; surplus ones are ignored. -/
def lenientSlots
    (names : List String) :
    Json → Option (List (Slot Json))
  | .object members => some (names.map (Slot.ofMember members))
  | .array items =>
      Slot.ofItems? names (items.take names.length)
  | _ => none

/- Every value may be written as one that means it. -/
def lenient : Reading where
  bool := lenientBool
  natural := lenientNatural
  single := lenientSingle
  text := lenientText
  name := lenientName
  slots := lenientSlots

end Reading

end Dashboard

------------------------------------------------------------
-- Settings
------------------------------------------------------------

namespace Dashboard

/- The settings of layers, the lowest one first. -/
def Settings.ofLayers?
    (layers : List Layer) : Option Settings :=
  (Layer.merge? layers).bind (read? .lenient)

end Dashboard
