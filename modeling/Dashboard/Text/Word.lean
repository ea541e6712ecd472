import Dashboard.Text.WordTable

/-
  Word characters, digits, and the edges of words.

  Key definitions include:
    * `Text.inRanges`
    * `Text.isWord`
    * `Text.isDigit`
    * `Text.digitValue?`
    * `Text.isNameChar`
-/

------------------------------------------------------------
-- Character Classes
------------------------------------------------------------

namespace Dashboard.Text

/- A character whose code point lies in one of the ranges. -/
def inRanges
    (ranges : List (Nat × Nat))
    (c : Char) : Bool :=
  ranges.any fun r => r.1 ≤ c.toNat && c.toNat ≤ r.2

/- The ASCII digits. -/
def isDigit (c : Char) : Bool :=
  '0' ≤ c && c ≤ '9'

/- The value of a digit in bases up to sixteen. -/
def digitValue? (c : Char) : Option Nat :=
  if isDigit c then
    some (c.toNat - 48)
  else if 'a' ≤ c && c ≤ 'f' then
    some (c.toNat - 87)
  else if 'A' ≤ c && c ≤ 'F' then
    some (c.toNat - 55)
  else
    none

/- The ASCII letters, digits and underscore. -/
def isNameChar (c : Char) : Bool :=
  ('a' ≤ c && c ≤ 'z') || ('A' ≤ c && c ≤ 'Z') ||
    isDigit c || c == '_'

/-
  The characters that words are made of: letters, marks,
  digits, connector punctuation and join controls.
-/
def isWord (c : Char) : Bool :=
  if c.toNat < 128 then
    isNameChar c
  else
    inRanges wordRanges c

/-
  Two neighbouring places of a text, either of which may be
  its end, have a word edge between them when exactly one of
  them holds a word character.
-/
def isEdge (left right : Option Char) : Bool :=
  left.any isWord != right.any isWord

end Dashboard.Text
