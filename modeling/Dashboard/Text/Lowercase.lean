import Dashboard.Text.CasedTable
import Dashboard.Text.LowercaseTable
import Dashboard.Text.Word

/-
  The lowercase form of a text.

  Key definitions include:
    * `Text.lowercaseChar`
    * `Text.lowercase`
    * `Text.lower`

  Two characters have no fixed lowercase.  Capital I with dot
  above becomes two characters, and capital sigma becomes the
  final sigma at the end of a word and the plain one
  elsewhere.
-/

------------------------------------------------------------
-- Single Characters
------------------------------------------------------------

namespace Dashboard.Text

/- A code point that a range of the table maps. -/
def CaseRange.covers
    (r : CaseRange)
    (n : Nat) : Bool :=
  r.first ≤ n && n ≤ r.last && (n - r.first) % r.stride == 0

/- The lowercase of a character on its own. -/
def lowercaseChar (c : Char) : Char :=
  if c.toNat < 128 then
    c.toLower
  else
    match lowercaseRanges.find? (·.covers c.toNat) with
    | none => c
    | some r => Char.ofNat (r.offset + c.toNat).toNat

/- The characters that come in upper and lower case. -/
def isCased (c : Char) : Bool :=
  if c.toNat < 128 then
    c.isAlpha
  else
    inRanges casedRanges c

/-
  The characters passed over when the letters next to a
  place are looked for, such as the apostrophe.
-/
def isCaseIgnorable (c : Char) : Bool :=
  if c.toNat < 128 then
    c.toNat == 0x27 || c == '.' || c == ':' || c == '^' ||
      c.toNat == 0x60
  else
    inRanges caseIgnorableRanges c

end Dashboard.Text

------------------------------------------------------------
-- Whole Texts
------------------------------------------------------------

namespace Dashboard.Text

/- The first character that is not passed over is cased. -/
def startsCased (text : List Char) : Bool :=
  (text.dropWhile isCaseIgnorable).head?.any isCased

/-
  What a character becomes, given the text before it in
  reverse and the text after it.
-/
def lowercaseAt
    (before : List Char)
    (c : Char)
    (after : List Char) :
    List Char :=
  if c = 'İ' then
    ['i', '\u0307']
  else if c = 'Σ' then
    if startsCased before && !startsCased after then
      ['ς']
    else
      ['σ']
  else
    [lowercaseChar c]

/- The lowercase of a text that follows `before`. -/
def lowercaseAfter
    (before : List Char) :
    List Char → List Char
  | [] => []
  | c :: rest =>
      lowercaseAt before c rest ++
        lowercaseAfter (c :: before) rest

/- The lowercase of a whole text. -/
def lowercase (text : List Char) : List Char :=
  lowercaseAfter [] text

/- The lowercase of a whole string. -/
def lower (text : String) : String :=
  String.ofList (lowercase text.toList)

end Dashboard.Text
