import Dashboard.Prompt.Assertion
import Dashboard.Prompt.Comparison
import Dashboard.Sorting

/-
  The criteria of a prompt: its filters, its sort and its
  limit.

  Key definitions include:
    * `Prompt.filters`
    * `Prompt.sort?`
    * `Prompt.limit?`
-/

------------------------------------------------------------
-- Filters
------------------------------------------------------------

namespace Dashboard

namespace Prompt

/-
  The filters of a prompt on a dataset: its comparisons, its
  assertions, and a status that is given in passing.
-/
def filters
    (prompt : Prompt)
    (lexicon : Lexicon)
    (dataset : Dataset) : List Filter :=
  let stated := prompt.comparisons lexicon ++ prompt.assertions
  stated ++ (prompt.shorthand? stated dataset).toList

end Prompt

end Dashboard

------------------------------------------------------------
-- Sorts
------------------------------------------------------------

namespace Dashboard

namespace Sorting

open Pattern

/- A word as a group. -/
def word : Pattern :=
  group (some1 Text.isNameChar)

/- The words for directions. -/
def directionWord : Pattern :=
  choice (text "asc")
    [text "desc", text "ascending", text "descending"]

/- A verb with `by`, a word, and maybe a direction. -/
def clause (verb : String) : Pattern :=
  sequence
    [text verb, optional (text "ed"), blanks, text "by",
      blanks, word, spacing, optional (group directionWord)]

/- A word after a superlative. -/
def superlative (first : String) : Pattern :=
  sequence [text first, blanks, word]

/-
  The phrases for a sort, in order, with the direction of
  those that do not name one.
-/
def patterns : List (Pattern × Option Direction) :=
  [(clause "sort", none),
    (clause "order", none),
    (superlative "highest", some .desc),
    (superlative "lowest", some .asc),
    (superlative "top", some .desc),
    (superlative "bottom", some .asc)]

/- The field that a word means, or the word itself. -/
def fieldOf
    (lexicon : Lexicon)
    (word : List Char) : String :=
  match lexicon.synonymFor? (String.ofList word) with
  | some synonym => synonym.field
  | none => String.ofList word

/- The direction that a match names, or descending. -/
def directionOf (found : Match) : Direction :=
  match found.group? 1 with
  | some word => .ofWord word
  | none => .desc

/- The sort that a pattern gives. -/
def sortIn?
    (lexicon : Lexicon)
    (text : List Char)
    (entry : Pattern × Option Direction) :
    Option Sorting :=
  match entry.1.find text with
  | none => none
  | some found =>
      (found.group? 0).map fun word =>
        ⟨fieldOf lexicon word,
          entry.2.getD (directionOf found)⟩

end Sorting

/-
  The sort of a prompt: the first phrase that stands anywhere
  in it decides.
-/
def Prompt.sort?
    (prompt : Prompt)
    (lexicon : Lexicon) : Option Sorting :=
  Sorting.patterns.findSome?
    (Sorting.sortIn? lexicon prompt.text)

end Dashboard

------------------------------------------------------------
-- Limits
------------------------------------------------------------

namespace Dashboard

namespace Limit

open Pattern

/- Digits as a group. -/
def count : Pattern :=
  group (some1 Text.isDigit)

/- A word before a count. -/
def after (word : String) : Pattern :=
  sequence [text word, blanks, count]

/- A count before a word for rows. -/
def beforeNoun : Pattern :=
  sequence
    [count, blanks,
      choice (text "result")
        [text "item", text "record", text "row"]]

/- The phrases for a limit, in order. -/
def patterns : List Pattern :=
  [after "top", after "first", beforeNoun, after "limit",
    after "show"]

/- The greatest count of rows. -/
def greatest : Nat := 0xffffffffffffffff

/- The count that digits stand for, or the greatest one. -/
def ofDigits (digits : List Char) : UInt64 :=
  (min (Decimal.valueOf digits) greatest).toUInt64

/- The limit that a pattern gives. -/
def limitIn?
    (text : List Char)
    (pattern : Pattern) : Option UInt64 :=
  match pattern.find text with
  | none => none
  | some found => (found.group? 0).map ofDigits

end Limit

/- The limit of a prompt, which may be zero. -/
def Prompt.limit? (prompt : Prompt) : Option UInt64 :=
  Limit.patterns.findSome? (Limit.limitIn? prompt.text)

end Dashboard
