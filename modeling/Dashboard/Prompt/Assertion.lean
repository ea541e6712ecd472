import Dashboard.Dataset
import Dashboard.Filter.Basic
import Dashboard.Pattern
import Dashboard.Prompt.Basic

/-
  Assertions about fields, such as `role is admin`, and
  shorthands for a status.

  Key definitions include:
    * `Assertion.fields`
    * `Prompt.assertions`
    * `Prompt.shorthand?`
-/

------------------------------------------------------------
-- Assertions
------------------------------------------------------------

namespace Dashboard

namespace Assertion

open Pattern

/- The fields about which something can be asserted. -/
def fields : List String :=
  ["name", "email", "status", "role", "category", "price",
    "stock", "rating", "totalSold"]

/- A quotation mark of either kind, if there is one. -/
def quote : Pattern :=
  optional
    (char fun c => c == '"' || c.toNat == 0x27)

/- A word, with or without quotation marks, as a group. -/
def value : Pattern :=
  sequence [quote, group (some1 isNameLetter), quote]

/- The phrases for equality. -/
def equality : Pattern :=
  choice (letters "is")
    [letters "=",
      both (letters "equal") (optional (letters "s"))]

/- A field, a phrase and a word. -/
def assertion (field : String) (phrase : Pattern) : Pattern :=
  sequence [letters field, blanks, phrase, blanks, value]

/- The filter that a pattern gives. -/
def filterIn?
    (field : String)
    (operator : Operator)
    (pattern : Pattern)
    (text : List Char) : Option Filter :=
  match pattern.find text with
  | none => none
  | some found =>
      (found.group? 0).map fun word =>
        ⟨field, operator, .text (String.ofList word)⟩

/- What is asserted about a field. -/
def filtersFor
    (text : List Char)
    (field : String) : List Filter :=
  (filterIn? field .eq (assertion field equality)
    text).toList ++
    (filterIn? field .contains
      (assertion field (letters "contains")) text).toList

end Assertion

/- The assertions of a prompt, in the order of the fields. -/
def Prompt.assertions (prompt : Prompt) : List Filter :=
  Assertion.fields.flatMap (Assertion.filtersFor prompt.text)

end Dashboard

------------------------------------------------------------
-- Shorthands
------------------------------------------------------------

namespace Dashboard

namespace Shorthand

open Pattern

/- The word `active`. -/
def active : Pattern :=
  sequence [edge, text "active", edge]

/- Active users as the subject of a prompt. -/
def activeSubject : Pattern :=
  sequence
    [text "active", blanks,
      choice (text "user") [text "member", text "account"]]

/- A blank or a hyphen, if there is one. -/
def gap : Pattern :=
  optional (char fun c => Text.isBlank c || c == '-')

/- Words of which each two may have a gap between them. -/
def joined (words : List String) : Pattern :=
  match words with
  | [] => edge
  | [word] => both (text word) edge
  | word :: rest => both (text word) (both gap (joined rest))

/- The phrases for a stock status, in order. -/
def stockPatterns : List (Pattern × String) :=
  [(both edge (joined ["in", "stock"]), "in_stock"),
    (both edge (joined ["out", "of", "stock"]),
      "out_of_stock"),
    (both edge (joined ["low", "stock"]), "low_stock")]

/- The filter for a status. -/
def statusFilter (status : String) : Filter :=
  ⟨"status", .eq, .text status⟩

end Shorthand

open Shorthand in
/-
  The status that a prompt gives in passing.  For users it
  yields to a filter on the status that is there already, and
  `active users` names the subject only.
-/
def Prompt.shorthand?
    (prompt : Prompt)
    (existing : List Filter) :
    Dataset → Option Filter
  | .sales => none
  | .users =>
      if !existing.any (fun f => f.field == "status") &&
          active.fits prompt.text &&
          !activeSubject.fits prompt.text then
        some (statusFilter "active")
      else
        none
  | .products =>
      (stockPatterns.find? fun e => e.1.fits prompt.text).map
        fun e => statusFilter e.2

end Dashboard
