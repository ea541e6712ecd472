import Dashboard.Filter.Basic
import Dashboard.Lexicon
import Dashboard.Number.Literal
import Dashboard.Pattern
import Dashboard.Prompt.Basic

/-
  Comparisons with numbers, such as `price below 100`.

  Key definitions include:
    * `Comparison.patterns`
    * `Prompt.comparisons`

  Every pattern is tried on its own, and the first place at
  which it fits gives at most one filter: on the field whose
  phrase stands nearest before that place.
-/

------------------------------------------------------------
-- Patterns
------------------------------------------------------------

namespace Dashboard

namespace Comparison

open Pattern

/- Digits, with or without decimal places, as a group. -/
def number : Pattern :=
  group
    (both (some1 Text.isDigit)
      (optional
        (both (text ".") (some1 Text.isDigit))))

/- Words that stand before a number. -/
def before (words : List String) : Pattern :=
  words.foldr
    (fun word rest => both (text word) (both blanks rest))
    number

/- A word that may end in `s`, before a number. -/
def beforePlural (word : String) : Pattern :=
  sequence [text word, optional (text "s"), blanks, number]

/- A symbol before a number. -/
def afterSymbol (symbol : String) : Pattern :=
  sequence [text symbol, spacing, number]

/- Two words after a number. -/
def beforeWords (first second : String) : Pattern :=
  sequence [number, blanks, text first, blanks, text second]

/- Phrases for more. -/
def morePatterns : List Pattern :=
  [before ["above"], before ["greater", "than"],
    before ["more", "than"], afterSymbol ">", before ["over"],
    beforePlural "exceed"]

/- Phrases for at least as much. -/
def leastPatterns : List Pattern :=
  [before ["at", "least"], afterSymbol ">=",
    before ["minimum"], beforeWords "or" "more"]

/- Phrases for less. -/
def lessPatterns : List Pattern :=
  [before ["below"], before ["less", "than"],
    before ["under"], afterSymbol "<",
    before ["fewer", "than"]]

/- Phrases for at most as much. -/
def mostPatterns : List Pattern :=
  [before ["at", "most"], afterSymbol "<=",
    before ["maximum"], beforeWords "or" "less",
    before ["up", "to"]]

/- Phrases for exactly as much. -/
def equalPatterns : List Pattern :=
  [beforePlural "equal", before ["equal", "to"],
    afterSymbol "=", before ["exactly"], before ["is"]]

/- All phrases with their operators, in order. -/
def patterns : List (Operator × Pattern) :=
  morePatterns.map (Operator.gt, ·) ++
    leastPatterns.map (Operator.gte, ·) ++
    lessPatterns.map (Operator.lt, ·) ++
    mostPatterns.map (Operator.lte, ·) ++
    equalPatterns.map (Operator.eq, ·)

end Comparison

end Dashboard

------------------------------------------------------------
-- Filters
------------------------------------------------------------

namespace Dashboard

namespace Comparison

/- The number that a group of a match holds. -/
def operand? (found : Match) : Option Double :=
  match found.group? 0 with
  | none => none
  | some digits =>
      (NumberLiteral.scan digits).map fun r => r.1.value

/- The filter that a match gives, if a field is near. -/
def filterOf?
    (lexicon : Lexicon)
    (operator : Operator)
    (found : Match) : Option Filter :=
  match operand? found, lexicon.nearestSynonym? found.head with
  | some value, some synonym =>
      some ⟨synonym.field, operator, .number value⟩
  | _, _ => none

/- The filter that a pattern gives. -/
def filterIn?
    (lexicon : Lexicon)
    (text : List Char)
    (entry : Operator × Pattern) : Option Filter :=
  match entry.2.find text with
  | some found => filterOf? lexicon entry.1 found
  | none => none

end Comparison

/- The comparisons of a prompt, in the order of the table. -/
def Prompt.comparisons
    (prompt : Prompt)
    (lexicon : Lexicon) : List Filter :=
  Comparison.patterns.filterMap
    (Comparison.filterIn? lexicon prompt.text)

end Dashboard
