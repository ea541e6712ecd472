import Dashboard.Text.Blank
import Dashboard.Text.Lowercase
import Dashboard.Text.Search

/-
  Prompts: requests in free text.

  Key definitions include:
    * `Prompt`
    * `Prompt.ofString`
    * `Prompt.words`
    * `Prompt.mentions`

  A prompt is read without regard to case, so only its
  lowercase form is kept.
-/

------------------------------------------------------------
-- Prompts
------------------------------------------------------------

namespace Dashboard

/- A request in free text, in lowercase. -/
structure Prompt where
  text : List Char
deriving DecidableEq, Repr

namespace Prompt

/- The prompt that somebody wrote. -/
def ofString (written : String) : Prompt :=
  ⟨Text.lowercase written.toList⟩

/- The words of a prompt. -/
def words (prompt : Prompt) : List String :=
  (Text.words prompt.text).map String.ofList

/- Whether a phrase stands anywhere in a prompt. -/
def mentions
    (prompt : Prompt)
    (phrase : String) : Bool :=
  Text.occurs phrase.toList prompt.text

end Prompt

end Dashboard
