import Dashboard.Prompt.Interpreter
import Dashboard.Proofs.Text.LetterCase

/-
  Interpretation regardless of letter case.  A prompt is kept
  in lowercase, and its lowercase form is kept as it is, so
  both are one prompt.

  Main declarations:
    * `Prompt.ofString_lower`
    * `Lexicon.interpretations_of_case`
-/

------------------------------------------------------------
-- Prompts In Different Case
------------------------------------------------------------

namespace Dashboard

namespace Prompt

/- What is written only matters in lowercase. -/
theorem ofString_eq_iff (written other : String) :
    ofString written = ofString other ↔
      Text.lower written = Text.lower other := by
  simp [ofString, Text.lower, String.ofList_inj]

/- The lowercase form of a prompt is the same prompt. -/
theorem ofString_lower (written : String) :
    ofString (Text.lower written) = ofString written := by
  unfold ofString Text.lower
  rw [String.toList_ofList, Text.lowercase_lowercase]

/- The case of ASCII letters does not matter to a prompt. -/
theorem ofString_eq_of_map_toLower
    {written other : String}
    (hSame :
      written.toList.map Char.toLower =
        other.toList.map Char.toLower) :
    ofString written = ofString other := by
  unfold ofString
  rw [← Text.lowercase_map_toLower written.toList, hSame,
    Text.lowercase_map_toLower]

end Prompt

end Dashboard

------------------------------------------------------------
-- Main Result
------------------------------------------------------------

namespace Dashboard

namespace Lexicon

/-
  Interpretation ignores letter case: a prompt has the same
  interpretations as its lowercase form, and so have any two
  prompts with one lowercase form, among them those that
  differ only in the case of ASCII letters.
-/
theorem interpretations_of_case
    (lexicon : Lexicon)
    (written : String) :
    lexicon.interpret (Text.lower written) =
        lexicon.interpret written ∧
      lexicon.interpretAll (Text.lower written) =
        lexicon.interpretAll written ∧
      ∀ other,
        Text.lower other = Text.lower written ∨
            other.toList.map Char.toLower =
              written.toList.map Char.toLower →
          lexicon.interpret other = lexicon.interpret written ∧
            lexicon.interpretAll other =
              lexicon.interpretAll written := by
  have hSame :
      ∀ other,
        Prompt.ofString other = Prompt.ofString written →
          lexicon.interpret other = lexicon.interpret written ∧
            lexicon.interpretAll other =
              lexicon.interpretAll written := by
    intro other hPrompt
    unfold interpret interpretAll
    rw [hPrompt]
    exact ⟨rfl, rfl⟩
  rcases hSame _ (Prompt.ofString_lower written) with
    ⟨hOne, hAll⟩
  refine ⟨hOne, hAll, ?_⟩
  rintro other (hLower | hAscii)
  · exact
      hSame other ((Prompt.ofString_eq_iff _ _).mpr hLower)
  · exact hSame other (Prompt.ofString_eq_of_map_toLower hAscii)

/- Capitals in a prompt make no difference. -/
theorem interpretations_of_case_top_users :
    standard.interpret "TOP 5 Users" =
        standard.interpret "top 5 users" ∧
      standard.interpretAll "TOP 5 Users" =
        standard.interpretAll "top 5 users" :=
  (interpretations_of_case standard "top 5 users").2.2
    "TOP 5 Users" (.inr (by decide))

end Lexicon

end Dashboard
