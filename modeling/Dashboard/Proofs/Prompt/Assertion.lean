import Dashboard.Proofs.Prompt.Comparison
import Dashboard.Prompt.Assertion

/-
  Assertions of a prompt that ends with an amount.  What is
  asserted is settled by the text before the amount, save
  that the word may be the digits in front of its point.

  Key definitions include:
    * `Assertion.lead`
    * `Assertion.wordIn?`
    * `Assertion.statedOf`

  Main declarations:
    * `Prompt.assertions_append`
    * `Assertion.statedOf_eq_nil`
-/

------------------------------------------------------------
-- Words
------------------------------------------------------------

namespace Dashboard

namespace Assertion

open Pattern

/- The part of an assertion before its word. -/
def lead (field : String) (phrase : Pattern) : Pattern :=
  sequence [letters field, blanks, phrase, blanks, quote]

/- A word as a group, and maybe a quotation mark. -/
def word : Pattern :=
  both (group (some1 isNameLetter)) quote

theorem assertion_splits
    (field : String)
    (phrase : Pattern) :
    (assertion field phrase).Splits (lead field phrase) word :=
  fun _ _ _ => rfl

/-
  The word at the start of a text, or none in it at the end
  of the text, where an amount begins.
-/
def wordIn? : List Char → Option (Option (List Char))
  | [] => some none
  | c :: rest =>
      if isNameLetter c then
        some (some ((c :: rest).takeWhile isNameLetter))
      else
        none

theorem follow_quote
    {α : Type}
    (place : Place)
    (groups : List Span)
    (result : List Span → α) :
    quote.follow place groups
        (fun _ found => some (result found)) =
      some (result groups) := by
  rcases place with ⟨before, after⟩
  cases after with
  | nil => rfl
  | cons c rest =>
      rw [quote, Pattern.optional, follow_either,
        follow_char_cons]
      split
      · rfl
      · rfl

/- A word is taken up to the first other character. -/
theorem follow_word
    {taken rest : List Char}
    (hSome : taken ≠ [])
    (hTaken : ∀ c ∈ taken, isNameLetter c = true)
    (hRest : ∀ c ∈ rest.head?, isNameLetter c = false)
    (before : List Char) :
    word.follow ⟨before, taken ++ rest⟩ []
        (fun _ groups => some (groups[0]?.map Span.text)) =
      some (some taken) := by
  rw [word, follow_both, follow_group]
  apply follow_some1 hSome hTaken hRest
  rw [follow_quote _ _ fun groups =>
    groups[0]?.map Span.text]
  exact
    congrArg (some ∘ some)
      (Span.text_of_taken before (taken ++ rest) taken rest)

theorem isNameLetter_of_isDigit
    {c : Char}
    (hDigit : Text.isDigit c = true) :
    isNameLetter c = true := by
  simp [isNameLetter, Text.isNameChar, hDigit]

/- In an amount, the word is what stands before the point. -/
theorem follow_word_amount
    (n : Amount)
    (before : List Char) :
    word.follow ⟨before, n.text⟩ []
        (fun _ groups => some (groups[0]?.map Span.text)) =
      some (some n.whole.chars) := by
  apply follow_word n.whole.ne_nil
  · exact fun c hMem =>
      isNameLetter_of_isDigit (n.whole.isDigit c hMem)
  · intro c hHead
    rw [n.head?_pointed c hHead]
    rfl

/- A text with another character at its end stops a run. -/
theorem head?_dropWhile_append
    {accepts : Char → Bool}
    {text : List Char}
    (hSome : text ≠ [])
    (hLast : ∀ c ∈ text.getLast?, accepts c = false)
    (rest : List Char) :
    ∀ c ∈ (text.dropWhile accepts ++ rest).head?,
      accepts c = false := by
  have hStops : text.dropWhile accepts ≠ [] := by
    intro hNil
    have hEnd :=
      hLast _ (List.getLast?_eq_some_getLast hSome)
    rw [List.dropWhile_eq_nil_iff.mp hNil _
      (List.getLast_mem hSome)] at hEnd
    cases hEnd
  intro c hHead
  rw [List.head?_append_of_ne_nil _ hStops] at hHead
  have hDrop := List.head?_dropWhile_not accepts text
  rw [hHead] at hDrop
  simpa using hDrop

/- The word after a place does not reach into the amount. -/
theorem follow_word_append
    {after : List Char}
    (hSome : after ≠ [])
    (hLast :
      ∀ c ∈ after.getLast?, isNameLetter c = false)
    (n : Amount)
    (before : List Char) :
    (word.follow ⟨before, after ++ n.text⟩ []
        fun _ groups => some (groups[0]?.map Span.text)) =
      (wordIn? after).map fun mark =>
        some (mark.getD n.whole.chars) := by
  cases after with
  | nil => exact absurd rfl hSome
  | cons c rest =>
      cases hFirst : isNameLetter c with
      | false =>
          rw [word, follow_both, follow_group, List.cons_append,
            follow_some1_eq_none hFirst]
          simp [wordIn?, hFirst]
      | true =>
          have hSomeTaken :
              (c :: rest).takeWhile isNameLetter ≠ [] := by
            simp [hFirst]
          have hWord :=
            follow_word hSomeTaken
              (fun d hMem => List.mem_takeWhile_imp hMem)
              (head?_dropWhile_append hSome hLast n.text) before
          rw [← List.append_assoc,
            List.takeWhile_append_dropWhile] at hWord
          rw [hWord, wordIn?, if_pos hFirst]
          rfl

end Assertion

end Dashboard

------------------------------------------------------------
-- Assertions
------------------------------------------------------------

namespace Dashboard

namespace Assertion

open Pattern

/- The two kinds of phrases, with their operators. -/
def phrases : List (Operator × Pattern) :=
  [(.eq, equality), (.contains, letters "contains")]

theorem lead_precedesAmounts :
    ∀ field ∈ fields, ∀ e ∈ phrases,
      (lead field e.2).precedesAmounts = true := by
  decide

/-
  What a text before an amount asserts about a field: the
  operator, and the word unless it is that of the amount.
-/
def statedOf
    (text : List Char)
    (field : String) :
    List (Operator × Option (List Char)) :=
  phrases.filterMap fun e =>
    ((lead field e.2).scout? wordIn? text).map fun found =>
      (e.1, found.2)

theorem filtersFor_eq
    (text : List Char)
    (field : String) :
    filtersFor text field =
      phrases.filterMap fun e =>
        filterIn? field e.1 (assertion field e.2) text := by
  unfold filtersFor phrases
  rw [List.filterMap_cons, List.filterMap_cons,
    List.filterMap_nil]
  cases filterIn? field .eq (assertion field equality) text
  all_goals
    cases
      filterIn? field .contains
        (assertion field (letters "contains")) text
  all_goals rfl

theorem filterIn?_amount
    {field : String}
    (hField : field ∈ fields)
    {e : Operator × Pattern}
    (hMem : e ∈ phrases)
    {text : List Char}
    (hLast : ∀ c ∈ text.getLast?, isNameLetter c = false)
    (n : Amount) :
    filterIn? field e.1 (assertion field e.2)
        (text ++ n.text) =
      ((lead field e.2).scout? wordIn? text).map fun found =>
        ⟨field, e.1,
          .text
            (String.ofList
              (found.2.getD n.whole.chars))⟩ := by
  have hPrecedes := lead_precedesAmounts field hField e hMem
  have hTail :
      ∀ before after, after <:+ text →
        (word.follow ⟨before, after ++ n.text⟩ []
            fun _ groups => some (groups[0]?.map Span.text)) =
          (wordIn? after).map fun mark =>
            some (mark.getD n.whole.chars) := by
    intro before after hSuffix
    by_cases hSome : after = []
    · rw [hSome]
      exact follow_word_amount n before
    · apply follow_word_append hSome
      intro c hEnd
      apply hLast
      rcases hSuffix with ⟨init, rfl⟩
      rwa [List.getLast?_append_of_ne_nil init hSome]
  have hFind :=
    find_append (assertion_splits field e.2)
      (takesSome_of_precedesAmounts hPrecedes) n.text_ne_nil
      (avoids_of_precedesAmounts hPrecedes n) hTail
  unfold filterIn?
  cases hMatch :
      (assertion field e.2).find (text ++ n.text) with
  | none =>
      rw [hMatch] at hFind
      rw [Option.map_eq_none_iff.mp hFind.symm]
      rfl
  | some found =>
      rw [hMatch] at hFind
      rcases Option.map_eq_some_iff.mp hFind.symm with
        ⟨⟨head, mark⟩, hScout, hReading⟩
      have hGroup :
          found.group? 0 = some (mark.getD n.whole.chars) :=
        (congrArg Prod.snd hReading).symm
      rw [hScout]
      dsimp only
      rw [hGroup]
      rfl

/- Nothing is asserted about a field that is not named. -/
theorem statedOf_eq_nil
    {field : String}
    (hField : field ∈ fields)
    {text : List Char}
    (hAbsent : (letters field).absentFrom text = true) :
    statedOf text field = [] := by
  unfold statedOf
  rw [List.filterMap_eq_nil_iff]
  intro e hMem
  have hPrecedes := lead_precedesAmounts field hField e hMem
  rw [precedesAmounts, Bool.and_eq_true, List.all_eq_true]
    at hPrecedes
  have hAvoids : (lead field e.2).avoids '.' = true :=
    hPrecedes.2 '.' (by decide)
  rw [Option.map_eq_none_iff]
  exact scout?_both_eq_none hAvoids hAbsent wordIn?

end Assertion

/-
  The assertions of a prompt that ends with an amount, which
  does not stand directly after a word.
-/
theorem Prompt.assertions_append
    {text : List Char}
    (hLast :
      ∀ c ∈ text.getLast?, Pattern.isNameLetter c = false)
    (n : Amount) :
    Prompt.assertions ⟨text ++ n.text⟩ =
      Assertion.fields.flatMap fun field =>
        (Assertion.statedOf text field).map fun e =>
          ⟨field, e.1,
            .text
              (String.ofList (e.2.getD n.whole.chars))⟩ := by
  unfold assertions
  apply List.flatMap_congr
  intro field hField
  rw [Assertion.filtersFor_eq, Assertion.statedOf,
    List.map_filterMap]
  apply List.filterMap_congr
  intro e hMem
  rw [Assertion.filterIn?_amount hField hMem hLast n,
    Option.map_map]
  rfl

end Dashboard
