import Dashboard.Proofs.Lexicon.Nearest
import Dashboard.Proofs.Prompt.Comparison
import Dashboard.Proofs.Text.Lowercase
import Dashboard.Prompt.Criteria

/-
  Which field a phrase of the standard lexicon means next to
  a number, whatever text stands before it.  The nearest
  phrase is the one that starts last, so a phrase with another
  one at its end is passed over for that one.  Only the two
  phrases for `totalSold` lose their meaning by this: `sold`
  stands at their end, which means `unitsSold`.

  Key definitions include:
    * `Synonym.fieldByNumber`

  Main declarations:
    * `Prompt.mem_filters_above`
    * `Lexicon.exists_nearestSynonym?_after`
    * `Lexicon.nearestSynonym?_of_phrase`
-/

------------------------------------------------------------
-- The Word Before The Amount
------------------------------------------------------------

namespace Dashboard

namespace Comparison

open Pattern

/- The comparison with `above` is the first of the table. -/
def above : Operator × Phrase :=
  (.gt, .words ["above"])

theorem above_mem_phrases : above ∈ phrases :=
  List.mem_cons_self

/- The pattern of `above` starts with the word. -/
theorem above_splits :
    above.2.pattern.Splits (text "above")
      (both blanks number) :=
  fun _ _ _ => rfl

/-
  The word `above` before an amount is found behind a text
  without that word.
-/
theorem find_above
    {head : List Char}
    (hAbsent : (text "above").absentFrom head = true)
    (n : Amount) :
    (above.2.pattern.find
        (head ++ ' ' :: ("above ".toList ++ n.text))).map
        Match.reading =
      some (head ++ [' '], some n.text) := by
  let lead := sequence [text "above", blanks]
  have hLead : above.2.lead? = some lead := rfl
  have hAll :
      ("above ".toList.all fun c => !Text.isDigit c) =
        true := by
    decide
  have hDigits :
      ∀ c ∈ "above ".toList, Text.isDigit c = false := by
    intro c hMem
    exact
      (Bool.not_eq_true' _).mp (List.all_eq_true.mp hAll c hMem)
  have hHead :
      above.2.headIn? "above ".toList = some [] := by
    decide
  unfold find
  rw [findAfter_append_cons above_splits (by decide)
      (by decide) hAbsent,
    findAfter_lead_amount hLead
      (lead_precedesAmounts _ above_mem_phrases lead hLead)
      hDigits n,
    hHead]
  simp

/- The filter it gives is on the field nearest before it. -/
theorem filterIn?_above
    (lexicon : Lexicon)
    {head : List Char}
    (hAbsent : (text "above").absentFrom head = true)
    (n : Amount) :
    filterIn? lexicon
        (head ++ ' ' :: ("above ".toList ++ n.text))
        (above.1, above.2.pattern) =
      (lexicon.nearestSynonym? (head ++ [' '])).map
        fun synonym =>
          ⟨synonym.field, .gt, .number n.value⟩ := by
  rcases Option.map_eq_some_iff.mp (find_above hAbsent n) with
    ⟨found, hFound, hReading⟩
  unfold filterIn?
  rw [hFound]
  exact filterOf?_of_reading hReading

end Comparison

theorem Prompt.mem_filters_above
    {lexicon : Lexicon}
    {head : List Char}
    {s : Synonym}
    (hAbsent :
      (Pattern.text "above").absentFrom head = true)
    (hNearest :
      lexicon.nearestSynonym? (head ++ [' ']) = some s)
    (n : Amount)
    (dataset : Dataset) :
    ⟨s.field, .gt, .number n.value⟩ ∈
      Prompt.filters
        ⟨head ++ ' ' :: ("above ".toList ++ n.text)⟩ lexicon
        dataset := by
  have hFilter := Comparison.filterIn?_above lexicon hAbsent n
  rw [hNearest] at hFilter
  apply List.mem_append_left
  apply List.mem_append_left
  rw [comparisons, List.mem_filterMap, Comparison.patterns_eq]
  exact
    ⟨_, List.mem_map_of_mem Comparison.above_mem_phrases,
      hFilter⟩

end Dashboard

------------------------------------------------------------
-- Phrases After A Text
------------------------------------------------------------

namespace Dashboard

/- The text of a prompt that ends in lowercase. -/
theorem Prompt.text_ofString_append
    (before : String)
    {rest : String}
    (hLower : ∀ c ∈ rest.toList, Text.isLower c = true) :
    (ofString (before ++ " " ++ rest)).text =
      Text.lowercase before.toList ++ ' ' :: rest.toList := by
  have hText :
      (before ++ " " ++ rest).toList =
        before.toList ++ ' ' :: rest.toList := by
    simp
  rw [ofString, hText]
  exact Text.lowercase_append_blank _ hLower

/-
  The field that an entry of the standard lexicon means next
  to a number.  It is the field of the entry, but a phrase
  for `totalSold` means the field of `sold`.
-/
def Synonym.fieldByNumber (s : Synonym) : String :=
  if s.field = "totalSold" then "unitsSold" else s.field

namespace Lexicon

/- The phrases are in lowercase, and short. -/
theorem isLower_of_mem_phrase
    {e : Synonym}
    (hEntry : e ∈ standardSynonyms) :
    ∀ c ∈ e.phrase.toList, Text.isLower c = true := by
  have hAll :
      (standardSynonyms.all fun e =>
          e.phrase.toList.all Text.isLower) =
        true := by
    decide
  rw [List.all_eq_true] at hAll
  exact List.all_eq_true.mp (hAll e hEntry)

theorem length_phrase_le :
    ∀ e ∈ standardSynonyms,
      (e.phrase.toList ++ [' ']).length ≤ windowSize := by
  decide

/- The word `above` stands in none of them. -/
theorem above_absentFrom_phrase :
    ∀ e ∈ standardSynonyms,
      (Pattern.text "above").absentFrom e.phrase.toList =
        true := by
  decide

/- What a phrase means with nothing before it. -/
theorem field_nearestSynonym?_phrase :
    ∀ e ∈ standardSynonyms,
      (standard.nearestSynonym?
          (e.phrase.toList ++ [' '])).map Synonym.field =
        some e.fieldByNumber := by
  decide

/- Nothing that stands before it changes that. -/
theorem exists_nearestSynonym?_after
    {e : Synonym}
    (hEntry : e ∈ standardSynonyms)
    (head : List Char) :
    ∃ s,
      standard.nearestSynonym?
          (head ++ (e.phrase.toList ++ [' '])) =
        some s ∧
        s.field = e.fieldByNumber := by
  rcases Option.map_eq_some_iff.mp
      (field_nearestSynonym?_phrase e hEntry) with
    ⟨s, hNearest, hField⟩
  exact
    ⟨s,
      nearestSynonym?_append (length_phrase_le e hEntry)
        hNearest head,
      hField⟩

/- The prompt in which an amount comes after a phrase. -/
theorem ofString_above
    {e : Synonym}
    (hEntry : e ∈ standardSynonyms)
    (before : String)
    (n : Amount) :
    Prompt.ofString
        (before ++ " " ++ e.phrase ++ " above " ++ n.written) =
      ⟨(Text.lowercase before.toList ++
          ' ' :: e.phrase.toList) ++
        ' ' :: ("above ".toList ++ n.text)⟩ := by
  let rest := e.phrase ++ " above " ++ n.written
  have hLower : ∀ c ∈ rest.toList, Text.isLower c = true := by
    have hAbove :
        (" above ".toList.all Text.isLower) = true := by
      decide
    have hRest :
        rest.toList =
          e.phrase.toList ++ " above ".toList ++ n.text := by
      simp only [rest, String.toList_append, Amount.written,
        String.toList_ofList]
    intro c hMem
    rw [hRest, List.mem_append, List.mem_append] at hMem
    rcases hMem with (hPhrase | hWord) | hAmount
    · exact isLower_of_mem_phrase hEntry c hPhrase
    · exact List.all_eq_true.mp hAbove c hWord
    · exact n.isLower_of_mem_text hAmount
  have hWritten :
      before ++ " " ++ e.phrase ++ " above " ++ n.written =
        before ++ " " ++ rest := by
    simp only [rest, String.append_assoc]
  rw [hWritten]
  apply congrArg Prompt.mk
  refine (Prompt.text_ofString_append before hLower).trans ?_
  simp [rest, Amount.written]

/-
  A phrase of the standard lexicon, whatever stands before
  it, is read as its own field next to a number, unless that
  is `totalSold`: the phrases for this field end with `sold`
  and are read as `unitsSold`.  A comparison with `above`
  behind the phrase filters on that field.
-/
theorem nearestSynonym?_of_phrase
    {e : Synonym}
    (hEntry : e ∈ standardSynonyms)
    (before : String) :
    ∃ s,
      standard.nearestSynonym?
          (Prompt.ofString
            (before ++ " " ++ e.phrase ++ " ")).text =
        some s ∧
        s.field = e.fieldByNumber ∧
        ∀ n : Amount,
          ¬ "above".toList <:+: (Text.lower before).toList →
            ∀ dataset,
              ⟨s.field, .gt, .number n.value⟩ ∈
                (Prompt.ofString
                  (before ++ " " ++ e.phrase ++ " above " ++
                    n.written)).filters standard dataset := by
  let lowered := Text.lowercase before.toList
  rcases exists_nearestSynonym?_after hEntry
      (lowered ++ [' ']) with
    ⟨s, hNearest, hField⟩
  have hPhrase := isLower_of_mem_phrase hEntry
  refine ⟨s, ?_, hField, ?_⟩
  · rw [String.append_assoc, Prompt.text_ofString_append]
    · simpa [lowered] using hNearest
    · simpa [or_imp, forall_and] using ⟨hPhrase, rfl⟩
  · intro n hAbove dataset
    have hAbsent :
        (Pattern.text "above").absentFrom
            (lowered ++ ' ' :: e.phrase.toList) =
          true := by
      apply Pattern.absentFrom_append (by decide) (by decide)
      · apply Pattern.absentFrom_text
        simpa [lowered, Text.lower] using hAbove
      · exact above_absentFrom_phrase e hEntry
    rw [ofString_above hEntry]
    apply Prompt.mem_filters_above hAbsent
    simpa using hNearest

/- The amount of seventy-two. -/
def sampleSold : Amount :=
  ⟨⟨['7', '2'], by decide, List.all_eq_true.mp rfl⟩, none⟩

/- A prompt about the total sold is read as one on units. -/
theorem nearestSynonym?_of_phrase_total_sold :
    ⟨"total sold", "totalSold", .products⟩ ∈
        standardSynonyms ∧
      (standard.nearestSynonym?
          (Prompt.ofString "products with total sold ").text).map
          Synonym.field =
        some "unitsSold" ∧
      ¬ "above".toList <:+:
          (Text.lower "products with").toList ∧
      ⟨"unitsSold", .gt, .number sampleSold.value⟩ ∈
        (Prompt.ofString
          "products with total sold above 72").filters standard
          .products := by
  have hEntry :
      ⟨"total sold", "totalSold", .products⟩ ∈
        standardSynonyms := by
    decide
  have hAbsent :
      ¬ "above".toList <:+:
          (Text.lower "products with").toList := by
    decide
  rcases nearestSynonym?_of_phrase hEntry "products with" with
    ⟨s, hNearest, hField, hFilters⟩
  have hUnits : s.field = "unitsSold" := hField
  have hFilter := hFilters sampleSold hAbsent .products
  rw [hUnits] at hFilter
  refine ⟨hEntry, ?_, hAbsent, hFilter⟩
  exact Option.map_eq_some_iff.mpr ⟨s, hNearest, hUnits⟩

end Lexicon

end Dashboard
