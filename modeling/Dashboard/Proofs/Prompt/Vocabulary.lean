import Dashboard.Proofs.Lexicon.Extension
import Dashboard.Proofs.Pattern.Taken
import Dashboard.Prompt.Interpreter

/-
  How a prompt is read depends on the entries of a lexicon
  that stand in the prompt only: every word that is looked
  up is a word or a part of the prompt, and so is the text
  in which the nearest phrase is searched.

  Main declarations:
    * `Lexicon.AgreeOn.interpretFor_eq`
    * `Lexicon.interpretations_extend`
-/

------------------------------------------------------------
-- Readings Of A Prompt
------------------------------------------------------------

namespace Dashboard

namespace Lexicon

namespace AgreeOn

variable {prompt : Prompt} {first second : Lexicon}

theorem dataset_eq (hAgree : AgreeOn prompt first second) :
    prompt.dataset first = prompt.dataset second := by
  have hNamed :
      prompt.namedDataset? first =
        prompt.namedDataset? second :=
    findSome?_congr fun _ hWord =>
      hAgree.datasetFor?_eq hWord
  have hImplied :
      prompt.impliedDataset? first =
        prompt.impliedDataset? second := by
    have hTables := hAgree.synonyms
    unfold synonymsIn at hTables
    unfold Prompt.impliedDataset? firstSynonymIn?
    rw [← List.head?_filter, hTables, List.head?_filter]
  unfold Prompt.dataset
  rw [hNamed, hImplied]

theorem datasets_eq (hAgree : AgreeOn prompt first second) :
    prompt.datasets first = prompt.datasets second := by
  have hNamed :
      prompt.namedDatasets first =
        prompt.namedDatasets second := by
    unfold Prompt.namedDatasets
    congr 1
    exact
      List.filterMap_congr fun _ hWord =>
        hAgree.datasetFor?_eq hWord
  have hImplied :
      prompt.impliedDatasets first =
        prompt.impliedDatasets second := by
    have hTables := hAgree.synonyms
    unfold synonymsIn at hTables
    unfold Prompt.impliedDatasets
    rw [hTables]
  unfold Prompt.datasets
  rw [hNamed, hImplied]

theorem chart_eq (hAgree : AgreeOn prompt first second) :
    prompt.chart first = prompt.chart second := by
  unfold Prompt.chart chartFor?
  rw [hAgree.chartWords]

/- A comparison looks for its field before the match. -/
theorem comparisons_eq
    (hAgree : AgreeOn prompt first second) :
    prompt.comparisons first = prompt.comparisons second := by
  apply List.filterMap_congr
  intro entry _
  unfold Comparison.filterIn?
  cases hFind : entry.2.find prompt.text with
  | none => rfl
  | some found =>
      have hHead : found.head <:+: prompt.text :=
        (Pattern.head_isPrefix_of_find hFind).isInfix
      simp only [Comparison.filterOf?,
        hAgree.nearestSynonym?_eq hHead]

/- A sort looks up a part of the prompt. -/
theorem sort?_eq (hAgree : AgreeOn prompt first second) :
    prompt.sort? first = prompt.sort? second := by
  apply findSome?_congr
  intro entry _
  unfold Sorting.sortIn?
  cases hFind : entry.1.find prompt.text with
  | none => rfl
  | some found =>
      dsimp only
      cases hGroup : found.group? 0 with
      | none => rfl
      | some word =>
          have hWord :
              (String.ofList word).toList <:+: prompt.text := by
            rw [String.toList_ofList]
            exact (Pattern.takes_of_group? hFind hGroup).1
          simp only [Option.map_some, Sorting.fieldOf,
            hAgree.synonymFor?_eq hWord]

theorem filters_eq
    (hAgree : AgreeOn prompt first second)
    (dataset : Dataset) :
    prompt.filters first dataset =
      prompt.filters second dataset := by
  unfold Prompt.filters
  rw [hAgree.comparisons_eq]

/- Lexicons that agree about a prompt read it alike. -/
theorem interpretFor_eq
    (hAgree : AgreeOn prompt first second)
    (dataset : Dataset) :
    prompt.interpretFor first dataset =
      prompt.interpretFor second dataset := by
  unfold Prompt.interpretFor Prompt.chart? Prompt.filters?
  rw [hAgree.chart_eq, hAgree.filters_eq, hAgree.sort?_eq]

end AgreeOn

end Lexicon

end Dashboard

------------------------------------------------------------
-- Conservative Extension
------------------------------------------------------------

namespace Dashboard

namespace Lexicon

theorem interpret_of_agreeOn
    {first second : Lexicon}
    {written : String}
    (hAgree :
      AgreeOn (.ofString written) first second) :
    first.interpret written = second.interpret written ∧
      first.interpretAll written =
        second.interpretAll written := by
  unfold interpret interpretAll
  dsimp only
  rw [hAgree.dataset_eq, hAgree.datasets_eq,
    hAgree.interpretFor_eq]
  refine ⟨rfl, ?_⟩
  exact List.map_congr_left fun dataset _ =>
    hAgree.interpretFor_eq dataset

/-
  An extended vocabulary makes no difference to a prompt in
  which none of its phrases and words stand, whether its
  entries are new or replace standard ones.
-/
theorem interpretations_extend
    (vocabulary : Vocabulary)
    (written : String)
    (hSynonyms :
      ∀ s ∈ vocabulary.synonyms,
        ¬ (Text.lower s.phrase).toList <:+:
            (Text.lower written).toList)
    (hDatasetWords :
      ∀ e ∈ vocabulary.datasetWords,
        Text.lower e.word ∉
          (Prompt.ofString written).words) :
    (ofVocabulary vocabulary).interpret written =
        standard.interpret written ∧
      (ofVocabulary vocabulary).interpretAll written =
        standard.interpretAll written := by
  have hAbsent :
      vocabulary.AbsentFrom (.ofString written) := by
    refine ⟨?_, hDatasetWords⟩
    intro s hMem
    have hPhrase := hSynonyms s hMem
    unfold Text.lower at hPhrase
    simpa [Text.lower, Prompt.ofString] using hPhrase
  exact interpret_of_agreeOn (agreeOn_extend hAbsent standard)

/- A vocabulary that replaces a standard phrase and word. -/
def sampleVocabulary : Vocabulary :=
  ⟨[⟨"Price", "profit", .sales⟩, ⟨"visits", "name", .users⟩],
    [⟨"Inventory", .users⟩, ⟨"staff", .users⟩]⟩

/- The replaced phrase and word do not stand in the prompt. -/
theorem interpretations_extend_stock :
    (ofVocabulary sampleVocabulary).interpret
          "Top 5 products with stock above 10" =
        standard.interpret
          "Top 5 products with stock above 10" ∧
      (ofVocabulary sampleVocabulary).interpretAll
          "Top 5 products with stock above 10" =
        standard.interpretAll
          "Top 5 products with stock above 10" := by
  apply interpretations_extend
  · decide
  · decide

end Lexicon

end Dashboard
