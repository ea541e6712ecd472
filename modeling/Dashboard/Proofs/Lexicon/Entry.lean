import Dashboard.Proofs.Lexicon.Addition

/-
  What the words for datasets of an extension do: the last
  entry of a word says what the word means, and an entry whose
  word no prompt has does nothing.

  Main declarations:
    * `Lexicon.datasetFor?_extend`
    * `Lexicon.agreeOn_extend_append`
-/

------------------------------------------------------------
-- The Meaning Of A Word
------------------------------------------------------------

namespace Dashboard

namespace Lexicon

/-
  A word means what the last entry for it in an extension
  says, or else what it meant before.
-/
theorem datasetFor?_extend
    (lexicon : Lexicon)
    (vocabulary : Vocabulary)
    (word : String) :
    (lexicon.extend vocabulary).datasetFor? word =
      ((vocabulary.datasetWords.findRev? fun e =>
          Text.lower e.word == word).map
        DatasetWord.dataset).or
          (lexicon.datasetFor? word) := by
  rw [extend_eq_addAll, datasetFor?_addAll,
    Vocabulary.ofAdditions_additions]

end Lexicon

end Dashboard

------------------------------------------------------------
-- Entries Without Effect
------------------------------------------------------------

namespace Dashboard

namespace Lexicon

variable {prompt : Prompt} {first second : Lexicon}

/- Lexicons that agree do so after the same addition. -/
theorem AgreeOn.withDatasetWord
    (hAgree : AgreeOn prompt first second)
    (entry : DatasetWord) :
    AgreeOn prompt (first.withDatasetWord entry)
      (second.withDatasetWord entry) where
  synonyms := hAgree.synonyms
  datasetWords := by
    have hTables := hAgree.datasetWords
    unfold datasetWordsIn at hTables ⊢
    by_cases hWord : Text.lower entry.word ∈ prompt.words
    · have hReplaces :
          ∀ old : DatasetWord,
            (old.word == Text.lower entry.word) = true →
              decide (old.word ∈ prompt.words) = true := by
        intro old hOld
        rw [beq_iff_eq.mp hOld]
        exact decide_eq_true hWord
      have hEntry :
          decide
              ((lowerDatasetWord entry).word ∈
                prompt.words) = true :=
        decide_eq_true hWord
      have hPut :=
        filter_putEntry_of_pos
          (p := fun e : DatasetWord =>
            decide (e.word ∈ prompt.words))
          hEntry hReplaces
      exact (hPut _).trans (hTables ▸ (hPut _).symm)
    · have hFirst := agreeOn_withDatasetWord hWord first
      have hSecond := agreeOn_withDatasetWord hWord second
      exact hFirst.datasetWords.trans
        (hTables.trans hSecond.datasetWords.symm)
  chartWords := hAgree.chartWords

theorem AgreeOn.foldl_withDatasetWord
    (hAgree : AgreeOn prompt first second)
    (entries : List DatasetWord) :
    AgreeOn prompt (entries.foldl Lexicon.withDatasetWord first)
      (entries.foldl Lexicon.withDatasetWord second) := by
  induction entries generalizing first second with
  | nil => exact hAgree
  | cons entry rest ih =>
      exact ih (hAgree.withDatasetWord entry)

/-
  An entry whose word is none of a prompt's may as well be
  left out of an extension, wherever it stands.
-/
theorem agreeOn_extend_append
    {entry : DatasetWord}
    (hAbsent : Text.lower entry.word ∉ prompt.words)
    (lexicon : Lexicon)
    (synonyms : List Synonym)
    (earlier later : List DatasetWord) :
    AgreeOn prompt
      (lexicon.extend ⟨synonyms, earlier ++ entry :: later⟩)
      (lexicon.extend ⟨synonyms, earlier ++ later⟩) := by
  unfold extend
  simp only [List.foldl_append, List.foldl_cons]
  exact
    (agreeOn_withDatasetWord hAbsent _).foldl_withDatasetWord
      later

end Lexicon

end Dashboard
