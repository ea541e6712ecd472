import Dashboard.Proofs.Lexicon.Entry
import Dashboard.Proofs.Prompt.Vocabulary
import Dashboard.Proofs.Settings.Validity
import Dashboard.Proofs.Text.Blank

/-
  The words for datasets that valid settings add.  The check
  makes sure that such a text has exactly one word in it, but
  it may have blanks around that word.  Without them the text
  means its dataset, as it should.  With them it is no word of
  any prompt, so the settings might as well be without it.

  Key definitions include:
    * `DatasetWord.isPadded`

  Main declarations:
    * `Prompt.dataset_of_not_isPadded`
    * `Lexicon.agreeOn_of_isPadded`
    * `Settings.dataset_of_configured_word`
-/

------------------------------------------------------------
-- Single Words
------------------------------------------------------------

namespace Dashboard

/- A text that has blanks in it besides its word. -/
def DatasetWord.isPadded (entry : DatasetWord) : Bool :=
  entry.word.toList.any Text.isBlank

theorem DatasetWord.isPadded_eq_false_iff
    (entry : DatasetWord) :
    entry.isPadded = false ↔
      ∀ c ∈ entry.word.toList, Text.isBlank c = false := by
  unfold isPadded
  rw [List.any_eq_false]
  simp only [Bool.not_eq_true]

theorem Settings.toList_ne_nil_of_isSingleWord
    {text : String}
    (hWord : isSingleWord text = true) :
    text.toList ≠ [] := by
  intro hNone
  rw [isSingleWord, hNone] at hWord
  cases hWord

end Dashboard

------------------------------------------------------------
-- Words Without Blanks
------------------------------------------------------------

namespace Dashboard

namespace Prompt

/- A word is the only word of its own prompt. -/
theorem words_ofString_of_not_isBlank
    {word : String}
    (hWord : ∀ c ∈ word.toList, Text.isBlank c = false)
    (hSome : word.toList ≠ []) :
    (ofString word).words = [Text.lower word] := by
  unfold words ofString
  rw [Text.words_lowercase_eq_singleton hWord hSome]
  rfl

/- What the only word of a prompt means is its dataset. -/
theorem dataset_of_words_eq_singleton
    {prompt : Prompt}
    {lexicon : Lexicon}
    {word : String}
    {dataset : Dataset}
    (hWords : prompt.words = [word])
    (hDataset : lexicon.datasetFor? word = some dataset) :
    prompt.dataset lexicon = dataset := by
  unfold Prompt.dataset namedDataset?
  rw [hWords, List.findSome?_singleton, hDataset]
  rfl

end Prompt

namespace Lexicon

/- The last entry of a word in an extension counts. -/
theorem datasetFor?_extend_append
    {earlier later : List DatasetWord}
    {entry : DatasetWord}
    (hLast :
      ∀ other ∈ later,
        Text.lower other.word ≠ Text.lower entry.word)
    (lexicon : Lexicon)
    (synonyms : List Synonym) :
    (lexicon.extend
          ⟨synonyms, earlier ++ entry :: later⟩).datasetFor?
        (Text.lower entry.word) =
      some entry.dataset := by
  have hNone :
      (later.reverse.find? fun e =>
        Text.lower e.word == Text.lower entry.word) =
          none := by
    rw [List.find?_eq_none]
    intro other hMem
    rw [beq_iff_eq]
    exact hLast other (List.mem_reverse.mp hMem)
  rw [datasetFor?_extend, List.findRev?_eq_find?_reverse,
    List.reverse_append, List.reverse_cons,
    List.append_assoc, List.find?_append, hNone]
  simp

end Lexicon

end Dashboard

------------------------------------------------------------
-- Words With Blanks
------------------------------------------------------------

namespace Dashboard

namespace Lexicon

/- A padded text is no word of any prompt. -/
theorem lower_not_mem_words_of_isPadded
    {entry : DatasetWord}
    (hPadded : entry.isPadded = true)
    (prompt : Prompt) :
    Text.lower entry.word ∉ prompt.words := by
  intro hMem
  rcases List.mem_map.mp hMem with ⟨word, hWord, hSame⟩
  rcases List.any_eq_true.mp hPadded with ⟨c, hChar, hBlank⟩
  have hLower : word = Text.lowercase entry.word.toList :=
    String.ofList_inj.mp hSame
  have hInWord : c ∈ word := by
    rw [hLower]
    exact Text.mem_lowercase_of_isBlank hBlank hChar
  have hOther :=
    Text.not_isBlank_of_mem_words hWord c hInWord
  rw [hBlank] at hOther
  cases hOther

/-
  With or without a padded entry, an extension is the same to
  every prompt.
-/
theorem agreeOn_of_isPadded
    {entry : DatasetWord}
    (hPadded : entry.isPadded = true)
    (prompt : Prompt)
    (lexicon : Lexicon)
    (synonyms : List Synonym)
    (earlier later : List DatasetWord) :
    AgreeOn prompt
      (lexicon.extend ⟨synonyms, earlier ++ entry :: later⟩)
      (lexicon.extend ⟨synonyms, earlier ++ later⟩) :=
  agreeOn_extend_append
    (lower_not_mem_words_of_isPadded hPadded prompt) lexicon
    synonyms earlier later

end Lexicon

end Dashboard

------------------------------------------------------------
-- Main Result
------------------------------------------------------------

namespace Dashboard

namespace Settings

/-
  An entry of valid settings that no later one replaces: its
  word means its dataset, if the word is written without
  blanks.  With blanks around the word the entry is dead; no
  prompt, not even that word, is read in another way than
  without the entry.
-/
theorem dataset_of_configured_word
    {settings : Settings}
    {synonyms : List Synonym}
    {earlier later : List DatasetWord}
    {entry : DatasetWord}
    (hCheck : settings.check = .ok ())
    (hVocabulary :
      settings.interpreter.vocabulary =
        ⟨synonyms, earlier ++ entry :: later⟩)
    (hLast :
      ∀ other ∈ later,
        Text.lower other.word ≠ Text.lower entry.word) :
    (entry.isPadded = false →
      (Prompt.ofString entry.word).dataset
          (.ofVocabulary settings.interpreter.vocabulary) =
        entry.dataset) ∧
      (entry.isPadded = true →
        ∀ written,
          (Prompt.ofString written).dataset
                (.ofVocabulary
                  settings.interpreter.vocabulary) =
              (Prompt.ofString written).dataset
                (.ofVocabulary
                  ⟨synonyms, earlier ++ later⟩) ∧
            (Lexicon.ofVocabulary
                  settings.interpreter.vocabulary).interpretAll
                written =
              (Lexicon.ofVocabulary
                  ⟨synonyms, earlier ++ later⟩).interpretAll
                written) := by
  have hValid :=
    ((check_eq_ok_iff settings).mp hCheck).vocabulary
  rw [hVocabulary] at hValid ⊢
  constructor
  · intro hPadded
    have hWord : isSingleWord entry.word = true :=
      hValid.datasetWords entry (by simp)
    have hWords :=
      Prompt.words_ofString_of_not_isBlank
        (entry.isPadded_eq_false_iff.mp hPadded)
        (toList_ne_nil_of_isSingleWord hWord)
    exact
      Prompt.dataset_of_words_eq_singleton hWords
        (Lexicon.datasetFor?_extend_append hLast .standard
          synonyms)
  · intro hPadded written
    have hAgree :=
      Lexicon.agreeOn_of_isPadded hPadded
        (.ofString written) .standard synonyms earlier later
    exact
      ⟨hAgree.dataset_eq,
        (Lexicon.interpret_of_agreeOn hAgree).2⟩

/- Settings with one word that is padded and one that is not. -/
def sampleOfWords : Settings :=
  { initial with
    interpreter :=
      { InterpreterSettings.initial with
        vocabulary :=
          ⟨[], [⟨" staff", .users⟩, ⟨"Crew", .users⟩]⟩ } }

theorem valid_sampleOfWords : sampleOfWords.Valid where
  server := valid_initial.server
  hosted := valid_initial.hosted
  vocabulary := ⟨by decide, by decide⟩

/-
  The check passes, the unpadded word means users as it says,
  and the padded one is about sales like a prompt that names
  nothing.
-/
theorem dataset_of_configured_word_staff :
    sampleOfWords.check = .ok () ∧
      (Prompt.ofString "Crew").dataset
          (.ofVocabulary
            sampleOfWords.interpreter.vocabulary) =
        .users ∧
      (Prompt.ofString " staff").dataset
          (.ofVocabulary
            sampleOfWords.interpreter.vocabulary) =
        .sales := by
  have hCheck : sampleOfWords.check = .ok () :=
    (check_eq_ok_iff sampleOfWords).mpr valid_sampleOfWords
  have hPadded :
      sampleOfWords.interpreter.vocabulary =
        ⟨[], [] ++ ⟨" staff", .users⟩ :: [⟨"Crew", .users⟩]⟩ :=
    rfl
  have hUnpadded :
      sampleOfWords.interpreter.vocabulary =
        ⟨[], [⟨" staff", .users⟩] ++ ⟨"Crew", .users⟩ :: []⟩ :=
    rfl
  have hCrew :=
    (dataset_of_configured_word hCheck hUnpadded nofun).1
      (by decide)
  have hStaff :=
    (dataset_of_configured_word hCheck hPadded
      (by decide)).2 (by decide) " staff"
  refine ⟨hCheck, hCrew, hStaff.1.trans ?_⟩
  decide

end Settings

end Dashboard
