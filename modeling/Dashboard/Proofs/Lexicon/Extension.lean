import Dashboard.Lexicon
import Dashboard.Proofs.Text.Search
import Dashboard.Prompt.Basic

/-
  Lexicons that agree about a prompt: the entries that stand
  in it are the same, in the same order.  An extension whose
  entries do not stand in a prompt changes nothing about it,
  whether they come at the end of a table or in the place of
  older entries.

  Key definitions include:
    * `Lexicon.AgreeOn`
    * `Vocabulary.AbsentFrom`

  Main declarations:
    * `filter_putEntry`
    * `Lexicon.agreeOn_extend`
-/

------------------------------------------------------------
-- Tables
------------------------------------------------------------

namespace Dashboard

variable {α : Type} {p q : α → Bool}

/-
  Putting an entry changes a table only where it concerns
  the entry and what the entry replaces.
-/
theorem filter_putEntry
    {replaces : α → Bool}
    {entry : α}
    (hEntry : p entry = false)
    (hReplaces : ∀ old, replaces old = true → p old = false)
    (table : List α) :
    (putEntry replaces entry table).filter p =
      table.filter p := by
  induction table with
  | nil => simp [putEntry, hEntry]
  | cons old rest ih =>
      by_cases hOld : replaces old = true
      · simp [putEntry, hOld, hEntry, hReplaces old hOld]
      · simp [putEntry, hOld, List.filter_cons, ih]

/- What is looked for is found among the candidates. -/
theorem find?_filter_of_imp
    (hImp : ∀ a, q a = true → p a = true)
    (table : List α) :
    (table.filter p).find? q = table.find? q := by
  rw [List.find?_filter]
  congr 1
  funext a
  by_cases hFound : q a = true
  · simp [hFound, hImp a hFound]
  · simp [hFound]

theorem findSome?_congr
    {β : Type}
    {f g : α → Option β}
    {table : List α}
    (hSame : ∀ a ∈ table, f a = g a) :
    table.findSome? f = table.findSome? g := by
  rw [← List.head?_filterMap, ← List.head?_filterMap,
    List.filterMap_congr hSame]

end Dashboard

------------------------------------------------------------
-- Agreement
------------------------------------------------------------

namespace Dashboard

namespace Lexicon

/- The phrases of a lexicon that stand in a prompt. -/
def synonymsIn
    (lexicon : Lexicon)
    (prompt : Prompt) : List Synonym :=
  lexicon.synonyms.filter fun s => occursIn s prompt.text

/- The words for datasets that stand in a prompt. -/
def datasetWordsIn
    (lexicon : Lexicon)
    (prompt : Prompt) : List DatasetWord :=
  lexicon.datasetWords.filter fun e =>
    decide (e.word ∈ prompt.words)

/- Two lexicons that have the same entries for a prompt. -/
structure AgreeOn
    (prompt : Prompt)
    (first second : Lexicon) : Prop where
  synonyms : first.synonymsIn prompt = second.synonymsIn prompt
  datasetWords :
    first.datasetWordsIn prompt = second.datasetWordsIn prompt
  chartWords : first.chartWords = second.chartWords

variable {prompt : Prompt}

theorem AgreeOn.refl (lexicon : Lexicon) :
    AgreeOn prompt lexicon lexicon :=
  ⟨rfl, rfl, rfl⟩

theorem AgreeOn.trans
    {first second third : Lexicon}
    (hFirst : AgreeOn prompt first second)
    (hSecond : AgreeOn prompt second third) :
    AgreeOn prompt first third where
  synonyms := hFirst.synonyms.trans hSecond.synonyms
  datasetWords :=
    hFirst.datasetWords.trans hSecond.datasetWords
  chartWords := hFirst.chartWords.trans hSecond.chartWords

theorem occursIn_eq_false_iff
    (synonym : Synonym)
    (text : List Char) :
    occursIn synonym text = false ↔
      ¬ synonym.phrase.toList <:+: text := by
  rw [← Text.occurs_iff_isInfix, Bool.not_eq_true]
  rfl

end Lexicon

end Dashboard

------------------------------------------------------------
-- Extension
------------------------------------------------------------

namespace Dashboard

/-
  None of the phrases of a vocabulary stands anywhere in a
  prompt, and none of its words is a word of the prompt.
-/
structure Vocabulary.AbsentFrom
    (vocabulary : Vocabulary)
    (prompt : Prompt) : Prop where
  synonyms :
    ∀ s ∈ vocabulary.synonyms,
      ¬ (Text.lower s.phrase).toList <:+: prompt.text
  datasetWords :
    ∀ e ∈ vocabulary.datasetWords,
      Text.lower e.word ∉ prompt.words

namespace Lexicon

variable {prompt : Prompt}

/- A phrase that is absent may be added or replaced. -/
theorem agreeOn_withSynonym
    {synonym : Synonym}
    (hAbsent :
      ¬ (Text.lower synonym.phrase).toList <:+: prompt.text)
    (lexicon : Lexicon) :
    AgreeOn prompt (lexicon.withSynonym synonym) lexicon where
  synonyms := by
    apply filter_putEntry
    · exact
        (occursIn_eq_false_iff (lowerSynonym synonym) _).mpr
          hAbsent
    · intro old hOld
      rw [occursIn_eq_false_iff, beq_iff_eq.mp hOld]
      exact hAbsent
  datasetWords := rfl
  chartWords := rfl

/- A word that is absent may be added or replaced. -/
theorem agreeOn_withDatasetWord
    {datasetWord : DatasetWord}
    (hAbsent : Text.lower datasetWord.word ∉ prompt.words)
    (lexicon : Lexicon) :
    AgreeOn prompt (lexicon.withDatasetWord datasetWord)
      lexicon where
  synonyms := rfl
  datasetWords := by
    apply filter_putEntry
    · exact decide_eq_false hAbsent
    · intro old hOld
      rw [beq_iff_eq.mp hOld]
      exact decide_eq_false hAbsent
  chartWords := rfl

/- Each step of an extension agrees, so all of it does. -/
theorem agreeOn_foldl
    {β : Type}
    {step : Lexicon → β → Lexicon}
    {entries : List β}
    (hStep :
      ∀ entry ∈ entries, ∀ lexicon,
        AgreeOn prompt (step lexicon entry) lexicon)
    (lexicon : Lexicon) :
    AgreeOn prompt (entries.foldl step lexicon) lexicon := by
  induction entries generalizing lexicon with
  | nil => exact .refl lexicon
  | cons entry rest ih =>
      rw [List.forall_mem_cons] at hStep
      exact (ih hStep.2 _).trans (hStep.1 lexicon)

/-
  A lexicon and its extension agree about every prompt from
  which the extension is absent.
-/
theorem agreeOn_extend
    {vocabulary : Vocabulary}
    (hAbsent : vocabulary.AbsentFrom prompt)
    (lexicon : Lexicon) :
    AgreeOn prompt (lexicon.extend vocabulary) lexicon := by
  have hSynonyms :
      AgreeOn prompt
        (vocabulary.synonyms.foldl withSynonym lexicon)
        lexicon :=
    agreeOn_foldl
      (fun s hMem => agreeOn_withSynonym
        (hAbsent.synonyms s hMem))
      lexicon
  refine AgreeOn.trans ?_ hSynonyms
  exact
    agreeOn_foldl
      (fun e hMem => agreeOn_withDatasetWord
        (hAbsent.datasetWords e hMem))
      _

end Lexicon

end Dashboard

------------------------------------------------------------
-- Looking Up
------------------------------------------------------------

namespace Dashboard

namespace Lexicon

variable {prompt : Prompt} {first second : Lexicon}

theorem AgreeOn.datasetFor?_eq
    (hAgree : AgreeOn prompt first second)
    {word : String}
    (hWord : word ∈ prompt.words) :
    first.datasetFor? word = second.datasetFor? word := by
  have hImp :
      ∀ e : DatasetWord,
        (e.word == word) = true →
          decide (e.word ∈ prompt.words) = true := by
    intro e hSame
    rw [beq_iff_eq.mp hSame]
    exact decide_eq_true hWord
  have hTables := hAgree.datasetWords
  unfold datasetWordsIn at hTables
  unfold datasetFor?
  rw [← find?_filter_of_imp hImp, hTables,
    find?_filter_of_imp hImp]

theorem AgreeOn.synonymFor?_eq
    (hAgree : AgreeOn prompt first second)
    {phrase : String}
    (hPhrase : phrase.toList <:+: prompt.text) :
    first.synonymFor? phrase = second.synonymFor? phrase := by
  have hImp :
      ∀ s : Synonym,
        (s.phrase == phrase) = true →
          occursIn s prompt.text = true := by
    intro s hSame
    unfold occursIn
    rw [Text.occurs_iff_isInfix, beq_iff_eq.mp hSame]
    exact hPhrase
  have hTables := hAgree.synonyms
  unfold synonymsIn at hTables
  unfold synonymFor?
  rw [← find?_filter_of_imp hImp, hTables,
    find?_filter_of_imp hImp]

/- Only phrases that stand in a part of it can be last. -/
theorem lastSynonym?_filter
    {text window : List Char}
    (hWindow : window <:+: text)
    (synonyms : List Synonym) :
    lastSynonym? window
        (synonyms.filter fun s => occursIn s text) =
      lastSynonym? window synonyms := by
  unfold lastSynonym?
  rw [List.foldl_filter]
  congr 1
  funext best synonym
  by_cases hOccurs : occursIn synonym text = true
  · rw [if_pos hOccurs]
  · rw [if_neg hOccurs]
    rw [Bool.not_eq_true, occursIn_eq_false_iff] at hOccurs
    have hNone :
        Text.lastOccurrence synonym.phrase.toList window =
          none := by
      rw [Text.lastOccurrence_eq_none_iff]
      exact fun hInfix => hOccurs (hInfix.trans hWindow)
    rw [hNone]

theorem windowOf_isSuffix (head : List Char) :
    windowOf head <:+ head :=
  List.drop_suffix _ _

theorem AgreeOn.nearestSynonym?_eq
    (hAgree : AgreeOn prompt first second)
    {head : List Char}
    (hHead : head <:+: prompt.text) :
    first.nearestSynonym? head =
      second.nearestSynonym? head := by
  have hWindow : windowOf head <:+: prompt.text :=
    (windowOf_isSuffix head).isInfix.trans hHead
  have hTables := hAgree.synonyms
  unfold synonymsIn at hTables
  unfold nearestSynonym?
  rw [← lastSynonym?_filter hWindow, hTables,
    lastSynonym?_filter hWindow]

end Lexicon

end Dashboard
