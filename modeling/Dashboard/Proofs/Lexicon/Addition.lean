import Dashboard.Proofs.Lexicon.Table
import Dashboard.Proofs.Text.LetterCase

/-
  Additions to a vocabulary, phrases and words in any order.
  Each of the tables stays an ordered map: its keys are
  different and in lowercase, the last addition of a key says
  what it means, the keys from before keep their places, and
  new ones follow in the order in which they came first.

  Key definitions include:
    * `Addition`
    * `Lexicon.addAll`
    * `Lexicon.WellKeyed`
    * `Lexicon.IsExtension`

  Main declarations:
    * `Lexicon.isExtension_addAll`
    * `Lexicon.standard_addAll_isExtension`
-/

------------------------------------------------------------
-- Additions
------------------------------------------------------------

namespace Dashboard

/- A single addition to a vocabulary. -/
inductive Addition where
  | synonym (entry : Synonym)
  | datasetWord (entry : DatasetWord)
deriving DecidableEq, Repr

namespace Addition

@[simp] def synonym? : Addition → Option Synonym
  | synonym entry => some entry
  | datasetWord _ => none

@[simp] def datasetWord? : Addition → Option DatasetWord
  | synonym _ => none
  | datasetWord entry => some entry

end Addition

/- The additions that a vocabulary stands for, in order. -/
def Vocabulary.additions
    (vocabulary : Vocabulary) : List Addition :=
  vocabulary.synonyms.map .synonym ++
    vocabulary.datasetWords.map .datasetWord

namespace Lexicon

def add (lexicon : Lexicon) : Addition → Lexicon
  | .synonym entry => lexicon.withSynonym entry
  | .datasetWord entry => lexicon.withDatasetWord entry

/- Make additions one after the other. -/
def addAll
    (lexicon : Lexicon)
    (additions : List Addition) : Lexicon :=
  additions.foldl add lexicon

theorem extend_eq_addAll
    (lexicon : Lexicon)
    (vocabulary : Vocabulary) :
    lexicon.extend vocabulary =
      lexicon.addAll vocabulary.additions := by
  unfold extend addAll Vocabulary.additions
  rw [List.foldl_append, List.foldl_map, List.foldl_map]
  rfl

end Lexicon

namespace Vocabulary

/- The vocabulary that additions amount to. -/
def ofAdditions (additions : List Addition) : Vocabulary where
  synonyms := additions.filterMap Addition.synonym?
  datasetWords := additions.filterMap Addition.datasetWord?

theorem ofAdditions_additions (vocabulary : Vocabulary) :
    ofAdditions vocabulary.additions = vocabulary := by
  simp [ofAdditions, additions, Function.comp_def]

end Vocabulary

end Dashboard

------------------------------------------------------------
-- Tables After Additions
------------------------------------------------------------

namespace Dashboard

namespace Lexicon

variable (lexicon : Lexicon) (additions : List Addition)

/- Only the phrases among additions get into their table. -/
theorem synonyms_addAll :
    (lexicon.addAll additions).synonyms =
      ((Vocabulary.ofAdditions additions).synonyms.map
        lowerSynonym).foldl
          (putKeyed Synonym.phrase) lexicon.synonyms := by
  unfold addAll Vocabulary.ofAdditions
  rw [List.foldl_map, List.foldl_filterMap]
  -- what an addition does to the table, the table alone says
  refine (List.foldl_hom synonyms ?_).symm
  intro lexicon addition
  cases addition with
  | synonym entry => rfl
  | datasetWord entry => rfl

/- Only the words among additions get into their table. -/
theorem datasetWords_addAll :
    (lexicon.addAll additions).datasetWords =
      ((Vocabulary.ofAdditions additions).datasetWords.map
        lowerDatasetWord).foldl
          (putKeyed DatasetWord.word)
          lexicon.datasetWords := by
  unfold addAll Vocabulary.ofAdditions
  rw [List.foldl_map, List.foldl_filterMap]
  refine (List.foldl_hom datasetWords ?_).symm
  intro lexicon addition
  cases addition with
  | synonym entry => rfl
  | datasetWord entry => rfl

theorem chartWords_addAll :
    (lexicon.addAll additions).chartWords =
      lexicon.chartWords := by
  induction additions generalizing lexicon with
  | nil => rfl
  | cons addition rest ih =>
      cases addition with
      | synonym entry => exact ih (lexicon.withSynonym entry)
      | datasetWord entry =>
          exact ih (lexicon.withDatasetWord entry)

/- The last addition of a phrase says what it means. -/
theorem synonymFor?_addAll (phrase : String) :
    (lexicon.addAll additions).synonymFor? phrase =
      (((Vocabulary.ofAdditions additions).synonyms.findRev?
          fun s => Text.lower s.phrase == phrase).map
        lowerSynonym).or
          (lexicon.synonymFor? phrase) := by
  unfold synonymFor?
  rw [synonyms_addAll, find?_foldl_putKeyed, findRev?_map]
  rfl

/- The last addition of a word says what it means. -/
theorem datasetFor?_addAll (word : String) :
    (lexicon.addAll additions).datasetFor? word =
      (((Vocabulary.ofAdditions
            additions).datasetWords.findRev?
          fun e => Text.lower e.word == word).map
        DatasetWord.dataset).or
          (lexicon.datasetFor? word) := by
  unfold datasetFor?
  rw [datasetWords_addAll, find?_foldl_putKeyed, findRev?_map,
    Option.map_or, Option.map_map]
  rfl

end Lexicon

end Dashboard

------------------------------------------------------------
-- Ordered Maps
------------------------------------------------------------

namespace Dashboard

namespace Lexicon

/- Each table has different keys that are in lowercase. -/
structure WellKeyed (lexicon : Lexicon) : Prop where
  synonyms : IsKeyed Synonym.phrase lexicon.synonyms
  datasetWords : IsKeyed DatasetWord.word lexicon.datasetWords
  chartWords : IsKeyed ChartWord.word lexicon.chartWords

theorem standard_wellKeyed : standard.WellKeyed where
  synonyms := ⟨by decide, by decide⟩
  datasetWords := ⟨by decide, by decide⟩
  chartWords := ⟨by decide, by decide⟩

/- The phrases of the first table, in order. -/
def phrases (lexicon : Lexicon) : List String :=
  lexicon.synonyms.map Synonym.phrase

/- The words for datasets, in order. -/
def words (lexicon : Lexicon) : List String :=
  lexicon.datasetWords.map DatasetWord.word

/-
  A lexicon has come from another one by the entries of a
  vocabulary: each key has the meaning of its last entry, or
  else the one from before, the keys from before stand first,
  and the new ones follow in the order of their first entries.
-/
structure IsExtension
    (before : Lexicon)
    (vocabulary : Vocabulary)
    (after : Lexicon) : Prop where
  wellKeyed : after.WellKeyed
  synonymFor?_eq :
    ∀ phrase,
      after.synonymFor? phrase =
        ((vocabulary.synonyms.findRev? fun s =>
            Text.lower s.phrase == phrase).map
          lowerSynonym).or
            (before.synonymFor? phrase)
  datasetFor?_eq :
    ∀ word,
      after.datasetFor? word =
        ((vocabulary.datasetWords.findRev? fun e =>
            Text.lower e.word == word).map
          DatasetWord.dataset).or
            (before.datasetFor? word)
  phrases_eq :
    after.phrases =
      before.phrases ++
        newNames
          (vocabulary.synonyms.map fun s =>
            Text.lower s.phrase)
          before.phrases
  words_eq :
    after.words =
      before.words ++
        newNames
          (vocabulary.datasetWords.map fun e =>
            Text.lower e.word)
          before.words
  chartWords_eq : after.chartWords = before.chartWords

theorem WellKeyed.addAll
    {lexicon : Lexicon}
    (hKeyed : lexicon.WellKeyed)
    (additions : List Addition) :
    (lexicon.addAll additions).WellKeyed where
  synonyms := by
    rw [synonyms_addAll]
    apply isKeyed_foldl_putKeyed hKeyed.synonyms
    intro s hMem
    rcases List.mem_map.mp hMem with ⟨entry, -, rfl⟩
    exact Text.lower_lower entry.phrase
  datasetWords := by
    rw [datasetWords_addAll]
    apply isKeyed_foldl_putKeyed hKeyed.datasetWords
    intro e hMem
    rcases List.mem_map.mp hMem with ⟨entry, -, rfl⟩
    exact Text.lower_lower entry.word
  chartWords := by
    rw [chartWords_addAll]
    exact hKeyed.chartWords

theorem isExtension_addAll
    {lexicon : Lexicon}
    (hKeyed : lexicon.WellKeyed)
    (additions : List Addition) :
    IsExtension lexicon (.ofAdditions additions)
      (lexicon.addAll additions) where
  wellKeyed := hKeyed.addAll additions
  synonymFor?_eq := synonymFor?_addAll lexicon additions
  datasetFor?_eq := datasetFor?_addAll lexicon additions
  phrases_eq := by
    unfold phrases
    rw [synonyms_addAll, map_key_foldl_putKeyed, List.map_map]
    rfl
  words_eq := by
    unfold words
    rw [datasetWords_addAll, map_key_foldl_putKeyed,
      List.map_map]
    rfl
  chartWords_eq := chartWords_addAll lexicon additions

theorem isExtension_extend
    {lexicon : Lexicon}
    (hKeyed : lexicon.WellKeyed)
    (vocabulary : Vocabulary) :
    IsExtension lexicon vocabulary
      (lexicon.extend vocabulary) := by
  rw [extend_eq_addAll]
  conv => arg 2; rw [← vocabulary.ofAdditions_additions]
  exact isExtension_addAll hKeyed vocabulary.additions

/-
  Whatever is added to the standard vocabulary, by itself or
  by settings, the tables stay ordered maps, and what is added
  to one of them leaves the other ones as they are.
-/
theorem standard_addAll_isExtension :
    (∀ additions,
      IsExtension standard (.ofAdditions additions)
        (standard.addAll additions)) ∧
    (∀ vocabulary,
      IsExtension standard vocabulary
        (ofVocabulary vocabulary)) ∧
    (∀ (lexicon : Lexicon) (entry : Synonym),
      (lexicon.withSynonym entry).datasetWords =
          lexicon.datasetWords ∧
        (lexicon.withSynonym entry).chartWords =
          lexicon.chartWords) ∧
    ∀ (lexicon : Lexicon) (entry : DatasetWord),
      (lexicon.withDatasetWord entry).synonyms =
          lexicon.synonyms ∧
        (lexicon.withDatasetWord entry).chartWords =
          lexicon.chartWords := by
  refine
    ⟨isExtension_addAll standard_wellKeyed,
      isExtension_extend standard_wellKeyed, ?_, ?_⟩
  · intro lexicon entry
    exact ⟨rfl, rfl⟩
  · intro lexicon entry
    exact ⟨rfl, rfl⟩

/- A phrase that comes again stays where it is. -/
example :
    (standard.addAll
        [.synonym ⟨"Turnover", "revenue", .sales⟩,
          .synonym ⟨"NAME", "name", .products⟩,
          .synonym ⟨"turnover", "profit", .sales⟩]).phrases =
      standard.phrases ++ ["turnover"] := by
  decide

end Lexicon

end Dashboard
