import Dashboard.Component
import Dashboard.Dataset
import Dashboard.Text.Lowercase
import Dashboard.Text.Search

/-
  The vocabulary that prompts are read with.

  Key definitions include:
    * `Synonym`
    * `Lexicon`
    * `Lexicon.standard`
    * `Lexicon.withSynonym`
    * `Lexicon.withDatasetWord`
    * `Lexicon.extend`

  The order of a table matters: where several entries would
  do, the first one is taken.
-/

------------------------------------------------------------
-- Entries
------------------------------------------------------------

namespace Dashboard

/-
  A phrase that means a field of a dataset.  The phrase may
  consist of several words.
-/
structure Synonym where
  phrase : String
  field : String
  dataset : Dataset
deriving DecidableEq, Repr

/- A single word that means a dataset. -/
structure DatasetWord where
  word : String
  dataset : Dataset
deriving DecidableEq, Repr

/- A single word that means a kind of chart. -/
structure ChartWord where
  word : String
  chart : Chart
deriving DecidableEq, Repr

/-
  Put an entry into a table: in the place of the first entry
  that it replaces, or at the end.
-/
def putEntry
    {α : Type}
    (replaces : α → Bool)
    (entry : α) :
    List α → List α
  | [] => [entry]
  | old :: rest =>
      if replaces old then
        entry :: rest
      else
        old :: putEntry replaces entry rest

end Dashboard

------------------------------------------------------------
-- Lexicons
------------------------------------------------------------

namespace Dashboard

/- The tables of phrases and words. -/
structure Lexicon where
  synonyms : List Synonym
  datasetWords : List DatasetWord
  chartWords : List ChartWord
deriving DecidableEq, Repr

namespace Lexicon

/- The phrases that everybody may use for fields. -/
def standardSynonyms : List Synonym :=
  [⟨"units sold", "unitsSold", .sales⟩,
    ⟨"unitssold", "unitsSold", .sales⟩,
    ⟨"units", "unitsSold", .sales⟩,
    ⟨"sold", "unitsSold", .sales⟩,
    ⟨"revenue", "revenue", .sales⟩,
    ⟨"profit", "profit", .sales⟩,
    ⟨"month", "month", .sales⟩,
    ⟨"sessions", "sessionsThisMonth", .users⟩,
    ⟨"session", "sessionsThisMonth", .users⟩,
    ⟨"role", "role", .users⟩,
    ⟨"status", "status", .users⟩,
    ⟨"name", "name", .users⟩,
    ⟨"email", "email", .users⟩,
    ⟨"price", "price", .products⟩,
    ⟨"stock", "stock", .products⟩,
    ⟨"rating", "rating", .products⟩,
    ⟨"totalsold", "totalSold", .products⟩,
    ⟨"total sold", "totalSold", .products⟩,
    ⟨"category", "category", .products⟩]

/- The words that everybody may use for datasets. -/
def standardDatasetWords : List DatasetWord :=
  [⟨"sales", .sales⟩,
    ⟨"revenue", .sales⟩,
    ⟨"profit", .sales⟩,
    ⟨"income", .sales⟩,
    ⟨"earnings", .sales⟩,
    ⟨"monthly", .sales⟩,
    ⟨"users", .users⟩,
    ⟨"user", .users⟩,
    ⟨"members", .users⟩,
    ⟨"people", .users⟩,
    ⟨"accounts", .users⟩,
    ⟨"products", .products⟩,
    ⟨"product", .products⟩,
    ⟨"inventory", .products⟩,
    ⟨"items", .products⟩]

/- The words for kinds of charts. -/
def standardChartWords : List ChartWord :=
  [⟨"bar", .bar⟩,
    ⟨"column", .bar⟩,
    ⟨"line", .line⟩,
    ⟨"trend", .line⟩,
    ⟨"area", .area⟩,
    ⟨"filled", .area⟩]

/- The vocabulary before any extension. -/
def standard : Lexicon :=
  ⟨standardSynonyms, standardDatasetWords, standardChartWords⟩

end Lexicon

end Dashboard

------------------------------------------------------------
-- Extension
------------------------------------------------------------

namespace Dashboard

namespace Lexicon

/- The entry with its phrase in lowercase. -/
def lowerSynonym (synonym : Synonym) : Synonym :=
  { synonym with phrase := Text.lower synonym.phrase }

/- The entry with its word in lowercase. -/
def lowerDatasetWord (entry : DatasetWord) : DatasetWord :=
  { entry with word := Text.lower entry.word }

/-
  Add a phrase for a field.  A phrase that is there already
  gets its new meaning in its old place.
-/
def withSynonym
    (lexicon : Lexicon)
    (synonym : Synonym) : Lexicon :=
  let entry := lowerSynonym synonym
  { lexicon with
    synonyms :=
      putEntry (fun old => old.phrase == entry.phrase) entry
        lexicon.synonyms }

/-
  Add a word for a dataset.  A word that is there already
  gets its new meaning in its old place.
-/
def withDatasetWord
    (lexicon : Lexicon)
    (datasetWord : DatasetWord) : Lexicon :=
  let entry := lowerDatasetWord datasetWord
  { lexicon with
    datasetWords :=
      putEntry (fun old => old.word == entry.word) entry
        lexicon.datasetWords }

end Lexicon

/- The entries that extend a vocabulary. -/
structure Vocabulary where
  synonyms : List Synonym
  datasetWords : List DatasetWord
deriving DecidableEq, Repr

namespace Lexicon

/- Add all entries in order, the phrases first. -/
def extend
    (lexicon : Lexicon)
    (vocabulary : Vocabulary) : Lexicon :=
  vocabulary.datasetWords.foldl withDatasetWord
    (vocabulary.synonyms.foldl withSynonym lexicon)

/- The standard vocabulary with an extension. -/
def ofVocabulary (vocabulary : Vocabulary) : Lexicon :=
  standard.extend vocabulary

end Lexicon

end Dashboard

------------------------------------------------------------
-- Looking Up
------------------------------------------------------------

namespace Dashboard

namespace Lexicon

/- The entry of exactly this phrase. -/
def synonymFor?
    (lexicon : Lexicon)
    (phrase : String) : Option Synonym :=
  lexicon.synonyms.find? fun s => s.phrase == phrase

/- Whether the phrase of an entry stands in a text. -/
def occursIn
    (synonym : Synonym)
    (text : List Char) : Bool :=
  Text.occurs synonym.phrase.toList text

/- The first entry whose phrase stands in a text. -/
def firstSynonymIn?
    (lexicon : Lexicon)
    (text : List Char) : Option Synonym :=
  lexicon.synonyms.find? fun s => occursIn s text

/- The dataset that a word means. -/
def datasetFor?
    (lexicon : Lexicon)
    (word : String) : Option Dataset :=
  (lexicon.datasetWords.find? fun e => e.word == word).map
    DatasetWord.dataset

/- The kind of chart that a word means. -/
def chartFor?
    (lexicon : Lexicon)
    (word : String) : Option Chart :=
  (lexicon.chartWords.find? fun e => e.word == word).map
    ChartWord.chart

end Lexicon

end Dashboard

------------------------------------------------------------
-- The Nearest Phrase
------------------------------------------------------------

namespace Dashboard

namespace Lexicon

/- How many characters are searched for the nearest phrase. -/
def windowSize : Nat := 50

/- The last characters of a text. -/
def windowOf (head : List Char) : List Char :=
  head.drop (head.length - windowSize)

/-
  The better one of two entries, each with the last place of
  its phrase: the later place, or the earlier entry.
-/
def laterPlace
    (best : Option (Nat × Synonym))
    (place : Nat)
    (synonym : Synonym) : Option (Nat × Synonym) :=
  match best with
  | some (bestPlace, old) =>
      if bestPlace < place then
        some (place, synonym)
      else
        some (bestPlace, old)
  | none => some (place, synonym)

/- The entry whose phrase stands last in a text. -/
def lastSynonym?
    (window : List Char)
    (synonyms : List Synonym) : Option (Nat × Synonym) :=
  synonyms.foldl
    (fun best synonym =>
      match
        Text.lastOccurrence synonym.phrase.toList window
      with
      | some place => laterPlace best place synonym
      | none => best)
    none

/- The entry whose phrase stands nearest to the end. -/
def nearestSynonym?
    (lexicon : Lexicon)
    (head : List Char) : Option Synonym :=
  (lastSynonym? (windowOf head) lexicon.synonyms).map
    Prod.snd

end Lexicon

end Dashboard
