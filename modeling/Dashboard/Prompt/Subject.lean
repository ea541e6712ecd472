import Dashboard.Lexicon
import Dashboard.Prompt.Basic

/-
  The datasets that a prompt is about.

  Key definitions include:
    * `Prompt.dataset`
    * `Prompt.datasets`

  Words for datasets are looked for first, in the order of
  the prompt.  Without any, phrases for fields are looked for
  in the order of the table.  A prompt that names nothing is
  about sales.
-/

------------------------------------------------------------
-- One Dataset
------------------------------------------------------------

namespace Dashboard

namespace Prompt

/- The dataset of the first word that means one. -/
def namedDataset?
    (prompt : Prompt)
    (lexicon : Lexicon) : Option Dataset :=
  prompt.words.findSome? lexicon.datasetFor?

/- The dataset of the first phrase for a field. -/
def impliedDataset?
    (prompt : Prompt)
    (lexicon : Lexicon) : Option Dataset :=
  (lexicon.firstSynonymIn? prompt.text).map Synonym.dataset

/- The dataset of a prompt that names none. -/
def defaultDataset : Dataset :=
  .sales

/- The dataset that a prompt is most likely about. -/
def dataset
    (prompt : Prompt)
    (lexicon : Lexicon) : Dataset :=
  ((prompt.namedDataset? lexicon).or
    (prompt.impliedDataset? lexicon)).getD defaultDataset

end Prompt

end Dashboard

------------------------------------------------------------
-- All Datasets
------------------------------------------------------------

namespace Dashboard

namespace Prompt

/- Add a dataset unless it is there already. -/
def addDataset
    (found : List Dataset)
    (dataset : Dataset) : List Dataset :=
  if dataset ∈ found then found else found ++ [dataset]

/- The datasets in the order in which each comes first. -/
def distinct (datasets : List Dataset) : List Dataset :=
  datasets.foldl addDataset []

/- The datasets of the words that mean one. -/
def namedDatasets
    (prompt : Prompt)
    (lexicon : Lexicon) : List Dataset :=
  distinct (prompt.words.filterMap lexicon.datasetFor?)

/- The datasets of all phrases for fields. -/
def impliedDatasets
    (prompt : Prompt)
    (lexicon : Lexicon) : List Dataset :=
  distinct
    ((lexicon.synonyms.filter fun s =>
      Lexicon.occursIn s prompt.text).map Synonym.dataset)

/- Every dataset that a prompt is about, without repeats. -/
def datasets
    (prompt : Prompt)
    (lexicon : Lexicon) : List Dataset :=
  match prompt.namedDatasets lexicon with
  | [] =>
      match prompt.impliedDatasets lexicon with
      | [] => [defaultDataset]
      | implied => implied
  | named => named

end Prompt

end Dashboard
