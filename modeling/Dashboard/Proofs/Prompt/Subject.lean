import Dashboard.Prompt.Subject
import Dashboard.Proofs.Text.Search
import Mathlib.Data.List.Nodup

/-
  The datasets of a prompt: which ones they are, that none
  is repeated, and that the most likely one comes first.

  Main declarations:
    * `Prompt.Names` and `Prompt.Implies`
    * `Prompt.nodup_datasets`
    * `Prompt.head?_datasets`
    * `Prompt.mem_datasets_iff`
-/

------------------------------------------------------------
-- Lists Without Repeats
------------------------------------------------------------

namespace Dashboard

namespace Prompt

theorem mem_addDataset_iff
    (found : List Dataset)
    (dataset other : Dataset) :
    other ∈ addDataset found dataset ↔
      other ∈ found ∨ other = dataset := by
  unfold addDataset
  by_cases hMem : dataset ∈ found
  · rw [if_pos hMem]
    constructor
    · exact Or.inl
    · rintro (hOld | rfl)
      · exact hOld
      · exact hMem
  · rw [if_neg hMem]
    simp

theorem nodup_addDataset
    {found : List Dataset}
    (dataset : Dataset)
    (hFound : found.Nodup) :
    (addDataset found dataset).Nodup := by
  unfold addDataset
  by_cases hMem : dataset ∈ found
  · rw [if_pos hMem]
    exact hFound
  · rw [if_neg hMem, ← List.concat_eq_append]
    exact hFound.concat hMem

/- Whatever is added, the first dataset stays the first. -/
theorem head?_addDataset
    (found : List Dataset)
    (dataset : Dataset) :
    (addDataset found dataset).head? =
      found.head?.or (some dataset) := by
  unfold addDataset
  by_cases hMem : dataset ∈ found
  · rw [if_pos hMem]
    cases found with
    | nil => simp at hMem
    | cons first rest => rfl
  · rw [if_neg hMem, List.head?_append]
    rfl

theorem mem_foldl_addDataset_iff
    (datasets found : List Dataset)
    (dataset : Dataset) :
    dataset ∈ datasets.foldl addDataset found ↔
      dataset ∈ found ∨ dataset ∈ datasets := by
  induction datasets generalizing found with
  | nil =>
      simp
  | cons first rest ih =>
      rw [List.foldl_cons, ih, mem_addDataset_iff,
        List.mem_cons, or_assoc]

theorem nodup_foldl_addDataset
    (datasets : List Dataset)
    {found : List Dataset}
    (hFound : found.Nodup) :
    (datasets.foldl addDataset found).Nodup := by
  induction datasets generalizing found with
  | nil => exact hFound
  | cons first rest ih =>
      exact ih (nodup_addDataset first hFound)

theorem head?_foldl_addDataset
    (datasets found : List Dataset) :
    (datasets.foldl addDataset found).head? =
      found.head?.or datasets.head? := by
  induction datasets generalizing found with
  | nil =>
      simp
  | cons first rest ih =>
      rw [List.foldl_cons, ih, head?_addDataset,
        Option.or_assoc]
      rfl

@[simp] theorem mem_distinct_iff
    (datasets : List Dataset)
    (dataset : Dataset) :
    dataset ∈ distinct datasets ↔ dataset ∈ datasets := by
  unfold distinct
  rw [mem_foldl_addDataset_iff]
  simp

theorem nodup_distinct (datasets : List Dataset) :
    (distinct datasets).Nodup :=
  nodup_foldl_addDataset datasets List.nodup_nil

@[simp] theorem head?_distinct (datasets : List Dataset) :
    (distinct datasets).head? = datasets.head? := by
  unfold distinct
  rw [head?_foldl_addDataset]
  rfl

end Prompt

end Dashboard

------------------------------------------------------------
-- The First Dataset
------------------------------------------------------------

namespace Dashboard

namespace Prompt

variable (prompt : Prompt) (lexicon : Lexicon)

theorem head?_namedDatasets :
    (prompt.namedDatasets lexicon).head? =
      prompt.namedDataset? lexicon := by
  unfold namedDatasets namedDataset?
  rw [head?_distinct, List.head?_filterMap]

theorem head?_impliedDatasets :
    (prompt.impliedDatasets lexicon).head? =
      prompt.impliedDataset? lexicon := by
  unfold impliedDatasets impliedDataset?
  rw [head?_distinct, List.head?_map, List.head?_filter]
  rfl

/- The most likely dataset is the first one of all. -/
theorem head?_datasets :
    (prompt.datasets lexicon).head? =
      some (prompt.dataset lexicon) := by
  have hNamed := prompt.head?_namedDatasets lexicon
  have hImplied := prompt.head?_impliedDatasets lexicon
  unfold datasets dataset
  rw [← hNamed, ← hImplied]
  cases prompt.namedDatasets lexicon with
  | cons first rest => rfl
  | nil =>
      cases prompt.impliedDatasets lexicon with
      | cons first rest => rfl
      | nil => rfl

theorem nodup_datasets :
    (prompt.datasets lexicon).Nodup := by
  have hNamed : (prompt.namedDatasets lexicon).Nodup :=
    nodup_distinct _
  have hImplied : (prompt.impliedDatasets lexicon).Nodup :=
    nodup_distinct _
  unfold datasets
  cases hFirst : prompt.namedDatasets lexicon with
  | cons first rest =>
      rw [hFirst] at hNamed
      exact hNamed
  | nil =>
      cases hSecond : prompt.impliedDatasets lexicon with
      | cons first rest =>
          rw [hSecond] at hImplied
          exact hImplied
      | nil => exact List.nodup_singleton _

end Prompt

end Dashboard

------------------------------------------------------------
-- All Datasets
------------------------------------------------------------

namespace Dashboard

namespace Prompt

variable (prompt : Prompt) (lexicon : Lexicon)

/- Some word of the prompt means the dataset. -/
def Names (dataset : Dataset) : Prop :=
  ∃ word ∈ prompt.words,
    lexicon.datasetFor? word = some dataset

/- Some phrase for a field of the dataset is mentioned. -/
def Implies (dataset : Dataset) : Prop :=
  ∃ synonym ∈ lexicon.synonyms,
    synonym.phrase.toList <:+: prompt.text ∧
      synonym.dataset = dataset

theorem mem_namedDatasets_iff (dataset : Dataset) :
    dataset ∈ prompt.namedDatasets lexicon ↔
      prompt.Names lexicon dataset := by
  unfold namedDatasets Names
  rw [mem_distinct_iff, List.mem_filterMap]

theorem mem_impliedDatasets_iff (dataset : Dataset) :
    dataset ∈ prompt.impliedDatasets lexicon ↔
      prompt.Implies lexicon dataset := by
  unfold impliedDatasets Implies Lexicon.occursIn
  simp only [mem_distinct_iff, List.mem_map,
    List.mem_filter, Text.occurs_iff_isInfix, and_assoc]

theorem namedDatasets_eq_nil_iff :
    prompt.namedDatasets lexicon = [] ↔
      ∀ dataset, ¬ prompt.Names lexicon dataset := by
  rw [List.eq_nil_iff_forall_not_mem]
  simp only [mem_namedDatasets_iff]

theorem impliedDatasets_eq_nil_iff :
    prompt.impliedDatasets lexicon = [] ↔
      ∀ dataset, ¬ prompt.Implies lexicon dataset := by
  rw [List.eq_nil_iff_forall_not_mem]
  simp only [mem_impliedDatasets_iff]

/-
  A prompt is about the datasets that it names; if it names
  none, about those that it implies; and if there are none
  of those either, about the default one.
-/
theorem mem_datasets_iff (dataset : Dataset) :
    dataset ∈ prompt.datasets lexicon ↔
      prompt.Names lexicon dataset ∨
        (∀ other, ¬ prompt.Names lexicon other) ∧
          (prompt.Implies lexicon dataset ∨
            (∀ other, ¬ prompt.Implies lexicon other) ∧
              dataset = defaultDataset) := by
  rw [← mem_namedDatasets_iff, ← mem_impliedDatasets_iff,
    ← namedDatasets_eq_nil_iff,
    ← impliedDatasets_eq_nil_iff]
  unfold datasets
  cases prompt.namedDatasets lexicon with
  | cons first rest => simp
  | nil =>
      cases prompt.impliedDatasets lexicon with
      | cons first rest => simp
      | nil => simp

end Prompt

end Dashboard
