import Dashboard.Error
import Dashboard.Prompt.Interpreter
import Dashboard.Proofs.Interpretation.Validity
import Dashboard.Proofs.Prompt.Subject

/-
  Interpretation by rules: what the interpretations of a
  prompt have in common, and that all of them are valid.

  Main declarations:
    * `Prompt.valid_interpretFor`
    * `Lexicon.head?_interpretAll`
    * `Lexicon.interpretAll_wellFormed`
-/

------------------------------------------------------------
-- One Dataset
------------------------------------------------------------

namespace Dashboard

namespace Prompt

variable (prompt : Prompt) (lexicon : Lexicon)

theorem isSome_chart?_iff :
    (prompt.chart? lexicon).isSome ↔
      prompt.component = .chart := by
  unfold chart?
  by_cases hChart : prompt.component = .chart
  · simp [hChart]
  · simp [hChart]

theorem filters?_ne_nil (dataset : Dataset) :
    prompt.filters? lexicon dataset ≠ some [] := by
  unfold filters?
  cases prompt.filters lexicon dataset with
  | nil => simp
  | cons first rest => simp

theorem positiveLimit?_ne_zero :
    prompt.positiveLimit? ≠ some 0 := by
  intro hZero
  have hPositive :=
    (Option.filter_eq_some_iff.mp hZero).2
  simp at hPositive

/- Whatever the prompt, what the rules make of it is valid. -/
theorem valid_interpretFor (dataset : Dataset) :
    (prompt.interpretFor lexicon dataset).Valid := by
  unfold interpretFor
  rw [Interpretation.valid_caption_iff]
  exact
    ⟨prompt.isSome_chart?_iff lexicon,
      prompt.filters?_ne_nil lexicon dataset,
      prompt.positiveLimit?_ne_zero⟩

end Prompt

end Dashboard

------------------------------------------------------------
-- All Datasets
------------------------------------------------------------

namespace Dashboard

namespace Lexicon

variable (lexicon : Lexicon) (written : String)

theorem mem_interpretAll_iff (i : Interpretation) :
    i ∈ lexicon.interpretAll written ↔
      ∃ dataset ∈ (Prompt.ofString written).datasets lexicon,
        (Prompt.ofString written).interpretFor lexicon
          dataset = i :=
  List.mem_map

theorem map_dataset_interpretAll :
    (lexicon.interpretAll written).map
        Interpretation.dataset =
      (Prompt.ofString written).datasets lexicon := by
  unfold interpretAll
  rw [List.map_map]
  exact List.map_id _

theorem interpretAll_ne_nil :
    lexicon.interpretAll written ≠ [] := by
  intro hNil
  have hHead :=
    (Prompt.ofString written).head?_datasets lexicon
  rw [← map_dataset_interpretAll, hNil] at hHead
  cases hHead

/- Every interpretation by rules is valid. -/
theorem valid_of_mem_interpretAll
    {i : Interpretation}
    (hMem : i ∈ lexicon.interpretAll written) :
    i.Valid := by
  rcases (mem_interpretAll_iff lexicon written i).mp hMem
    with ⟨dataset, _, rfl⟩
  exact Prompt.valid_interpretFor _ lexicon dataset

/-
  The interpretations differ in dataset and filters only, and
  in the title and the description that follow from them.
-/
theorem presentation_eq_of_mem_interpretAll
    {i j : Interpretation}
    (hFirst : i ∈ lexicon.interpretAll written)
    (hSecond : j ∈ lexicon.interpretAll written) :
    i.component = j.component ∧ i.chart = j.chart ∧
      i.sort = j.sort ∧ i.limit = j.limit := by
  rcases (mem_interpretAll_iff lexicon written i).mp hFirst
    with ⟨_, _, rfl⟩
  rcases (mem_interpretAll_iff lexicon written j).mp hSecond
    with ⟨_, _, rfl⟩
  exact ⟨rfl, rfl, rfl, rfl⟩

end Lexicon

end Dashboard

------------------------------------------------------------
-- Main Results
------------------------------------------------------------

namespace Dashboard

namespace Lexicon

/-
  The single interpretation of a prompt is the first one of
  all, because its dataset is the first one of all.
-/
theorem head?_interpretAll
    (lexicon : Lexicon)
    (written : String) :
    (lexicon.interpretAll written).head? =
        some (lexicon.interpret written) ∧
      ((Prompt.ofString written).datasets lexicon).head? =
        some ((Prompt.ofString written).dataset lexicon) := by
  have hDataset :=
    (Prompt.ofString written).head?_datasets lexicon
  refine ⟨?_, hDataset⟩
  unfold interpretAll interpret
  rw [List.head?_map, hDataset]
  rfl

/-
  There is one interpretation for each dataset that a prompt
  names; without such a word, for each that it implies; and
  otherwise for the sales.  All of them share their
  presentation, their sort and their limit, and are valid.
-/
theorem interpretAll_wellFormed
    (lexicon : Lexicon)
    (written : String) :
    ((lexicon.interpretAll written).map
        Interpretation.dataset).Nodup ∧
      (∀ dataset,
        dataset ∈
            (lexicon.interpretAll written).map
              Interpretation.dataset ↔
          (Prompt.ofString written).Names lexicon dataset ∨
            (∀ other,
              ¬ (Prompt.ofString written).Names lexicon
                other) ∧
              ((Prompt.ofString written).Implies lexicon
                  dataset ∨
                (∀ other,
                  ¬ (Prompt.ofString written).Implies
                    lexicon other) ∧
                  dataset = .sales)) ∧
      (∀ i ∈ lexicon.interpretAll written,
        ∀ j ∈ lexicon.interpretAll written,
          i.component = j.component ∧ i.chart = j.chart ∧
            i.sort = j.sort ∧ i.limit = j.limit) ∧
      (∀ i ∈ lexicon.interpretAll written,
        i.validate = .ok () ∧
          (i.chart.isSome ↔ i.component = .chart) ∧
          i.filters ≠ some [] ∧
          (∀ limit, i.limit = some limit → 0 < limit)) := by
  rw [map_dataset_interpretAll]
  refine ⟨Prompt.nodup_datasets _ _,
    Prompt.mem_datasets_iff _ _, ?_, ?_⟩
  · intro i hFirst j hSecond
    exact presentation_eq_of_mem_interpretAll
      lexicon written hFirst hSecond
  · intro i hMem
    have hValid := valid_of_mem_interpretAll
      lexicon written hMem
    refine ⟨(Interpretation.validate_eq_ok_iff i).mpr hValid,
      hValid.1, hValid.2.1, ?_⟩
    intro limit hLimit
    apply UInt64.pos_iff_ne_zero.mpr
    rintro rfl
    exact hValid.2.2 hLimit

end Lexicon

end Dashboard
