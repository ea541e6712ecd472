import Dashboard.Proofs.Text.Mask
import Dashboard.Prompt.Presentation
import Dashboard.Prompt.Subject
import Mathlib.Data.List.Find

/-
  Looking up in prompts whose digits are masked.  A lexicon
  whose phrases and words have no digits means the same
  datasets, fields and charts by a prompt and by its masked
  form.

  Key definitions include:
    * `Prompt.mask`
    * `Lexicon.DigitFree`

  Main declarations:
    * `Lexicon.standard_digitFree`
    * `Lexicon.DigitFree.nearestSynonym?_mask`
    * `Lexicon.DigitFree.datasets_mask`
-/

------------------------------------------------------------
-- Masked Prompts
------------------------------------------------------------

namespace Dashboard

namespace Prompt

/- A prompt with all its digits masked. -/
def mask (prompt : Prompt) : Prompt :=
  ⟨Text.mask prompt.text⟩

theorem words_mask (prompt : Prompt) :
    prompt.mask.words =
      (Text.words prompt.text).map
        (String.ofList ∘ Text.mask) := by
  unfold words mask
  rw [Text.words_mask, List.map_map]

/- Prompts that differ in digits only have the same mask. -/
theorem mask_eq_of_alikeButDigits
    {written other : String}
    (hAlike :
      Text.AlikeButDigits written.toList other.toList) :
    (ofString written).mask = (ofString other).mask := by
  unfold ofString mask
  rw [← Text.lowercase_mask, ← Text.lowercase_mask,
    Text.mask_eq_of_alikeButDigits hAlike]

theorem mentions_mask
    {phrase : String}
    (hFree : Text.digitFree phrase.toList = true)
    (prompt : Prompt) :
    prompt.mask.mentions phrase = prompt.mentions phrase :=
  Text.occurs_mask hFree prompt.text

theorem mentionsAny_mask
    {phrases : List String}
    (hFree :
      (phrases.all fun phrase =>
          Text.digitFree phrase.toList) =
        true)
    (prompt : Prompt) :
    prompt.mask.mentionsAny phrases =
      prompt.mentionsAny phrases := by
  unfold mentionsAny
  induction phrases with
  | nil => rfl
  | cons phrase rest ih =>
      rw [List.all_cons, Bool.and_eq_true] at hFree
      rw [List.any_cons, List.any_cons,
        prompt.mentions_mask hFree.1, ih hFree.2]

/- None of the phrases for components has digits. -/
theorem component_mask (prompt : Prompt) :
    prompt.mask.component = prompt.component := by
  unfold component
  rw [mentionsAny_mask (by decide), mentionsAny_mask (by decide),
    mentionsAny_mask (by decide), mentionsAny_mask (by decide)]

end Prompt

end Dashboard

------------------------------------------------------------
-- Lexicons Without Digits
------------------------------------------------------------

namespace Dashboard

namespace Lexicon

/- None of the phrases and words has digits. -/
structure DigitFree (lexicon : Lexicon) : Prop where
  synonyms :
    ∀ s ∈ lexicon.synonyms,
      Text.digitFree s.phrase.toList = true
  datasetWords :
    ∀ e ∈ lexicon.datasetWords,
      Text.digitFree e.word.toList = true
  chartWords :
    ∀ e ∈ lexicon.chartWords,
      Text.digitFree e.word.toList = true

theorem standard_digitFree : standard.DigitFree where
  synonyms := by decide
  datasetWords := by decide
  chartWords := by decide

/- Masked digits make no difference to what a word means. -/
theorem find?_word_mask
    {α : Type}
    {word : α → String}
    {table : List α}
    (hFree :
      ∀ e ∈ table, Text.digitFree (word e).toList = true)
    (text : List Char) :
    (table.find? fun e =>
        word e == String.ofList (Text.mask text)) =
      table.find? fun e => word e == String.ofList text := by
  apply List.find?_congr
  intro e hMem
  have hSame := Text.eq_mask_iff (hFree e hMem) text
  rw [Bool.eq_iff_iff, beq_iff_eq, beq_iff_eq,
    ← String.toList_inj, ← String.toList_inj,
    String.toList_ofList, String.toList_ofList]
  exact hSame

namespace DigitFree

variable {lexicon : Lexicon}

theorem datasetFor?_mask (hFree : lexicon.DigitFree) :
    lexicon.datasetFor? ∘ String.ofList ∘ Text.mask =
      lexicon.datasetFor? ∘ String.ofList := by
  funext text
  simp only [Function.comp_apply, datasetFor?,
    find?_word_mask hFree.datasetWords]

theorem chartFor?_mask (hFree : lexicon.DigitFree) :
    lexicon.chartFor? ∘ String.ofList ∘ Text.mask =
      lexicon.chartFor? ∘ String.ofList := by
  funext text
  simp only [Function.comp_apply, chartFor?,
    find?_word_mask hFree.chartWords]

theorem occursIn_mask
    (hFree : lexicon.DigitFree)
    (text : List Char) :
    ∀ s ∈ lexicon.synonyms,
      occursIn s (Text.mask text) = occursIn s text :=
  fun s hMem => Text.occurs_mask (hFree.synonyms s hMem) text

/- The phrase that stands last does so in the mask too. -/
theorem lastSynonym?_mask
    (hFree : lexicon.DigitFree)
    (window : List Char) :
    lastSynonym? (Text.mask window) lexicon.synonyms =
      lastSynonym? window lexicon.synonyms := by
  apply List.foldl_ext
  intro best s hMem
  rw [Text.lastOccurrence_mask (hFree.synonyms s hMem)]

theorem nearestSynonym?_mask
    (hFree : lexicon.DigitFree)
    (head : List Char) :
    lexicon.nearestSynonym? (Text.mask head) =
      lexicon.nearestSynonym? head := by
  have hWindow :
      windowOf (Text.mask head) =
        Text.mask (windowOf head) := by
    simp [windowOf, Text.mask, List.map_drop]
  unfold nearestSynonym?
  rw [hWindow, hFree.lastSynonym?_mask]

end DigitFree

end Lexicon

end Dashboard

------------------------------------------------------------
-- Subjects And Charts
------------------------------------------------------------

namespace Dashboard

namespace Lexicon

namespace DigitFree

variable {lexicon : Lexicon}

theorem chart_mask
    (hFree : lexicon.DigitFree)
    (prompt : Prompt) :
    prompt.mask.chart lexicon = prompt.chart lexicon := by
  unfold Prompt.chart
  rw [prompt.words_mask, List.findSome?_map,
    hFree.chartFor?_mask, ← List.findSome?_map]
  rfl

theorem namedDatasets_mask
    (hFree : lexicon.DigitFree)
    (prompt : Prompt) :
    prompt.mask.namedDatasets lexicon =
      prompt.namedDatasets lexicon := by
  unfold Prompt.namedDatasets
  rw [prompt.words_mask, List.filterMap_map,
    hFree.datasetFor?_mask, ← List.filterMap_map]
  rfl

theorem impliedDatasets_mask
    (hFree : lexicon.DigitFree)
    (prompt : Prompt) :
    prompt.mask.impliedDatasets lexicon =
      prompt.impliedDatasets lexicon := by
  unfold Prompt.impliedDatasets
  rw [Prompt.mask,
    List.filter_congr (hFree.occursIn_mask prompt.text)]

/- A prompt and its mask are about the same datasets. -/
theorem datasets_mask
    (hFree : lexicon.DigitFree)
    (prompt : Prompt) :
    prompt.mask.datasets lexicon =
      prompt.datasets lexicon := by
  unfold Prompt.datasets
  rw [hFree.namedDatasets_mask, hFree.impliedDatasets_mask]

end DigitFree

end Lexicon

end Dashboard
