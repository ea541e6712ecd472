import Dashboard.Proofs.Prompt.Assertion
import Dashboard.Prompt.Criteria

/-
  Prompts that end with an amount and ask for nothing but
  their filters: no sort, no limit, and no status in passing.

  Key definitions include:
    * `Prompt.isNeutral`
    * `Shorthand.stockLeads`

  Main declarations:
    * `Prompt.sort?_eq_none`
    * `Prompt.limit?_eq_none`
    * `Prompt.shorthand?_eq_none`
-/

------------------------------------------------------------
-- Neutral Words
------------------------------------------------------------

namespace Dashboard

namespace Prompt

/- The words that a sort or a limit starts with. -/
def criteriaWords : List String :=
  ["sort", "order", "highest", "lowest", "top", "bottom",
    "first", "limit", "show"]

/- A word in which no sort and no limit starts. -/
def isNeutral (word : String) : Bool :=
  criteriaWords.all fun w =>
    (Pattern.text w).absentFrom word.toList

theorem criteriaWords_precedeAmounts :
    ∀ w ∈ criteriaWords,
      (Pattern.text w).precedesAmounts = true ∧
        (Pattern.text w).avoids ' ' = true := by
  decide

/- Neutral words with an amount start no sort or limit. -/
theorem find_neutral_eq_none
    {words : List String}
    (hNeutral : ∀ word ∈ words, isNeutral word = true)
    {pattern tail : Pattern}
    {w : String}
    (hMem : w ∈ criteriaWords)
    (hSplits : pattern.Splits (.text w) tail)
    (n : Amount) :
    pattern.find (Pattern.spaced words ++ n.text) = none := by
  rcases criteriaWords_precedeAmounts w hMem with
    ⟨hPrecedes, hAvoids⟩
  apply Pattern.find_amount_eq_none hSplits hPrecedes
  apply
    Pattern.absentFrom_spaced hAvoids
      (Pattern.takesSome_of_precedesAmounts hPrecedes)
  intro word hWord
  exact List.all_eq_true.mp (hNeutral word hWord) w hMem

end Prompt

end Dashboard

------------------------------------------------------------
-- Sorts And Limits
------------------------------------------------------------

namespace Dashboard

/- Every sort starts with one of the words. -/
theorem Sorting.exists_splits :
    ∀ e ∈ patterns,
      ∃ w ∈ Prompt.criteriaWords, ∃ tail,
        e.1.Splits (.text w) tail := by
  intro e hMem
  simp only [patterns, List.mem_cons, List.not_mem_nil,
    or_false] at hMem
  rcases hMem with rfl | rfl | rfl | rfl | rfl | rfl
  · exact ⟨"sort", by decide, _, fun _ _ _ => rfl⟩
  · exact ⟨"order", by decide, _, fun _ _ _ => rfl⟩
  · exact ⟨"highest", by decide, _, fun _ _ _ => rfl⟩
  · exact ⟨"lowest", by decide, _, fun _ _ _ => rfl⟩
  · exact ⟨"top", by decide, _, fun _ _ _ => rfl⟩
  · exact ⟨"bottom", by decide, _, fun _ _ _ => rfl⟩

/- So does every limit but the one that starts with digits. -/
theorem Limit.exists_splits :
    ∀ pattern ∈ patterns,
      pattern = beforeNoun ∨
        ∃ w ∈ Prompt.criteriaWords, ∃ tail,
          pattern.Splits (.text w) tail := by
  intro pattern hMem
  simp only [patterns, List.mem_cons, List.not_mem_nil,
    or_false] at hMem
  rcases hMem with rfl | rfl | rfl | rfl | rfl
  · exact .inr ⟨"top", by decide, _, fun _ _ _ => rfl⟩
  · exact .inr ⟨"first", by decide, _, fun _ _ _ => rfl⟩
  · exact .inl rfl
  · exact .inr ⟨"limit", by decide, _, fun _ _ _ => rfl⟩
  · exact .inr ⟨"show", by decide, _, fun _ _ _ => rfl⟩

theorem Limit.beforeNoun_splits :
    beforeNoun.Splits
      (.group (.both (.some1 Text.isDigit) .nothing))
      (.both .blanks
        (.both
          (.choice (.text "result")
            [.text "item", .text "record", .text "row"])
          .nothing)) :=
  fun _ _ _ => rfl

namespace Prompt

variable {words : List String}

theorem sort?_eq_none
    (hNeutral : ∀ word ∈ words, isNeutral word = true)
    (lexicon : Lexicon)
    (n : Amount) :
    sort? ⟨Pattern.spaced words ++ n.text⟩ lexicon = none := by
  unfold sort?
  rw [List.findSome?_eq_none_iff]
  intro e hMem
  rcases Sorting.exists_splits e hMem with
    ⟨w, hWord, tail, hSplits⟩
  rw [Sorting.sortIn?,
    find_neutral_eq_none hNeutral hWord hSplits n]

theorem limit?_eq_none
    (hNeutral : ∀ word ∈ words, isNeutral word = true)
    (hDigits :
      ∀ c ∈ Pattern.spaced words, Text.isDigit c = false)
    (n : Amount) :
    limit? ⟨Pattern.spaced words ++ n.text⟩ = none := by
  unfold limit?
  rw [List.findSome?_eq_none_iff]
  intro pattern hMem
  have hFind :
      pattern.find (Pattern.spaced words ++ n.text) = none := by
    rcases Limit.exists_splits pattern hMem with
      rfl | ⟨w, hWord, tail, hSplits⟩
    · exact
        Comparison.find_digits_blanks_eq_none
          Limit.beforeNoun_splits hDigits n
    · exact find_neutral_eq_none hNeutral hWord hSplits n
  rw [Limit.limitIn?, hFind]

end Prompt

end Dashboard

------------------------------------------------------------
-- Stock Status
------------------------------------------------------------

namespace Dashboard

namespace Shorthand

open Pattern

/- The phrases for a stock status without their edges. -/
def stockLeads : List Pattern :=
  [both (text "in") (both gap (text "stock")),
    both (text "out")
      (both gap (both (text "of") (both gap (text "stock")))),
    both (text "low") (both gap (text "stock"))]

theorem stockLeads_precedeAmounts :
    ∀ lead ∈ stockLeads, lead.precedesAmounts = true := by
  decide

theorem stock_exists_splits :
    ∀ e ∈ stockPatterns,
      ∃ lead ∈ stockLeads, ∃ pattern,
        e.1 = both edge pattern ∧
          pattern.Splits lead edge := by
  intro e hMem
  simp only [stockPatterns, List.mem_cons, List.not_mem_nil,
    or_false] at hMem
  rcases hMem with rfl | rfl | rfl
  · exact ⟨_, .head _, _, rfl, fun _ _ _ => rfl⟩
  · exact ⟨_, .tail _ (.head _), _, rfl, fun _ _ _ => rfl⟩
  · exact
      ⟨_, .tail _ (.tail _ (.head _)), _, rfl,
        fun _ _ _ => rfl⟩

/- An edge before a pattern only forbids some places. -/
theorem findAfter_edge_eq_none
    {pattern : Pattern}
    {before text : List Char}
    (hNone : pattern.findAfter before text = none) :
    (both edge pattern).findAfter before text = none := by
  have hHere :
      ∀ place,
        pattern.matchAt place = none →
          (both edge pattern).matchAt place = none := by
    intro place hPlace
    rw [matchAt, follow_both, follow_edge]
    split
    · exact hPlace
    · rfl
  induction text generalizing before with
  | nil => exact hHere _ hNone
  | cons c rest ih =>
      rw [findAfter] at hNone ⊢
      split at hNone
      · cases hNone
      · rename_i hPlace
        rw [hHere _ hPlace]
        exact ih hNone

end Shorthand

/- Without a phrase for it, no stock status is given. -/
theorem Prompt.shorthand?_eq_none
    {text : List Char}
    (hAbsent :
      ∀ lead ∈ Shorthand.stockLeads,
        lead.absentFrom text = true)
    (n : Amount)
    (existing : List Filter) :
    shorthand? ⟨text ++ n.text⟩ existing .products = none := by
  have hNone :
      Shorthand.stockPatterns.find?
          (fun e => e.1.fits (text ++ n.text)) =
        none := by
    rw [List.find?_eq_none]
    intro e hMem
    rcases Shorthand.stock_exists_splits e hMem with
      ⟨lead, hLead, pattern, hPattern, hSplits⟩
    have hFind : e.1.find (text ++ n.text) = none := by
      rw [hPattern]
      apply Shorthand.findAfter_edge_eq_none
      exact
        Pattern.find_amount_eq_none hSplits
          (Shorthand.stockLeads_precedeAmounts lead hLead)
          (hAbsent lead hLead) n
    simp [Pattern.fits, hFind]
  rw [shorthand?, hNone]
  rfl

end Dashboard
