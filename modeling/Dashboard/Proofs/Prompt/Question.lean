import Dashboard.Prompt.Interpreter
import Dashboard.Proofs.Prompt.Criteria
import Dashboard.Proofs.Query.Number

/-
  Questions about the numbers of products, such as `products
  where price is above 100`, and the filters they are read
  as: the comparison, and an equality with the word that
  comes after `is`, since assertions are looked for in the
  whole prompt.

  Key definitions include:
    * `Question.comparisons`
    * `Question.equalities`
    * `Question.words`

  Main declarations:
    * `Question.query_eq`
    * `Question.query_comparison`
    * `Question.query_equality`
-/

------------------------------------------------------------
-- Words Of Questions
------------------------------------------------------------

namespace Dashboard

namespace Question

open Pattern

/- The fields of products that questions are about. -/
def fields : List String :=
  ["price", "stock", "rating"]

/- The phrases for comparisons that stand after `is`. -/
def comparisons : List (Operator × List String) :=
  [(.gt, ["above"]), (.gt, ["over"]),
    (.gt, ["greater", "than"]), (.gt, ["more", "than"]),
    (.gte, ["at", "least"]), (.lt, ["below"]),
    (.lt, ["under"]), (.lt, ["less", "than"]),
    (.lte, ["at", "most"]), (.lte, ["up", "to"])]

/- The words for equality. -/
def equalities : List String :=
  ["is", "=", "equals"]

/- What stands between the field and the amount. -/
def tails : List (List String) :=
  comparisons.map (fun e => "is" :: e.2) ++
    equalities.map fun word => [word]

/- The words of a question before its amount. -/
def words (field : String) (tail : List String) : List String :=
  "products" :: "where" :: field :: tail

/- All words of questions other than the fields. -/
def vocabulary : List String :=
  "products" :: "where" :: tails.flatten

variable {field : String} {tail : List String}

theorem mem_words
    (hTail : tail ∈ tails)
    {word : String}
    (hMem : word ∈ words field tail) :
    word = field ∨ word ∈ vocabulary := by
  simp only [words, List.mem_cons] at hMem
  rcases hMem with rfl | rfl | hField | hWord
  · exact .inr (.head _)
  · exact .inr (.tail _ (.head _))
  · exact .inl hField
  · right
    apply List.mem_cons_of_mem
    apply List.mem_cons_of_mem
    exact List.mem_flatten.mpr ⟨tail, hTail, hWord⟩

theorem mem_fields_or_vocabulary
    (hField : field ∈ fields)
    (hTail : tail ∈ tails)
    {word : String}
    (hMem : word ∈ words field tail) :
    word ∈ fields ++ vocabulary := by
  rcases mem_words hTail hMem with rfl | hWord
  · exact List.mem_append_left _ hField
  · exact List.mem_append_right _ hWord

/- Questions are in lowercase and have no digits. -/
theorem isLower_of_mem_words
    (hField : field ∈ fields)
    (hTail : tail ∈ tails)
    {c : Char}
    (hMem : c ∈ spaced (words field tail)) :
    Text.isLower c = true ∧ Text.isDigit c = false := by
  have hWords :
      ∀ word ∈ fields ++ vocabulary,
        (word.toList.all fun c =>
          Text.isLower c && !Text.isDigit c) = true := by
    decide
  rcases List.mem_flatMap.mp hMem with ⟨word, hWord, hChar⟩
  rcases List.mem_append.mp hChar with hLetter | hBlank
  · have hChars :=
      hWords word (mem_fields_or_vocabulary hField hTail hWord)
    simpa using List.all_eq_true.mp hChars c hLetter
  · rw [List.mem_singleton.mp hBlank]
    decide

theorem isNeutral_of_mem_words
    (hField : field ∈ fields)
    (hTail : tail ∈ tails) :
    ∀ word ∈ words field tail,
      Prompt.isNeutral word = true := by
  have hWords :
      ∀ word ∈ fields ++ vocabulary,
        Prompt.isNeutral word = true := by
    decide
  exact fun word hMem =>
    hWords word (mem_fields_or_vocabulary hField hTail hMem)

theorem stockLeads_absent :
    ∀ field ∈ fields, ∀ tail ∈ tails,
      ∀ lead ∈ Shorthand.stockLeads,
        lead.absentFrom (spaced (words field tail)) =
          true := by
  decide

/- Only the field of a question is named in it. -/
theorem letters_absent
    (hField : field ∈ fields)
    (hTail : tail ∈ tails)
    {other : String}
    (hOther : other ∈ Assertion.fields)
    (hDiffers : other ≠ field) :
    (letters other).absentFrom (spaced (words field tail)) =
      true := by
  have hLetters :
      ∀ other ∈ Assertion.fields,
        (letters other).avoids ' ' = true ∧
          (letters other).takesSome = true := by
    decide
  have hWords :
      ∀ other ∈ Assertion.fields,
        ∀ word ∈ fields ++ vocabulary,
          word = other ∨
            (letters other).absentFrom word.toList = true := by
    decide
  have hNames :
      ∀ word ∈ vocabulary, word ∉ Assertion.fields := by
    decide
  apply
    absentFrom_spaced (hLetters other hOther).1
      (hLetters other hOther).2
  intro word hMem
  rcases hWords other hOther word
      (mem_fields_or_vocabulary hField hTail hMem) with
    rfl | hAbsent
  · rcases mem_words hTail hMem with hSame | hWord
    · exact absurd hSame hDiffers
    · exact absurd hOther (hNames word hWord)
  · exact hAbsent

end Question

end Dashboard

------------------------------------------------------------
-- Questions As Prompts
------------------------------------------------------------

namespace Dashboard

theorem Interpretation.filterList_interpretFor
    (prompt : Prompt)
    (lexicon : Lexicon)
    (dataset : Dataset) :
    (prompt.interpretFor lexicon dataset).filterList =
      prompt.filters lexicon dataset := by
  unfold filterList Prompt.interpretFor Prompt.filters?
  cases prompt.filters lexicon dataset with
  | nil => rfl
  | cons filter more => rfl

namespace Question

open Pattern

variable {field : String} {tail : List String}

/- A question with its amount. -/
def prompt
    (field : String)
    (tail : List String)
    (n : Amount) : Prompt :=
  ⟨spaced (words field tail) ++ n.text⟩

theorem prompt_eq
    (hField : field ∈ fields)
    (hTail : tail ∈ tails)
    (n : Amount) :
    Prompt.ofString
        (String.ofList
          (spaced (words field tail) ++ n.text)) =
      prompt field tail n := by
  unfold Prompt.ofString prompt
  rw [String.toList_ofList, Text.lowercase_of_isLower]
  intro c hMem
  rcases List.mem_append.mp hMem with hWord | hAmount
  · exact (isLower_of_mem_words hField hTail hWord).1
  · exact n.isLower_of_mem_text hAmount

/- The first word of a question names the dataset. -/
theorem dataset_prompt
    (field : String)
    (tail : List String)
    (n : Amount) :
    (prompt field tail n).dataset .standard = .products := by
  have hWords :
      ∃ more,
        (prompt field tail n).words = "products" :: more :=
    ⟨_, rfl⟩
  have hFirst :
      Lexicon.standard.datasetFor? "products" =
        some .products := by
    decide
  rcases hWords with ⟨more, hWords⟩
  unfold Prompt.dataset Prompt.namedDataset?
  rw [hWords, List.findSome?_cons, hFirst]
  rfl

theorem comparisons_prompt
    (hField : field ∈ fields)
    (hTail : tail ∈ tails)
    (n : Amount) :
    (prompt field tail n).comparisons .standard =
      (Comparison.headsIn
          (spaced (words field tail))).filterMap
        fun found =>
          (Lexicon.standard.nearestSynonym? found.2).map
            fun synonym =>
              ⟨synonym.field, found.1, .number n.value⟩ :=
  Prompt.comparisons_append .standard
    (fun _ hMem =>
      (isLower_of_mem_words hField hTail hMem).2) n

/- Questions end with a blank before the amount. -/
theorem getLast?_spaced_words :
    ∀ field ∈ fields, ∀ tail ∈ tails,
      (spaced (words field tail)).getLast? = some ' ' := by
  decide

/- Of a list in which only one element gives anything. -/
private theorem flatMap_eq_of_mem
    {α β : Type}
    {f : α → List β}
    {a : α}
    {list : List α}
    (hNodup : list.Nodup)
    (hMem : a ∈ list)
    (hOthers : ∀ x ∈ list, x ≠ a → f x = []) :
    list.flatMap f = f a := by
  induction list with
  | nil => cases hMem
  | cons x rest ih =>
      rw [List.forall_mem_cons] at hOthers
      rcases List.nodup_cons.mp hNodup with ⟨hFirst, hRest⟩
      rw [List.flatMap_cons]
      by_cases hSame : x = a
      · subst hSame
        have hNone : rest.flatMap f = [] := by
          rw [List.flatMap_eq_nil_iff]
          intro y hY
          apply hOthers.2 y hY
          rintro rfl
          exact hFirst hY
        rw [hNone, List.append_nil]
      · rw [hOthers.1 hSame,
          ih hRest
            ((List.mem_cons.mp hMem).resolve_left
              (Ne.symm hSame))
            hOthers.2]
        rfl

theorem fields_subset : fields ⊆ Assertion.fields := by
  decide

theorem assertions_prompt
    (hField : field ∈ fields)
    (hTail : tail ∈ tails)
    (n : Amount) :
    (prompt field tail n).assertions =
      (Assertion.statedOf
          (spaced (words field tail)) field).map
        fun e =>
          ⟨field, e.1,
            .text
              (String.ofList
                (e.2.getD n.whole.chars))⟩ := by
  have hLast :
      ∀ c ∈ (spaced (words field tail)).getLast?,
        isNameLetter c = false := by
    intro c hMem
    rw [getLast?_spaced_words field hField tail hTail] at hMem
    cases hMem
    rfl
  have hOthers :
      ∀ other ∈ Assertion.fields, other ≠ field →
        Assertion.statedOf (spaced (words field tail)) other =
          [] := by
    intro other hOther hDiffers
    exact
      Assertion.statedOf_eq_nil hOther
        (letters_absent hField hTail hOther hDiffers)
  unfold prompt
  rw [Prompt.assertions_append hLast]
  apply flatMap_eq_of_mem (by decide) (fields_subset hField)
  intro other hOther hDiffers
  rw [hOthers other hOther hDiffers]
  rfl

/-
  A question is a query for the products that pass its
  filters.
-/
theorem query_eq
    (hField : field ∈ fields)
    (hTail : tail ∈ tails)
    (n : Amount) :
    Query.ofInterpretation
        (Lexicon.standard.interpret
          (String.ofList
            (spaced (words field tail) ++ n.text))) =
      .filtered .products
        ((prompt field tail n).comparisons .standard ++
          (prompt field tail n).assertions) := by
  have hNeutral := isNeutral_of_mem_words hField hTail
  have hSort :
      (prompt field tail n).sort? .standard = none :=
    Prompt.sort?_eq_none hNeutral .standard n
  have hLimit : (prompt field tail n).limit? = none :=
    Prompt.limit?_eq_none hNeutral
      (fun _ hMem =>
        (isLower_of_mem_words hField hTail hMem).2)
      n
  have hShorthand :
      ∀ existing,
        (prompt field tail n).shorthand? existing .products =
          none :=
    Prompt.shorthand?_eq_none
      (stockLeads_absent field hField tail hTail) n
  have hFilters :
      (prompt field tail n).filters .standard .products =
        (prompt field tail n).comparisons .standard ++
          (prompt field tail n).assertions := by
    unfold Prompt.filters
    dsimp only
    rw [hShorthand]
    exact List.append_nil _
  unfold Lexicon.interpret
  dsimp only
  rw [prompt_eq hField hTail, dataset_prompt]
  unfold Query.ofInterpretation
  rw [Interpretation.filterList_interpretFor, hFilters]
  unfold Prompt.interpretFor Interpretation.caption
    Prompt.positiveLimit?
  rw [hSort, hLimit]
  rfl

end Question

end Dashboard

------------------------------------------------------------
-- What Questions Are Read As
------------------------------------------------------------

namespace Dashboard

namespace Question

open Pattern

variable {field : String}

theorem nearestSynonym?_words :
    ∀ field ∈ fields, ∀ tail ∈ [[], ["is"]],
      (Lexicon.standard.nearestSynonym?
          (spaced (words field tail))).map Synonym.field =
        some field := by
  decide

/-
  The comparison of a question in whose last words only one
  phrase is found, if the field stands before that phrase.
-/
theorem comparisons_eq_singleton
    (hField : field ∈ fields)
    {tail front last inner before : List String}
    (hTail : tail ∈ tails)
    {operator : Operator}
    (hSettles : Comparison.Settles (spaced last))
    (hHeads :
      Comparison.headsIn (spaced last) =
        [(operator, spaced inner)])
    (hWords : words field tail = front ++ last)
    (hHead : words field before = front ++ inner)
    (hBefore : before ∈ [[], ["is"]])
    (n : Amount) :
    (prompt field tail n).comparisons .standard =
      [⟨field, operator, .number n.value⟩] := by
  rcases Option.map_eq_some_iff.mp
      (nearestSynonym?_words field hField before hBefore)
    with ⟨synonym, hNearest, hSynonym⟩
  rw [hHead, spaced_append] at hNearest
  rw [comparisons_prompt hField hTail, hWords, spaced_append,
    Comparison.headsIn_append hSettles, hHeads]
  simp [hNearest, hSynonym]

/- Only the phrase itself is found after `is`. -/
theorem headsIn_comparison :
    ∀ e ∈ comparisons,
      Comparison.Settles (spaced ("is" :: e.2)) ∧
        Comparison.headsIn (spaced ("is" :: e.2)) =
          [(e.1, spaced ["is"])] := by
  decide

/- The word after `is` is taken for the value of the field. -/
theorem statedOf_comparison :
    ∀ field ∈ fields, ∀ e ∈ comparisons,
      Assertion.statedOf
          (spaced (words field ("is" :: e.2))) field =
        [(.eq, some (e.2.headD "").toList)] := by
  decide

/-
  A question with a comparison is read as the comparison and
  an equality with its first word.
-/
theorem query_comparison
    (hField : field ∈ fields)
    {e : Operator × List String}
    (hMem : e ∈ comparisons)
    (n : Amount) :
    Query.ofInterpretation
        (Lexicon.standard.interpret
          (String.ofList
            (spaced (words field ("is" :: e.2)) ++
              n.text))) =
      .filtered .products
        [⟨field, e.1, .number n.value⟩,
          ⟨field, .eq, .text (e.2.headD "")⟩] := by
  have hTail : "is" :: e.2 ∈ tails :=
    List.mem_append_left _ (List.mem_map_of_mem hMem)
  rcases headsIn_comparison e hMem with ⟨hSettles, hHeads⟩
  have hWords :
      words field ("is" :: e.2) =
        ["products", "where", field] ++ "is" :: e.2 :=
    rfl
  have hComparisons :=
    comparisons_eq_singleton hField hTail hSettles hHeads
      hWords rfl (by decide) n
  have hAssertions :
      (prompt field ("is" :: e.2) n).assertions =
        [⟨field, .eq, .text (e.2.headD "")⟩] := by
    rw [assertions_prompt hField hTail,
      statedOf_comparison field hField e hMem]
    simp
  rw [query_eq hField hTail, hComparisons, hAssertions]
  rfl

/- Only the word itself is found before an amount. -/
theorem headsIn_equality :
    ∀ field ∈ fields, ∀ word ∈ equalities,
      Comparison.Settles (spaced [field, word]) ∧
        Comparison.headsIn (spaced [field, word]) =
          [(.eq, spaced [field])] := by
  decide

/- The value of the field starts with the amount. -/
theorem statedOf_equality :
    ∀ field ∈ fields, ∀ word ∈ equalities,
      Assertion.statedOf (spaced (words field [word])) field =
        [(.eq, none)] := by
  decide

/-
  A question with an equality is read as two equalities: with
  the amount, and with its digits before the point.
-/
theorem query_equality
    (hField : field ∈ fields)
    {word : String}
    (hMem : word ∈ equalities)
    (n : Amount) :
    Query.ofInterpretation
        (Lexicon.standard.interpret
          (String.ofList
            (spaced (words field [word]) ++ n.text))) =
      .filtered .products
        [⟨field, .eq, .number n.value⟩,
          ⟨field, .eq, .text n.floor.written⟩] := by
  have hTail : [word] ∈ tails :=
    List.mem_append_right _ (List.mem_map_of_mem hMem)
  rcases headsIn_equality field hField word hMem with
    ⟨hSettles, hHeads⟩
  have hWords :
      words field [word] =
        ["products", "where"] ++ [field, word] :=
    rfl
  have hComparisons :=
    comparisons_eq_singleton hField hTail hSettles hHeads
      hWords rfl List.mem_cons_self n
  have hAssertions :
      (prompt field [word] n).assertions =
        [⟨field, .eq, .text n.floor.written⟩] := by
    rw [assertions_prompt hField hTail,
      statedOf_equality field hField word hMem]
    simp [Amount.written, n.text_floor]
  rw [query_eq hField hTail, hComparisons, hAssertions]
  rfl

end Question

end Dashboard
