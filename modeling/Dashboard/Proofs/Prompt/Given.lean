import Dashboard.Proofs.Prompt.Filters
import Dashboard.Proofs.Prompt.Sort
import Dashboard.Proofs.Text.LetterCase

/-
  What the filters and the sort of a prompt are made of, as
  far as it can be seen when they are written out: fields of
  the standard lexicon, numbers without a sign, and words of
  small letters.

  Key definitions include:
    * `Prompt.letters`
    * `Prompt.fields`
    * `Filter.IsGiven`
    * `Sorting.IsNamed`

  Main declarations:
    * `Prompt.isGiven_of_mem_filters`
    * `Prompt.isNamed_sort?`
-/

------------------------------------------------------------
-- Words In Lowercase
------------------------------------------------------------

namespace Dashboard

namespace Prompt

/- The letters of the words in a lowercase text. -/
def letters : List Char :=
  'ſ' :: Sorting.keyChars

theorem toNat_lt_of_isNameChar
    {c : Char}
    (hName : Text.isNameChar c = true) :
    c.toNat < 128 := by
  simp [Text.isNameChar, Text.isDigit, Char.le_def,
    UInt32.le_iff_toNat_le] at hName
  rcases hName with ((hName | hName) | hName) | rfl
  · omega
  · omega
  · omega
  · decide

/- A small letter of a name is one of these. -/
theorem mem_keyChars_of_isNameChar
    {c : Char}
    (hName : Text.isNameChar c = true)
    (hSettled : Text.isSettled c = true) :
    c ∈ Sorting.keyChars := by
  have hAll :=
    Text.forall_ascii
      (p := fun d =>
        !Text.isNameChar d || d.isUpper ||
          Sorting.keyChars.contains d)
      (by decide) (toNat_lt_of_isNameChar hName)
  have hSmall := Text.not_isUpper_of_isSettled hSettled
  simpa [hName, hSmall] using hAll

/- The lowercase of a name is written in small letters. -/
theorem mem_keyChars_of_mem_lowercase
    {text : List Char}
    (hName : ∀ c ∈ text, Text.isNameChar c = true)
    {c : Char}
    (hMem : c ∈ Text.lowercase text) :
    c ∈ Sorting.keyChars := by
  have hAll :
      ∀ d, Text.isNameChar d = true →
        d.toLower ∈ Sorting.keyChars := by
    intro d hHere
    have hSmall :=
      Text.forall_ascii
        (p := fun d =>
          !Text.isNameChar d ||
            Sorting.keyChars.contains d.toLower)
        (by decide) (toNat_lt_of_isNameChar hHere)
    simpa [hHere] using hSmall
  unfold Text.lowercase at hMem
  generalize ([] : List Char) = before at hMem
  induction text generalizing before with
  | nil => cases hMem
  | cons d rest ih =>
      rw [List.forall_mem_cons] at hName
      rw [Text.lowercaseAfter,
        Text.lowercaseAt_of_ascii
          (toNat_lt_of_isNameChar hName.1),
        List.singleton_append, List.mem_cons] at hMem
      rcases hMem with rfl | hRest
      · exact hAll d hName.1
      · exact ih hName.2 _ hRest

/- In a lowercase text, these are all letters of names. -/
theorem mem_letters_of_isNameLetter
    {c : Char}
    (hLetter : Pattern.isNameLetter c = true)
    (hSettled : Text.isSettled c = true) :
    c ∈ letters := by
  unfold Pattern.isNameLetter at hLetter
  rw [Bool.or_eq_true, Bool.or_eq_true, beq_iff_eq,
    beq_iff_eq] at hLetter
  rcases hLetter with (hName | rfl) | hKelvin
  · exact .tail _ (mem_keyChars_of_isNameChar hName hSettled)
  · exact .head _
  · have hChar : c = Char.ofNat 0x212A := by
      rw [← hKelvin, Char.ofNat_toNat]
    have hChanges :
        Text.isSettled (Char.ofNat 0x212A) = false := by
      decide
    rw [hChar, hChanges] at hSettled
    cases hSettled

end Prompt

end Dashboard

------------------------------------------------------------
-- Filters
------------------------------------------------------------

namespace Dashboard

/- The fields of the standard lexicon, one for each phrase. -/
def Prompt.fields : List String :=
  Lexicon.standardSynonyms.map Synonym.field

theorem Prompt.isNameChar_of_mem_fields
    {field : String}
    (hField : field ∈ fields) :
    ∀ c ∈ field.toList, Text.isNameChar c = true := by
  have hAll :
      (fields.all fun field =>
          field.toList.all Text.isNameChar) =
        true := by
    decide
  rw [List.all_eq_true] at hAll
  exact List.all_eq_true.mp (hAll field hField)

/-
  The filters that a prompt may give: a comparison with a
  number, or a word that is equal or contained.
-/
inductive Filter.IsGiven : Filter → Prop
  | number
      {field : String}
      {operator : Operator}
      {x : Double}
      (hField : field ∈ Prompt.fields)
      (hOperator :
        operator ∈ [Operator.gt, .gte, .lt, .lte, .eq])
      (hNumber : x ≠ .notANumber)
      (hSign : x.isNegative = false) :
      IsGiven ⟨field, operator, .number x⟩
  | text
      {field : String}
      {operator : Operator}
      {word : List Char}
      (hField : field ∈ Prompt.fields)
      (hOperator : operator ∈ [Operator.eq, .contains])
      (hSome : word ≠ [])
      (hWord : ∀ c ∈ word, c ∈ Prompt.letters) :
      IsGiven ⟨field, operator, .text (String.ofList word)⟩

namespace Prompt

variable {prompt : Prompt}
variable {filter : Filter}

theorem isGiven_of_mem_comparisons
    (hMem : filter ∈ prompt.comparisons .standard) :
    filter.IsGiven := by
  have hOperators :=
    (prompt.sublist_operators_comparisons .standard).subset
      (List.mem_map_of_mem hMem)
  have hOperator :
      filter.operator ∈ [Operator.gt, .gte, .lt, .lte, .eq] := by
    simpa using hOperators
  rcases List.mem_filterMap.mp hMem with
    ⟨entry, hEntry, hFilter⟩
  have hReads := Comparison.reads_of_filterIn? hEntry hFilter
  rcases hReads.operand with ⟨n, _, hOperand, hNumber, hSign⟩
  rcases hReads.field with ⟨s, hSynonym, _, hField⟩
  rcases filter with ⟨field, operator, operand⟩
  cases hOperand
  refine .number ?_ hOperator hNumber hSign
  rw [show field = s.field from hField]
  exact List.mem_map_of_mem hSynonym

theorem field_mem_of_mem_forms :
    ∀ form ∈ Assertion.forms,
      form.1 ∈ fields ∧
        form.2.1 ∈ [Operator.eq, .contains] := by
  decide

theorem isGiven_of_mem_assertions
    {written : String}
    (hMem : filter ∈ (ofString written).assertions) :
    filter.IsGiven := by
  rw [assertions_eq] at hMem
  rcases List.mem_filterMap.mp hMem with
    ⟨form, hForm, hFilter⟩
  rcases field_mem_of_mem_forms form hForm with
    ⟨hField, hOperator⟩
  unfold Assertion.filterIn? at hFilter
  split at hFilter
  · cases hFilter
  · rename_i found hFind
    rcases Option.map_eq_some_iff.mp hFilter with
      ⟨word, hGroup, rfl⟩
    rcases Pattern.takes_of_group? hFind hGroup with
      ⟨hInfix, body, hBody, hTakes⟩
    rw [Assertion.bodies_of_mem_forms hForm,
      List.mem_singleton] at hBody
    rw [hBody, Pattern.takes_some1_iff] at hTakes
    refine .text hField hOperator hTakes.1 fun c hChar => ?_
    exact
      mem_letters_of_isNameLetter (hTakes.2 c hChar)
        (Text.isSettled_of_mem_lowercase
          (hInfix.subset hChar))

/- The statuses that may be given in passing. -/
theorem isGiven_statusFilter
    {status : String}
    (hStatus :
      status ∈
        ["active", "in_stock", "out_of_stock", "low_stock"]) :
    (Shorthand.statusFilter status).IsGiven := by
  have hAll :
      ∀ status ∈
        ["active", "in_stock", "out_of_stock", "low_stock"],
        status.toList ≠ [] ∧
          status.toList.all letters.contains = true := by
    decide
  rcases hAll status hStatus with ⟨hSome, hWord⟩
  have hText : status = String.ofList status.toList :=
    String.ofList_toList.symm
  rw [Shorthand.statusFilter, hText]
  refine .text (by decide) (by decide) hSome fun c hMem => ?_
  simpa using List.all_eq_true.mp hWord c hMem

/- Every filter of a prompt is of one of the two kinds. -/
theorem isGiven_of_mem_filters
    {written : String}
    {dataset : Dataset}
    (hMem :
      filter ∈ (ofString written).filters .standard dataset) :
    filter.IsGiven := by
  rcases List.mem_append.mp hMem with hStated | hAdded
  · rcases List.mem_append.mp hStated with
      hComparison | hAssertion
    · exact isGiven_of_mem_comparisons hComparison
    · exact isGiven_of_mem_assertions hAssertion
  · have hAdds :=
      Shorthand.adds_shorthand? (ofString written)
        ((ofString written).comparisons .standard ++
          (ofString written).assertions)
        dataset
    cases dataset with
    | sales =>
        rw [hAdds] at hAdded
        cases hAdded
    | users =>
        rcases hAdds with hNone | ⟨hActive, _⟩
        · rw [hNone] at hAdded
          cases hAdded
        · rw [hActive] at hAdded
          rw [List.mem_singleton.mp hAdded]
          exact isGiven_statusFilter (by decide)
    | products =>
        rcases hAdds with hNone | ⟨status, hStatus, hStock⟩
        · rw [hNone] at hAdded
          cases hAdded
        · rw [hStock] at hAdded
          rw [List.mem_singleton.mp hAdded]
          exact isGiven_statusFilter (.tail _ hStatus)

end Prompt

end Dashboard

------------------------------------------------------------
-- Sorts
------------------------------------------------------------

namespace Dashboard

namespace Sorting

open Pattern

/- A fixed text is taken as it is. -/
theorem eq_of_takes_text
    {wanted : String}
    {taken : List Char}
    (hTakes : (text wanted).Takes taken) :
    taken = wanted.toList := by
  unfold text at hTakes
  revert hTakes
  induction wanted.toList generalizing taken with
  | nil => exact id
  | cons c rest ih =>
      rintro ⟨_, more, ⟨d, hSame, rfl⟩, hMore, rfl⟩
      rw [beq_iff_eq.mp hSame, ih hMore]
      rfl

theorem bodies_clause (verb : String) :
    (clause verb).bodies =
      [some1 Text.isNameChar, directionWord] := by
  have hVerb :
      (clause verb).bodies =
        (text verb).bodies ++
          [some1 Text.isNameChar, directionWord] :=
    rfl
  rw [hVerb, bodies_text]
  rfl

theorem bodies_superlative (first : String) :
    (superlative first).bodies = [some1 Text.isNameChar] := by
  have hFirst :
      (superlative first).bodies =
        (text first).bodies ++ [some1 Text.isNameChar] :=
    rfl
  rw [hFirst, bodies_text]
  rfl

/- The groups of a phrase for a sort hold letters of names. -/
theorem isNameChar_of_takes
    {entry : Pattern × Option Direction}
    (hEntry : entry ∈ patterns)
    {body : Pattern}
    (hBody : body ∈ entry.1.bodies)
    {taken : List Char}
    (hTakes : body.Takes taken) :
    ∀ c ∈ taken, Text.isNameChar c = true := by
  have hBodies :
      body = some1 Text.isNameChar ∨ body = directionWord := by
    simp only [patterns, List.mem_cons, List.not_mem_nil,
      or_false] at hEntry
    rcases hEntry with rfl | rfl | rfl | rfl | rfl | rfl
    all_goals
      simp only [bodies_clause, bodies_superlative,
        List.mem_cons, List.not_mem_nil, or_false] at hBody
      simp [hBody]
  rcases hBodies with rfl | rfl
  · exact (takes_some1_iff.mp hTakes).2
  · rcases hTakes with hWord | hWord | hWord | hWord
    all_goals
      rw [eq_of_takes_text hWord]
      exact List.all_eq_true.mp rfl

end Sorting

/- The field of the sort, if there is one, is a name. -/
def Sorting.IsNamed (sort : Option Sorting) : Prop :=
  ∀ given ∈ sort, ∀ c ∈ given.field.toList,
    Text.isNameChar c = true

namespace Prompt

/- The field of a sort is written in letters of names. -/
theorem isNamed_sort? (written : String) :
    Sorting.IsNamed ((ofString written).sort? .standard) := by
  intro sort hSort
  rcases List.exists_of_findSome?_eq_some hSort with
    ⟨entry, hEntry, hEntrySort⟩
  unfold Sorting.sortIn? at hEntrySort
  split at hEntrySort
  · cases hEntrySort
  · rename_i found hFind
    rcases Option.map_eq_some_iff.mp hEntrySort with
      ⟨word, hGroup, rfl⟩
    rcases Pattern.takes_of_group? hFind hGroup with
      ⟨_, body, hBody, hTakes⟩
    unfold Sorting.fieldOf
    split
    · rename_i synonym hSynonym
      apply isNameChar_of_mem_fields
      exact
        List.mem_map_of_mem
          (List.mem_of_find?_eq_some hSynonym)
    · rw [String.toList_ofList]
      exact Sorting.isNameChar_of_takes hEntry hBody hTakes

end Prompt

end Dashboard
