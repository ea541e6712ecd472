import Dashboard.Interpretation.Caption
import Dashboard.Proofs.Number.Prose
import Dashboard.Proofs.Pattern.Search
import Dashboard.Proofs.Prompt.Given

/-
  Descriptions as prompts: the description of filters that a
  prompt gave, in lowercase.  After the first word it is one
  clause for each filter, then maybe the sort and the limit.

  Key definitions include:
    * `Filter.clause`
    * `Description.following`
    * `Description.sortTail`
    * `Description.limitTail`
    * `Description.text`

  Main declarations:
    * `Filter.IsGiven.mem_of_mem_value`
    * `Description.text_ofString`
-/

------------------------------------------------------------
-- Texts Without Exceptions
------------------------------------------------------------

namespace Dashboard

namespace Text

/- The characters that have a lowercase of their own. -/
def isRegular (c : Char) : Bool :=
  c != 'İ' && c != 'Σ'

theorem lowercaseAfter_of_isRegular
    {text : List Char}
    (hRegular : ∀ c ∈ text, isRegular c = true)
    (before : List Char) :
    lowercaseAfter before text = text.map lowercaseChar := by
  induction text generalizing before with
  | nil => rfl
  | cons c rest ih =>
      rw [List.forall_mem_cons, isRegular, Bool.and_eq_true,
        bne_iff_ne, bne_iff_ne] at hRegular
      rw [lowercaseAfter, lowercaseAt, if_neg hRegular.1.1,
        if_neg hRegular.1.2, ih hRegular.2]
      rfl

/- The lowercase of such a text goes character by character. -/
theorem lowercase_of_isRegular
    {text : List Char}
    (hRegular : ∀ c ∈ text, isRegular c = true) :
    lowercase text = text.map lowercaseChar :=
  lowercaseAfter_of_isRegular hRegular []

end Text

end Dashboard

------------------------------------------------------------
-- Values
------------------------------------------------------------

namespace Dashboard

/-
  A number without a sign is written as an amount of the same
  value, or as infinite.
-/
theorem Double.prose_cases
    {x : Double}
    (hNumber : x ≠ .notANumber)
    (hSign : x.isNegative = false) :
    (x.isFinite = true ∧
        ∃ n : Amount, x.prose = n.written ∧ n.value = x) ∨
      x.isFinite = false ∧ x.prose = "inf" := by
  cases x with
  | finite negative units hFits =>
      left
      obtain rfl : negative = false := hSign
      rcases Double.exists_amount_prose false hFits with
        ⟨n, hProse, _, hValue⟩
      exact ⟨rfl, n, hProse, hValue⟩
  | infinite negative =>
      right
      obtain rfl : negative = false := hSign
      exact ⟨rfl, rfl⟩
  | notANumber => exact absurd rfl hNumber

namespace Filter

variable {filter : Filter}

/- The characters that values are written with. -/
def valueChars : List Char :=
  '.' :: Prompt.letters

/- The value of a filter as it stands in a description. -/
def value (filter : Filter) : List Char :=
  filter.operand.describe.toList

theorem IsGiven.field_mem
    (hGiven : filter.IsGiven) :
    filter.field ∈ Prompt.fields := by
  cases hGiven with
  | number hField => exact hField
  | text hField => exact hField

theorem mem_letters_of_isDigit
    {c : Char}
    (hDigit : Text.isDigit c = true) :
    c ∈ Prompt.letters := by
  have hAll :
      (Text.digits.all Prompt.letters.contains) = true := by
    decide
  simpa using
    List.all_eq_true.mp hAll c (Text.mem_digits_of_isDigit hDigit)

theorem IsGiven.mem_of_mem_value
    (hGiven : filter.IsGiven)
    {c : Char}
    (hMem : c ∈ filter.value) :
    c ∈ valueChars := by
  cases hGiven with
  | number hField hOperator hNumber hSign =>
      rename_i field operator x
      have hProse : c ∈ x.prose.toList := hMem
      rcases Double.prose_cases hNumber hSign with
        ⟨_, n, hText, _⟩ | ⟨_, hText⟩
      · rw [hText, Amount.written, String.toList_ofList]
          at hProse
        rcases n.isDigit_or_point_of_mem hProse with
          hDigit | rfl
        · exact .tail _ (mem_letters_of_isDigit hDigit)
        · exact .head _
      · rw [hText] at hProse
        have hAll :
            ("inf".toList.all valueChars.contains) = true := by
          decide
        simpa using List.all_eq_true.mp hAll c hProse
  | text hField hOperator hSome hWord =>
      rename_i field operator word
      have hWordMem : c ∈ (String.ofList word).toList := hMem
      rw [String.toList_ofList] at hWordMem
      exact .tail _ (hWord c hWordMem)

/- A value starts with a letter or a digit. -/
theorem IsGiven.exists_first
    (hGiven : filter.IsGiven) :
    ∃ c rest, filter.value = c :: rest ∧ c ∈ Prompt.letters := by
  cases hGiven with
  | number hField hOperator hNumber hSign =>
      rename_i field operator x
      have hValue :
          value ⟨field, operator, .number x⟩ =
            x.prose.toList :=
        rfl
      rw [hValue]
      rcases Double.prose_cases hNumber hSign with
        ⟨_, n, hText, _⟩ | ⟨_, hText⟩
      · rcases n.exists_first with ⟨d, rest, hFirst, hDigit⟩
        rw [hText, Amount.written, String.toList_ofList]
        exact ⟨d, rest, hFirst, mem_letters_of_isDigit hDigit⟩
      · rw [hText]
        exact ⟨'i', ['n', 'f'], rfl, by decide⟩
  | text hField hOperator hSome hWord =>
      rename_i field operator word
      have hValue :
          value ⟨field, operator, .text (String.ofList word)⟩ =
            word :=
        String.toList_ofList
      rw [hValue]
      rcases List.exists_cons_of_ne_nil hSome with
        ⟨c, rest, rfl⟩
      exact ⟨c, rest, rfl, hWord c List.mem_cons_self⟩

/- The clause of a filter in a description, in lowercase. -/
def clause (filter : Filter) : List Char :=
  Text.lowercase filter.field.toList ++
    ' ' :: (filter.operator.symbol.toList ++
      ' ' :: filter.value)

end Filter

end Dashboard

------------------------------------------------------------
-- Descriptions
------------------------------------------------------------

namespace Dashboard

namespace Description

open Pattern (spaced)

/- The clauses that come after another one. -/
def following (filters : List Filter) (tail : List Char) :
    List Char :=
  filters.foldr
    (fun filter rest => ',' :: ' ' :: (filter.clause ++ rest))
    tail

/- A direction in brackets. -/
def bracketed (direction : Direction) : List Char :=
  '(' :: (direction.name.toList ++ [')'])

/- What is said about the sort, in lowercase. -/
def sortTail : Option Sorting → List Char
  | none => []
  | some sort =>
      ' ' :: (spaced ["•", "sorted", "by"] ++
        (Text.lowercase sort.field.toList ++
          ' ' :: bracketed sort.direction))

/- What is said about the limit, in lowercase. -/
def limitTail : Option UInt64 → List Char
  | none => []
  | some limit =>
      ' ' :: (spaced ["•", "showing", "top"] ++
        ((toString limit.toNat).toList ++
          ' ' :: "results".toList))

/-
  The description of a filter and more of them, with the sort
  and the limit, in lowercase.
-/
def text
    (filter : Filter)
    (more : List Filter)
    (sort : Option Sorting)
    (limit : Option UInt64) : List Char :=
  "filtered:".toList ++
    ' ' :: (filter.clause ++
      following more (sortTail sort ++ limitTail limit))

theorem following_eq
    (filters : List Filter)
    (tail : List Char) :
    following filters tail =
      (filters.flatMap fun filter =>
          ',' :: ' ' :: filter.clause) ++
        tail := by
  induction filters with
  | nil => rfl
  | cons filter more ih =>
      rw [List.flatMap_cons, List.append_assoc, ← ih]
      rfl

end Description

end Dashboard

------------------------------------------------------------
-- Their Lowercase
------------------------------------------------------------

namespace Dashboard

/-
  A text that is regular and becomes another one when each of
  its characters is put in lowercase.
-/
def Text.Lowers (text lower : List Char) : Prop :=
  (∀ c ∈ text, isRegular c = true) ∧
    text.map lowercaseChar = lower

namespace Text

theorem Lowers.lowercase_eq
    {text lower : List Char}
    (hLowers : Lowers text lower) :
    lowercase text = lower :=
  (lowercase_of_isRegular hLowers.1).trans hLowers.2

theorem Lowers.append
    {text lower more rest : List Char}
    (hFirst : Lowers text lower)
    (hSecond : Lowers more rest) :
    Lowers (text ++ more) (lower ++ rest) := by
  constructor
  · exact List.forall_mem_append.mpr ⟨hFirst.1, hSecond.1⟩
  · rw [List.map_append, hFirst.2, hSecond.2]

theorem lowers_of_all
    {text lower : List Char}
    (hRegular : text.all isRegular = true)
    (hLower : text.map lowercaseChar = lower) :
    Lowers text lower :=
  ⟨List.all_eq_true.mp hRegular, hLower⟩

/- Characters that stay as they are. -/
theorem lowers_self
    {chars : List Char}
    (hChars :
      (chars.all fun c =>
          isRegular c && lowercaseChar c == c) =
        true)
    {text : List Char}
    (hText : ∀ c ∈ text, c ∈ chars) :
    Lowers text text := by
  rw [List.all_eq_true] at hChars
  have hStay :
      ∀ c ∈ text,
        isRegular c = true ∧ lowercaseChar c = c := by
    intro c hMem
    simpa using hChars c (hText c hMem)
  refine ⟨fun c hMem => (hStay c hMem).1, ?_⟩
  rw [List.map_congr_left fun c hMem => (hStay c hMem).2,
    List.map_id']

/- Names have a lowercase of their own. -/
theorem lowers_of_isNameChar
    {text : List Char}
    (hName : ∀ c ∈ text, isNameChar c = true) :
    Lowers text (lowercase text) := by
  have hRegular : ∀ c ∈ text, isRegular c = true := by
    intro c hMem
    have hAll :=
      forall_ascii (p := fun d => isRegular d) (by decide)
        (Prompt.toNat_lt_of_isNameChar (hName c hMem))
    exact hAll
  exact ⟨hRegular, (lowercase_of_isRegular hRegular).symm⟩

end Text

open Pattern (spaced)
open Text (Lowers)

namespace Filter

theorem IsGiven.lowers_describe
    {filter : Filter}
    (hGiven : filter.IsGiven) :
    Lowers filter.describe.toList filter.clause := by
  have hSymbol :
      Lowers filter.operator.symbol.toList
        filter.operator.symbol.toList := by
    cases filter.operator
    all_goals exact Text.lowers_of_all rfl (by decide)
  have hField :
      Lowers filter.field.toList
        (Text.lowercase filter.field.toList) :=
    Text.lowers_of_isNameChar
      (Prompt.isNameChar_of_mem_fields hGiven.field_mem)
  have hValue : Lowers filter.value filter.value :=
    Text.lowers_self (by decide) fun _ => hGiven.mem_of_mem_value
  have hBlank : Lowers [' '] [' '] :=
    Text.lowers_of_all rfl (by decide)
  have hText :
      filter.describe.toList =
        filter.field.toList ++
          ([' '] ++ (filter.operator.symbol.toList ++
            ([' '] ++ filter.value))) := by
    simp [describe, value]
  rw [hText]
  exact
    hField.append
      (hBlank.append (hSymbol.append (hBlank.append hValue)))

end Filter

namespace Description

variable {filter : Filter}
variable {more : List Filter}

/- The filters of a description, one clause for each. -/
theorem lowers_filters
    (hGiven : ∀ f ∈ filter :: more, f.IsGiven) :
    Lowers
      (", ".intercalate
          ((filter :: more).map Filter.describe)).toList
      (filter.clause ++ following more []) := by
  induction more generalizing filter with
  | nil =>
      have hClause :=
        (hGiven filter List.mem_cons_self).lowers_describe
      rw [following, List.foldr_nil, List.append_nil]
      exact hClause
  | cons second rest ih =>
      rw [List.forall_mem_cons] at hGiven
      have hComma : Lowers ", ".toList [',', ' '] :=
        Text.lowers_of_all rfl (by decide)
      have hText :
          (", ".intercalate
              ((filter :: second :: rest).map
                Filter.describe)).toList =
            filter.describe.toList ++
              (", ".toList ++
                (", ".intercalate
                  ((second :: rest).map
                    Filter.describe)).toList) := by
        simp [String.toList_intercalate]
      rw [hText]
      exact
        hGiven.1.lowers_describe.append
          (hComma.append (ih hGiven.2))

/- Parts of a description with a mark before each. -/
def marked (parts : List String) : List Char :=
  parts.flatMap fun part => " • ".toList ++ part.toList

theorem lowers_sortPart
    {i : Interpretation}
    (hSort : Sorting.IsNamed i.sort) :
    Lowers (marked i.sortPart) (sortTail i.sort) := by
  unfold Interpretation.sortPart
  cases hGiven : i.sort with
  | none => exact ⟨by simp [marked], rfl⟩
  | some sort =>
      have hMark :
          Lowers (" • ".toList ++ "Sorted by ".toList)
            (' ' :: spaced ["•", "sorted", "by"]) :=
        Text.lowers_of_all (by decide) (by decide)
      have hField :=
        Text.lowers_of_isNameChar (hSort sort hGiven)
      have hDirection :
          Lowers
            (" (".toList ++
              (sort.direction.name.toList ++ ")".toList))
            (' ' :: bracketed sort.direction) := by
        cases sort.direction
        all_goals
          exact Text.lowers_of_all (by decide) (by decide)
      have hText :
          marked
              ["Sorted by " ++ sort.field ++ " (" ++
                sort.direction.name ++ ")"] =
            (" • ".toList ++ "Sorted by ".toList) ++
              (sort.field.toList ++
                (" (".toList ++
                  (sort.direction.name.toList ++
                    ")".toList))) := by
        rw [marked, List.flatMap_singleton]
        simp only [String.toList_append, List.append_assoc]
      dsimp only
      rw [hText]
      exact hMark.append (hField.append hDirection)

theorem isDigit_of_mem_toString
    {n : Nat}
    {c : Char}
    (hMem : c ∈ (toString n).toList) :
    Text.isDigit c = true := by
  have hDigits : (toString n).toList = Decimal.digitsOf n :=
    Nat.toList_repr
  rw [hDigits] at hMem
  exact Decimal.isDigit_of_mem_digitsOf hMem

theorem lowers_limitPart (i : Interpretation) :
    Lowers (marked i.limitPart) (limitTail i.limit) := by
  unfold Interpretation.limitPart
  cases i.limit with
  | none => exact ⟨by simp [marked], rfl⟩
  | some limit =>
      let count := toString limit.toNat
      have hMark :
          Lowers (" • ".toList ++ "Showing top ".toList)
            (' ' :: spaced ["•", "showing", "top"]) :=
        Text.lowers_of_all (by decide) (by decide)
      have hDigits :
          (Text.digits.all fun c =>
              Text.isRegular c && Text.lowercaseChar c == c) =
            true := by
        decide
      have hCount : Lowers count.toList count.toList :=
        Text.lowers_self hDigits fun _ hMem =>
          Text.mem_digits_of_isDigit
            (isDigit_of_mem_toString hMem)
      have hResults :
          Lowers " results".toList
            (' ' :: "results".toList) :=
        Text.lowers_of_all (by decide) (by decide)
      have hText :
          marked ["Showing top " ++ count ++ " results"] =
            (" • ".toList ++ "Showing top ".toList) ++
              (count.toList ++ " results".toList) := by
        rw [marked, List.flatMap_singleton]
        simp only [String.toList_append, List.append_assoc]
      dsimp only
      rw [hText]
      exact hMark.append (hCount.append hResults)

/- The parts of a description behind the first one. -/
theorem toList_intercalate_cons
    (mark first : String)
    (rest : List String) :
    (mark.intercalate (first :: rest)).toList =
      first.toList ++
        rest.flatMap fun part =>
          mark.toList ++ part.toList := by
  induction rest generalizing first with
  | nil => simp
  | cons second more ih =>
      have hMore := ih second
      rw [String.toList_intercalate] at hMore ⊢
      rw [List.map_cons, List.map_cons,
        List.intercalate_cons_cons, ← List.map_cons, hMore,
        List.flatMap_cons]
      simp

/-
  The description of an interpretation with filters, when it
  is read as a prompt.
-/
theorem text_ofString
    {i : Interpretation}
    (hFilters : i.filterList = filter :: more)
    (hGiven : ∀ f ∈ filter :: more, f.IsGiven)
    (hSort : Sorting.IsNamed i.sort) :
    (Prompt.ofString i.makeDescription).text =
      text filter more i.sort i.limit := by
  have hHead :
      Lowers "Filtered: ".toList
        ("filtered:".toList ++ [' ']) :=
    Text.lowers_of_all (by decide) (by decide)
  have hText :
      i.makeDescription.toList =
        "Filtered: ".toList ++
          ((", ".intercalate
              ((filter :: more).map Filter.describe)).toList ++
            (marked i.sortPart ++ marked i.limitPart)) := by
    have hParts :
        i.makeDescription =
          " • ".intercalate
            (("Filtered: " ++
                ", ".intercalate
                  ((filter :: more).map Filter.describe)) ::
              (i.sortPart ++ i.limitPart)) := by
      unfold Interpretation.makeDescription
        Interpretation.filtersPart
      rw [hFilters]
      rfl
    rw [hParts, toList_intercalate_cons, String.toList_append,
      List.flatMap_append, List.append_assoc]
    rfl
  have hLowers :=
    hHead.append
      ((lowers_filters hGiven).append
        ((lowers_sortPart hSort).append (lowers_limitPart i)))
  have hSame :
      "filtered:".toList ++ [' '] ++
          (filter.clause ++ following more [] ++
            (sortTail i.sort ++ limitTail i.limit)) =
        text filter more i.sort i.limit := by
    unfold text
    rw [following_eq, following_eq]
    simp only [List.append_assoc, List.append_nil,
      List.singleton_append]
  rw [Prompt.ofString, hText, hLowers.lowercase_eq, hSame]

end Description

end Dashboard

------------------------------------------------------------
-- Their Characters
------------------------------------------------------------

namespace Dashboard

namespace Description

open Pattern (spaced)

/- The characters of what is said about sort and limit. -/
def tailChars : List Char :=
  ' ' :: '•' :: '(' :: ')' :: Prompt.letters

/- The characters of a description in lowercase. -/
def chars : List Char :=
  ':' :: ',' :: '>' :: '<' :: '=' :: '!' :: '.' :: tailChars

theorem mem_of_all
    {chars text : List Char}
    (hAll : (text.all chars.contains) = true)
    {c : Char}
    (hMem : c ∈ text) :
    c ∈ chars := by
  simpa using List.all_eq_true.mp hAll c hMem

theorem mem_tailChars_of_mem_sortTail
    {sort : Option Sorting}
    (hSort : Sorting.IsNamed sort)
    {c : Char}
    (hMem : c ∈ sortTail sort) :
    c ∈ tailChars := by
  cases sort with
  | none => cases hMem
  | some given =>
      have hText :
          sortTail (some given) =
            (' ' :: spaced ["•", "sorted", "by"]) ++
              (Text.lowercase given.field.toList ++
                ' ' :: bracketed given.direction) :=
        rfl
      rw [hText, List.mem_append, List.mem_append] at hMem
      rcases hMem with hMark | hField | hDirection
      · exact mem_of_all (by decide) hMark
      · have hKey :=
          Prompt.mem_keyChars_of_mem_lowercase
            (hSort given rfl) hField
        simp [tailChars, Prompt.letters, hKey]
      · cases hKind : given.direction with
        | asc =>
            rw [hKind] at hDirection
            exact mem_of_all (by decide) hDirection
        | desc =>
            rw [hKind] at hDirection
            exact mem_of_all (by decide) hDirection

theorem mem_tailChars_of_mem_limitTail
    {limit : Option UInt64}
    {c : Char}
    (hMem : c ∈ limitTail limit) :
    c ∈ tailChars := by
  cases limit with
  | none => cases hMem
  | some limit =>
      have hText :
          limitTail (some limit) =
            (' ' :: spaced ["•", "showing", "top"]) ++
              ((toString limit.toNat).toList ++
                ' ' :: "results".toList) :=
        rfl
      rw [hText, List.mem_append, List.mem_append] at hMem
      rcases hMem with hMark | hCount | hResults
      · exact mem_of_all (by decide) hMark
      · have hLetter :=
          Filter.mem_letters_of_isDigit
            (isDigit_of_mem_toString hCount)
        simp [tailChars, hLetter]
      · exact mem_of_all (by decide) hResults

theorem mem_tailChars
    {sort : Option Sorting}
    (hSort : Sorting.IsNamed sort)
    {limit : Option UInt64}
    {c : Char}
    (hMem : c ∈ sortTail sort ++ limitTail limit) :
    c ∈ tailChars := by
  rcases List.mem_append.mp hMem with hHere | hThere
  · exact mem_tailChars_of_mem_sortTail hSort hHere
  · exact mem_tailChars_of_mem_limitTail hThere

theorem mem_chars_of_mem_clause
    {filter : Filter}
    (hGiven : filter.IsGiven)
    {c : Char}
    (hMem : c ∈ filter.clause) :
    c ∈ chars := by
  have hSymbols :
      ∀ operator ∈ Operator.all,
        (operator.symbol.toList.all chars.contains) = true := by
    decide
  have hOperator : filter.operator ∈ Operator.all := by
    cases filter.operator
    all_goals decide
  have hBlank : ' ' ∈ chars := by
    decide
  rw [Filter.clause, List.mem_append, List.mem_cons,
    List.mem_append, List.mem_cons] at hMem
  rcases hMem with hField | rfl | hSymbol | rfl | hValue
  · have hKey :=
      Prompt.mem_keyChars_of_mem_lowercase
        (Prompt.isNameChar_of_mem_fields hGiven.field_mem)
        hField
    simp [chars, tailChars, Prompt.letters, hKey]
  · exact hBlank
  · exact mem_of_all (hSymbols _ hOperator) hSymbol
  · exact hBlank
  · have hChar := hGiven.mem_of_mem_value hValue
    rcases List.mem_cons.mp hChar with rfl | hLetter
    · decide
    · simp [chars, tailChars, hLetter]

/- No other characters stand in a description. -/
theorem mem_chars_of_mem_text
    {filter : Filter}
    {more : List Filter}
    (hGiven : ∀ f ∈ filter :: more, f.IsGiven)
    {sort : Option Sorting}
    (hSort : Sorting.IsNamed sort)
    {limit : Option UInt64}
    {c : Char}
    (hMem : c ∈ text filter more sort limit) :
    c ∈ chars := by
  rw [List.forall_mem_cons] at hGiven
  unfold text at hMem
  rw [following_eq, List.mem_append, List.mem_cons,
    List.mem_append, List.mem_append, List.mem_flatMap] at hMem
  rcases hMem with
    hHead | rfl | hClause | ⟨f, hFilter, hClause⟩ | hTail
  · exact mem_of_all (by decide) hHead
  · decide
  · exact mem_chars_of_mem_clause hGiven.1 hClause
  · rw [List.mem_cons, List.mem_cons] at hClause
    rcases hClause with rfl | rfl | hInner
    · decide
    · decide
    · exact mem_chars_of_mem_clause (hGiven.2 f hFilter) hInner
  · have hChar := mem_tailChars hSort hTail
    simp [chars, hChar]

end Description

end Dashboard
