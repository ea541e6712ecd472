import Dashboard.Proofs.Prompt.Passage

/-
  The assertions that a description is read as.  The name of
  a field followed by the equals sign or by `contains` is an
  assertion about the field, whatever the value is, and it
  takes the letters and digits at the start of the value for
  a word.

  Key definitions include:
    * `Filter.echoWord`
    * `Filter.echoAssertion?`
    * `Description.echoAssertions`

  Main declarations:
    * `Assertion.exists_matchAt_clause`
    * `Assertion.scans_form`
    * `Description.assertions_eq`
-/

------------------------------------------------------------
-- Words In Clauses
------------------------------------------------------------

namespace Dashboard

namespace Filter

open Pattern

/- The word at the start of the value of a filter. -/
def echoWord (filter : Filter) : List Char :=
  filter.value.takeWhile isNameLetter

/- The assertion that is read in a clause. -/
def echoAssertion?
    (field : String)
    (operator : Operator)
    (filter : Filter) : Option Filter :=
  if filter.field = field ∧ filter.operator = operator then
    some
      ⟨field, operator, .text (String.ofList filter.echoWord)⟩
  else
    none

theorem isNameLetter_of_mem_letters
    {c : Char}
    (hMem : c ∈ Prompt.letters) :
    isNameLetter c = true := by
  have hAll : (Prompt.letters.all isNameLetter) = true := by
    decide
  exact List.all_eq_true.mp hAll c hMem

theorem IsGiven.echoWord_ne_nil
    {filter : Filter}
    (hGiven : filter.IsGiven) :
    filter.echoWord ≠ [] := by
  rcases hGiven.exists_first with ⟨c, rest, hValue, hLetter⟩
  rw [echoWord, hValue,
    List.takeWhile_cons_of_pos
      (isNameLetter_of_mem_letters hLetter)]
  exact List.cons_ne_nil _ _

/- The word starts with no blank and no quotation mark. -/
theorem IsGiven.head?_echoWord
    {filter : Filter}
    (hGiven : filter.IsGiven)
    (rest : List Char) :
    ∀ c ∈ (filter.echoWord ++ rest).head?,
      Text.isBlank c = false ∧
        (c == '"' || c.toNat == 0x27) = false := by
  have hLetters :
      (Prompt.letters.all fun c =>
          !Text.isBlank c && !(c == '"' || c.toNat == 0x27)) =
        true := by
    decide
  intro c hHead
  rw [List.head?_append_of_ne_nil _ hGiven.echoWord_ne_nil]
    at hHead
  rcases hGiven.exists_first with ⟨d, more, hValue, hLetter⟩
  rw [echoWord, hValue,
    List.takeWhile_cons_of_pos
      (isNameLetter_of_mem_letters hLetter)] at hHead
  obtain rfl : d = c := Option.some.inj hHead
  simpa using List.all_eq_true.mp hLetters d hLetter

/- The word ends before another kind of character. -/
theorem head?_after_echoWord
    (filter : Filter)
    {rest : List Char}
    (hStops : Description.Stops rest) :
    ∀ c ∈ (filter.value.dropWhile isNameLetter ++ rest).head?,
      isNameLetter c = false := by
  intro c hHead
  cases hAfter : filter.value.dropWhile isNameLetter with
  | nil =>
      rw [hAfter, List.nil_append] at hHead
      rcases hStops with rfl | ⟨more, rfl⟩ | ⟨more, rfl⟩
      · cases hHead
      · obtain rfl : ',' = c := Option.some.inj hHead
        decide
      · obtain rfl : ' ' = c := Option.some.inj hHead
        decide
  | cons d more =>
      rw [hAfter] at hHead
      obtain rfl : d = c := Option.some.inj hHead
      have hNot :=
        List.head?_dropWhile_not isNameLetter filter.value
      rw [hAfter] at hNot
      simpa using hNot

end Filter

end Dashboard

------------------------------------------------------------
-- Assertions In Clauses
------------------------------------------------------------

namespace Dashboard

namespace Assertion

open Pattern
open Description (Stops sortTail limitTail)

variable {α : Type}

/- Letters are taken where the same letters stand. -/
theorem follow_sameLetters
    {wanted word : List Char}
    (hLength : wanted.length = word.length)
    (hSame :
      ((wanted.zip word).all fun p => sameLetter p.1 p.2) =
        true)
    (before rest : List Char)
    (groups : List Span)
    (next : Place → List Span → Option α) :
    (sequence (wanted.map fun c => char (sameLetter c))).follow
        ⟨before, word ++ rest⟩ groups next =
      next ⟨word.reverse ++ before, rest⟩ groups := by
  induction wanted generalizing word before with
  | nil =>
      rw [List.eq_nil_of_length_eq_zero hLength.symm]
      rfl
  | cons c more ih =>
      cases word with
      | nil => cases hLength
      | cons d others =>
          rw [List.zip_cons_cons, List.all_cons,
            Bool.and_eq_true] at hSame
          have hMore :=
            ih (Nat.succ.inj hLength) hSame.2 (d :: before)
          rw [List.map_cons, Pattern.sequence, List.foldr_cons,
            ← Pattern.sequence, follow_both, List.cons_append,
            follow_char_cons, if_pos hSame.1, hMore]
          simp

/- A name is taken in lowercase. -/
theorem follow_field
    {field : String}
    (hField : field ∈ fields)
    (before rest : List Char)
    (groups : List Span)
    (next : Place → List Span → Option α) :
    (letters field).follow
        ⟨before, Text.lowercase field.toList ++ rest⟩ groups
        next =
      next
        ⟨(Text.lowercase field.toList).reverse ++ before, rest⟩
        groups := by
  have hAll :
      ∀ field ∈ fields,
        field.toList.length =
            (Text.lowercase field.toList).length ∧
          ((field.toList.zip
              (Text.lowercase field.toList)).all fun p =>
              sameLetter p.1 p.2) =
            true := by
    decide
  rcases hAll field hField with ⟨hLength, hSame⟩
  exact follow_sameLetters hLength hSame _ _ _ _

/- The symbol of an assertion is one of its phrases. -/
theorem follow_phrase
    {e : Operator × Pattern}
    (hEntry : e ∈ phrases)
    {before rest : List Char}
    {groups : List Span}
    {next : Place → List Span → Option α}
    {result : α}
    (hNext :
      next ⟨e.1.symbol.toList.reverse ++ before, rest⟩ groups =
        some result) :
    e.2.follow ⟨before, e.1.symbol.toList ++ rest⟩ groups
        next =
      some result := by
  rcases List.mem_pair.mp hEntry with rfl | rfl
  · have hIs :
        (letters "is").follow ⟨before, '=' :: rest⟩ groups
            next =
          none :=
      rfl
    have hSign :
        (letters "=").follow ⟨before, '=' :: rest⟩ groups
            next =
          next ⟨'=' :: before, rest⟩ groups :=
      rfl
    have hSame : next ⟨'=' :: before, rest⟩ groups = some result :=
      hNext
    have hEquality :
        equality =
          either (letters "is")
            (either (letters "=")
              (both (letters "equal")
                (optional (letters "s")))) :=
      rfl
    change equality.follow ⟨before, '=' :: rest⟩ groups next = _
    rw [hEquality, follow_either, hIs, Option.none_or,
      follow_either, hSign, hSame, Option.some_or]
  · have hContains :
        (letters "contains").follow
            ⟨before, "contains".toList ++ rest⟩ groups next =
          next ⟨"contains".toList.reverse ++ before, rest⟩
            groups :=
      follow_sameLetters rfl (by decide) _ _ _ _
    exact hContains.trans hNext

/- Without a quotation mark, nothing is taken for one. -/
theorem follow_no_quote
    {before rest : List Char}
    (hRest :
      ∀ c ∈ rest.head?, (c == '"' || c.toNat == 0x27) = false)
    (groups : List Span)
    (next : Place → List Span → Option α) :
    quote.follow ⟨before, rest⟩ groups next =
      next ⟨before, rest⟩ groups := by
  cases rest with
  | nil => exact Option.none_or
  | cons c more =>
      rw [quote, Pattern.optional, follow_either, follow_char_cons,
        hRest c rfl]
      exact Option.none_or

/- A quotation mark may be missing. -/
theorem exists_follow_quote
    (place : Place)
    (groups : List Span)
    (result : Place → List Span → α) :
    ∃ stop,
      quote.follow place groups
          (fun stop found => some (result stop found)) =
        some (result stop groups) := by
  rcases place with ⟨before, after⟩
  cases after with
  | nil => exact ⟨_, rfl⟩
  | cons c rest =>
      rw [quote, Pattern.optional, follow_either, follow_char_cons]
      split
      · exact ⟨_, rfl⟩
      · exact ⟨_, rfl⟩

/- The part of an assertion behind its field and blanks. -/
def tail (phrase : Pattern) : Pattern :=
  both phrase (both blanks (both value nothing))

/- A word is the value, with or without quotation marks. -/
theorem exists_follow_value
    {word rest : List Char}
    (hSome : word ≠ [])
    (hWord : ∀ c ∈ word, isNameLetter c = true)
    (hQuote :
      ∀ c ∈ (word ++ rest).head?,
        (c == '"' || c.toNat == 0x27) = false)
    (hRest : ∀ c ∈ rest.head?, isNameLetter c = false)
    (before : List Char)
    (result : Place → List Span → α) :
    let span : Span :=
      ⟨⟨before, word ++ rest⟩, ⟨word.reverse ++ before, rest⟩⟩
    ∃ stop,
      value.follow ⟨before, word ++ rest⟩ []
          (fun stop found => some (result stop found)) =
        some (result stop [span]) := by
  intro span
  have hValue :
      value =
        both quote
          (both (group (some1 isNameLetter))
            (both quote nothing)) :=
    rfl
  rcases exists_follow_quote span.stop [span] result with
    ⟨stop, hStop⟩
  refine ⟨stop, ?_⟩
  rw [hValue, follow_both, follow_no_quote hQuote, follow_both,
    follow_group]
  apply follow_some1 hSome hWord hRest
  rw [follow_both]
  exact hStop

/- A clause with the word at the start of its value. -/
theorem clause_append_eq
    (filter : Filter)
    (rest : List Char) :
    filter.clause ++ rest =
      Text.lowercase filter.field.toList ++
        ' ' :: (filter.operator.symbol.toList ++
          ' ' :: (filter.echoWord ++
            (filter.value.dropWhile isNameLetter ++ rest))) := by
  have hValue :
      filter.echoWord ++
          (filter.value.dropWhile isNameLetter ++ rest) =
        filter.value ++ rest := by
    rw [← List.append_assoc, Filter.echoWord,
      List.takeWhile_append_dropWhile]
  rw [hValue]
  simp [Filter.clause]

/-
  An assertion whose operator is that of a clause fits at the
  start of the clause, and takes the first word of the value.
-/
theorem exists_matchAt_clause
    {e : Operator × Pattern}
    (hEntry : e ∈ phrases)
    {filter : Filter}
    (hGiven : filter.IsGiven)
    (hField : filter.field ∈ fields)
    (hOperator : filter.operator = e.1)
    {rest : List Char}
    (hStops : Stops rest)
    (before : List Char) :
    ∃ found,
      (assertion filter.field e.2).matchAt
          ⟨before, filter.clause ++ rest⟩ =
        some found ∧
        found.group? 0 = some filter.echoWord := by
  let name := Text.lowercase filter.field.toList
  let sign := e.1.symbol.toList
  let behind :=
    ' ' :: (sign.reverse ++ ' ' :: (name.reverse ++ before))
  let after := filter.value.dropWhile isNameLetter ++ rest
  let start : Place :=
    ⟨before,
      name ++
        ' ' :: (sign ++ ' ' :: (filter.echoWord ++ after))⟩
  let span : Span :=
    ⟨⟨behind, filter.echoWord ++ after⟩,
      ⟨filter.echoWord.reverse ++ behind, after⟩⟩
  have hText : filter.clause ++ rest = start.after := by
    rw [clause_append_eq, hOperator]
  have hFirst := hGiven.head?_echoWord after
  have hSign :
      ∀ c ∈ (sign ++ ' ' :: (filter.echoWord ++ after)).head?,
        Text.isBlank c = false := by
    rcases List.mem_pair.mp hEntry with rfl | rfl
    all_goals
      rintro c ⟨⟩
      rfl
  have hAssertion :
      assertion filter.field e.2 =
        both (letters filter.field)
          (both blanks (tail e.2)) :=
    rfl
  rcases exists_follow_value hGiven.echoWord_ne_nil
      (fun c hMem => List.mem_takeWhile_imp hMem)
      (fun c hHead => (hFirst c hHead).2)
      (filter.head?_after_echoWord hStops) behind
      (fun stop groups => Match.mk ⟨start, stop⟩ groups) with
    ⟨stop, hValue⟩
  refine
    ⟨⟨⟨start, stop⟩, [span]⟩, ?_,
      congrArg some
        (Span.text_of_taken behind (filter.echoWord ++ after)
          filter.echoWord after)⟩
  rw [hText, matchAt, hAssertion, follow_both,
    follow_field hField, follow_both]
  apply follow_blanks hSign
  rw [tail, follow_both]
  apply follow_phrase hEntry
  rw [follow_both]
  apply follow_blanks fun c hHead => (hFirst c hHead).1
  rw [follow_both]
  exact hValue

/- Any other clause is passed. -/
theorem passes_clause
    {field : String}
    (hField : field ∈ fields)
    {e : Operator × Pattern}
    (hEntry : e ∈ phrases)
    {filter : Filter}
    (hGiven : filter.IsGiven)
    (hOther : ¬ (filter.field = field ∧ filter.operator = e.1)) :
    Bridges.passes (letters field) (tail e.2) filter.field
        filter.operator =
      true := by
  have hFields :
      ∀ field ∈ fields, ∀ other ∈ Prompt.fields,
        other = field ∨
          (letters field).endsIn
              (Text.lowercase other.toList) =
            false := by
    decide
  have hSymbols :
      ∀ e ∈ phrases, ∀ operator ∈ Operator.all,
        operator = e.1 ∨
          (operator.symbol.toList.head?.any
              (tail e.2).startsOther) =
            true := by
    decide
  have hOperator : filter.operator ∈ Operator.all := by
    cases filter.operator
    all_goals decide
  rw [Bridges.passes, Bool.or_eq_true, Bool.not_eq_true']
  rcases hFields field hField filter.field hGiven.field_mem
    with hSame | hEnds
  · right
    rcases hSymbols e hEntry filter.operator hOperator with
      hHere | hStarts
    · exact absurd ⟨hSame, hHere⟩ hOther
    · exact hStarts
  · exact .inl hEnds

theorem bridges_form
    {field : String}
    (hField : field ∈ fields)
    {e : Operator × Pattern}
    (hEntry : e ∈ phrases) :
    Bridges (assertion field e.2) (letters field)
      (tail e.2) := by
  have hLeads :
      ∀ field ∈ fields,
        (letters field).leadsBlanks = true := by
    decide
  have hFollows :
      ∀ e ∈ phrases,
        (Description.marks.all (tail e.2).startsOther) =
          true := by
    decide
  exact
    ⟨fun _ _ _ => rfl, hLeads field hField,
      hFollows e hEntry⟩

/- The filter that a match of an assertion gives. -/
def filterOf?
    (field : String)
    (operator : Operator)
    (found : Match) : Option Filter :=
  (found.group? 0).map fun word =>
    ⟨field, operator, .text (String.ofList word)⟩

/- An assertion is read in the first clause that makes it. -/
theorem scans_form
    {field : String}
    (hField : field ∈ fields)
    {e : Operator × Pattern}
    (hEntry : e ∈ phrases)
    {sort : Option Sorting}
    (hSort : Sorting.IsNamed sort)
    (limit : Option UInt64) :
    Description.Scans (assertion field e.2)
      (filterOf? field e.1)
      (Filter.echoAssertion? field e.1)
      (sortTail sort ++ limitTail limit) := by
  apply (bridges_form hField hEntry).scans _ hSort
  intro filter hGiven rest hStops
  by_cases hHere : filter.field = field ∧ filter.operator = e.1
  · left
    intro before
    rcases hHere with ⟨rfl, hOperator⟩
    rcases exists_matchAt_clause hEntry hGiven hField hOperator
        hStops before with
      ⟨found, hFound, hGroup⟩
    refine ⟨found, hFound, ?_, ?_⟩
    · rw [filterOf?, hGroup, Filter.echoAssertion?,
        if_pos ⟨rfl, hOperator⟩]
      rfl
    · rw [Filter.echoAssertion?, if_pos ⟨rfl, hOperator⟩]
      rfl
  · right
    exact
      ⟨passes_clause hField hEntry hGiven hHere,
        if_neg hHere⟩

theorem filterIn?_eq_bind
    (field : String)
    (operator : Operator)
    (pattern : Pattern)
    (text : List Char) :
    filterIn? field operator pattern text =
      (pattern.find text).bind (filterOf? field operator) := by
  unfold filterIn?
  cases pattern.find text with
  | none => rfl
  | some found => rfl

end Assertion

namespace Description

/-
  The assertions that filters are read as: for each field and
  each phrase the first one that makes any.
-/
def echoAssertions (filters : List Filter) : List Filter :=
  Assertion.fields.flatMap fun field =>
    [Operator.eq, .contains].filterMap fun operator =>
      filters.findSome? (Filter.echoAssertion? field operator)

theorem assertions_eq
    {filter : Filter}
    {more : List Filter}
    (hGiven : ∀ f ∈ filter :: more, f.IsGiven)
    {sort : Option Sorting}
    (hSort : Sorting.IsNamed sort)
    (limit : Option UInt64) :
    Prompt.assertions ⟨text filter more sort limit⟩ =
      echoAssertions (filter :: more) := by
  have hOperators :
      [Operator.eq, .contains] =
        Assertion.phrases.map Prod.fst :=
    rfl
  unfold Prompt.assertions echoAssertions
  apply List.flatMap_congr
  intro field hField
  rw [hOperators, Assertion.filtersFor_eq, List.filterMap_map]
  apply List.filterMap_congr
  intro e hEntry
  rw [Assertion.filterIn?_eq_bind]
  exact (Assertion.scans_form hField hEntry hSort limit).find
    hGiven

end Description

end Dashboard
