import Dashboard.Proofs.Prompt.Passage
import Dashboard.Proofs.Prompt.Symbol

/-
  The comparisons that a description is read as.  No phrase of
  words stands in a description, so only the symbols count,
  and each symbol is read in the first clause whose own symbol
  ends with it and whose value starts with a digit.

  Key definitions include:
    * `Prompt.nearField`
    * `Filter.echoNumber?`
    * `Filter.echoComparison?`
    * `Description.echoComparisons`

  Main declarations:
    * `Comparison.find_wording`
    * `Comparison.scans_symbol`
    * `Description.comparisons_eq`
-/

------------------------------------------------------------
-- Wordings
------------------------------------------------------------

namespace Dashboard

namespace Comparison

open Pattern
open Description (Stops)

/-
  The part of a phrase before its first blanks, and the part
  behind them, unless the phrase is a symbol.
-/
def Phrase.parts? : Phrase → Option (Pattern × Pattern)
  | .words [] => none
  | .words (word :: more) => some (text word, before more)
  | .plural word =>
      some
        (both (text word) (optional (text "s")),
          both number nothing)
  | .symbol _ => none
  | .trailing first second =>
      some
        (number, sequence [text first, blanks, text second])

theorem Phrase.splits_parts
    {phrase : Phrase}
    {parts : Pattern × Pattern}
    (hParts : phrase.parts? = some parts) :
    phrase.pattern.Splits parts.1 (both blanks parts.2) := by
  cases phrase with
  | words words =>
      cases words with
      | nil => cases hParts
      | cons word more =>
          cases hParts
          exact fun _ _ _ => rfl
  | plural word =>
      cases hParts
      exact fun _ _ _ => rfl
  | symbol sign => cases hParts
  | trailing first second =>
      cases hParts
      exact fun _ _ _ => rfl

theorem bridges_wording
    {e : Operator × Phrase}
    (hEntry : e ∈ phrases)
    {parts : Pattern × Pattern}
    (hParts : e.2.parts? = some parts) :
    Bridges e.2.pattern parts.1 parts.2 := by
  have hAll :
      ∀ e ∈ phrases, ∀ parts ∈ e.2.parts?,
        parts.1.leadsBlanks = true ∧
          (Description.marks.all parts.2.startsOther) =
            true := by
    decide
  rcases hAll e hEntry parts hParts with ⟨hLeads, hFollows⟩
  exact ⟨Phrase.splits_parts hParts, hLeads, hFollows⟩

theorem passes_wording
    {e : Operator × Phrase}
    (hEntry : e ∈ phrases)
    {parts : Pattern × Pattern}
    (hParts : e.2.parts? = some parts)
    {field : String}
    (hField : field ∈ Prompt.fields)
    (operator : Operator) :
    Bridges.passes parts.1 parts.2 field operator = true := by
  have hAll :
      ∀ e ∈ phrases, ∀ parts ∈ e.2.parts?,
        ∀ field ∈ Prompt.fields,
          parts.1.endsIn (Text.lowercase field.toList) =
            false := by
    decide
  rw [Bridges.passes, hAll e hEntry parts hParts field hField]
  rfl

/- No phrase of words stands in a description. -/
theorem find_wording
    {e : Operator × Phrase}
    (hEntry : e ∈ phrases)
    {parts : Pattern × Pattern}
    (hParts : e.2.parts? = some parts)
    {filter : Filter}
    {more : List Filter}
    (hGiven : ∀ f ∈ filter :: more, f.IsGiven)
    {sort : Option Sorting}
    (hSort : Sorting.IsNamed sort)
    (limit : Option UInt64) :
    e.2.pattern.find
        (Description.text filter more sort limit) =
      none := by
  apply (bridges_wording hEntry hParts).find_eq_none _ hGiven
    hSort
  exact fun _ hField operator =>
    passes_wording hEntry hParts hField operator

end Comparison

end Dashboard

------------------------------------------------------------
-- Numbers In Clauses
------------------------------------------------------------

namespace Dashboard

/-
  The field that is nearest behind the name of a field.  The
  names `sessionsThisMonth` and `totalSold` end with a phrase
  for another field.
-/
def Prompt.nearField (field : String) : String :=
  if field = "sessionsThisMonth" then
    "month"
  else if field = "totalSold" then
    "unitsSold"
  else
    field

namespace Filter

open Pattern

/- The number at the start of the value of a filter. -/
def echoNumber? (filter : Filter) : Option Double :=
  match filter.operand with
  | .number x => if x.isFinite then some x else none
  | .text word =>
      let digits := word.toList.takeWhile Text.isDigit
      if digits.isEmpty then
        none
      else
        some (.ofDecimal false ⟨Decimal.valueOf digits, 0⟩)

/- The comparison that a symbol reads in a clause. -/
def echoComparison?
    (operator : Operator)
    (filter : Filter) : Option Filter :=
  if operator ∈ Comparison.readings filter.operator then
    filter.echoNumber?.map fun x =>
      ⟨Prompt.nearField filter.field, operator, .number x⟩
  else
    none

variable {filter : Filter}

/- Without digits at its start, a word starts with none. -/
theorem head?_of_takeWhile_eq_nil
    {word : List Char}
    (hDigits : word.takeWhile Text.isDigit = []) :
    ∀ c ∈ word.head?, Text.isDigit c = false := by
  cases word with
  | nil => simp
  | cons d rest =>
      intro c hHead
      obtain rfl : d = c := Option.some.inj hHead
      rw [← Bool.not_eq_true]
      intro hDigit
      rw [List.takeWhile_cons_of_pos hDigit] at hDigits
      cases hDigits

/- The digits at the start of a word are an amount. -/
theorem exists_amount_of_takeWhile
    {word : List Char}
    (hDigits : word.takeWhile Text.isDigit ≠ [])
    (hPoint : '.' ∉ word) :
    ∃ n : Amount, ∃ more,
      word = n.text ++ more ∧
        (∀ c ∈ more.head?, Text.isDigit c = false ∧ c ≠ '.') ∧
        n.value =
          .ofDecimal false
            ⟨Decimal.valueOf (word.takeWhile Text.isDigit),
              0⟩ := by
  refine
    ⟨⟨⟨word.takeWhile Text.isDigit, hDigits,
        fun c hMem => List.mem_takeWhile_imp hMem⟩, none⟩,
      word.dropWhile Text.isDigit, ?_, ?_, ?_⟩
  · rw [Amount.text, Amount.pointed, List.append_nil,
      List.takeWhile_append_dropWhile]
  · intro c hHead
    have hNot := List.head?_dropWhile_not Text.isDigit word
    rw [hHead] at hNot
    refine ⟨by simpa using hNot, ?_⟩
    rintro rfl
    have hMem := List.mem_of_mem_head? hHead
    exact hPoint ((List.dropWhile_suffix _).subset hMem)
  · rw [Amount.value]
    simp [Amount.fraction]

/-
  A value that starts with a number starts with an amount of
  that number, and any other value with no digit.
-/
theorem IsGiven.value_cases
    (hGiven : filter.IsGiven) :
    (∃ n : Amount, ∃ more,
      filter.value = n.text ++ more ∧
        (∀ c ∈ more.head?, Text.isDigit c = false ∧ c ≠ '.') ∧
        filter.echoNumber? = some n.value) ∨
      filter.echoNumber? = none ∧
        ∀ c ∈ filter.value.head?, Text.isDigit c = false := by
  cases hGiven with
  | number hField hOperator hNumber hSign =>
      rename_i field operator x
      have hValue :
          value ⟨field, operator, .number x⟩ =
            x.prose.toList :=
        rfl
      have hEcho :
          echoNumber? ⟨field, operator, .number x⟩ =
            if x.isFinite then some x else none :=
        rfl
      rw [hValue, hEcho]
      rcases Double.prose_cases hNumber hSign with
        ⟨hFinite, n, hText, hSame⟩ | ⟨hInfinite, hText⟩
      · left
        refine ⟨n, [], ?_, ?_, ?_⟩
        · rw [hText, Amount.written, String.toList_ofList,
            List.append_nil]
        · rintro c ⟨⟩
        · rw [if_pos hFinite, hSame]
      · right
        rw [hInfinite, hText]
        refine ⟨rfl, ?_⟩
        rintro c ⟨⟩
        rfl
  | text hField hOperator hSome hWord =>
      rename_i field operator word
      have hValue :
          value ⟨field, operator, .text (String.ofList word)⟩ =
            word :=
        String.toList_ofList
      have hEcho :
          echoNumber?
              ⟨field, operator, .text (String.ofList word)⟩ =
            if (word.takeWhile Text.isDigit).isEmpty then
              none
            else
              some
                (.ofDecimal false
                  ⟨Decimal.valueOf
                      (word.takeWhile Text.isDigit),
                    0⟩) := by
        simp only [echoNumber?, String.toList_ofList]
      have hPoint : '.' ∉ word := by
        intro hMem
        have hLetter := hWord '.' hMem
        revert hLetter
        decide
      rw [hValue, hEcho]
      by_cases hDigits : word.takeWhile Text.isDigit = []
      · right
        rw [hDigits]
        exact ⟨rfl, head?_of_takeWhile_eq_nil hDigits⟩
      · left
        rcases exists_amount_of_takeWhile hDigits hPoint with
          ⟨n, more, hText, hMore, hNumber⟩
        refine ⟨n, more, hText, hMore, ?_⟩
        rw [if_neg (by simpa using hDigits), hNumber]

end Filter

end Dashboard

------------------------------------------------------------
-- Symbols
------------------------------------------------------------

namespace Dashboard

namespace Comparison

open Pattern
open Description (Stops sortTail limitTail)

/- The operators that have a symbol of their own to read. -/
def symbols : List Operator :=
  [.gt, .gte, .lt, .lte, .eq]

/- The characters of these symbols. -/
def signs : List Char :=
  ['>', '<', '=']

/- A text without signs. -/
def Signless (text : List Char) : Prop :=
  ∀ c ∈ text, c ∉ signs

/- A symbol is taken before anything else. -/
theorem exists_append_of_takes
    {sign : String}
    {taken : List Char}
    (hTakes : (afterSymbol sign).Takes taken) :
    ∃ rest, taken = sign.toList ++ rest := by
  rcases hTakes with ⟨init, rest, hInit, _, rfl⟩
  exact ⟨rest, by rw [Sorting.eq_of_takes_text hInit]⟩

theorem exists_sign_of_takes
    {operator : Operator}
    (hOperator : operator ∈ symbols)
    {taken : List Char}
    (hTakes : (afterSymbol operator.symbol).Takes taken) :
    ∃ c ∈ taken.head?, c ∈ signs ∧
      some c = operator.symbol.toList.head? := by
  have hFirst :
      ∀ operator ∈ symbols,
        operator.symbol.toList.head?.any signs.contains =
          true := by
    decide
  rcases exists_append_of_takes hTakes with ⟨rest, rfl⟩
  have hSome := hFirst operator hOperator
  cases hHead : operator.symbol.toList.head? with
  | none =>
      rw [hHead] at hSome
      cases hSome
  | some c =>
      rw [hHead, Option.any_some, List.contains_iff_mem]
        at hSome
      refine ⟨c, ?_, hSome, rfl⟩
      rw [List.head?_append, hHead]
      rfl

/- A search for a symbol passes texts without signs. -/
theorem findAfter_of_no_sign
    {operator : Operator}
    (hOperator : operator ∈ symbols)
    {text : List Char}
    (hText : Signless text)
    (before rest : List Char) :
    (afterSymbol operator.symbol).findAfter before
        (text ++ rest) =
      (afterSymbol operator.symbol).findAfter
        (text.reverse ++ before) rest := by
  apply findAfter_pass_chars
  intro taken hTakes
  rcases exists_sign_of_takes hOperator hTakes with
    ⟨c, hHead, hSign, _⟩
  exact ⟨c, hHead, fun hMem => hText c hMem hSign⟩

/- The part of a symbol before another one at its end. -/
theorem exists_append_symbol :
    ∀ whole : Operator, ∀ operator ∈ readings whole,
      operator ∈ symbols ∧
        ∃ init ∈ ["", ">", "<", "!"],
          whole.symbol.toList =
              init.toList ++ operator.symbol.toList ∧
            ∀ c ∈ operator.symbol.toList.head?,
              c ∉ init.toList := by
  have hAll :
      (Operator.all.all fun whole =>
          (readings whole).all fun operator =>
            symbols.contains operator &&
              ["", ">", "<", "!"].any fun init =>
                (whole.symbol.toList ==
                    init.toList ++ operator.symbol.toList) &&
                  operator.symbol.toList.head?.all fun c =>
                    !init.toList.contains c) =
        true := by
    decide
  have hWhole : ∀ whole : Operator, whole ∈ Operator.all := by
    intro whole
    cases whole
    all_goals decide
  intro whole operator hReads
  have hHere :=
    List.all_eq_true.mp
      (List.all_eq_true.mp hAll whole (hWhole whole)) operator
      hReads
  rw [Bool.and_eq_true, List.contains_iff_mem,
    List.any_eq_true] at hHere
  rcases hHere with ⟨hSymbol, init, hInit, hText⟩
  rw [Bool.and_eq_true, beq_iff_eq] at hText
  refine ⟨hSymbol, init, hInit, hText.1, ?_⟩
  intro c hHead
  rw [Option.mem_def] at hHead
  rw [hHead] at hText
  simpa using hText.2

/- Any other symbol stands at the end of none. -/
theorem not_isSuffix_symbol :
    ∀ whole : Operator, ∀ operator ∈ symbols,
      operator ∉ readings whole →
        ¬ operator.symbol.toList <:+ whole.symbol.toList := by
  intro whole
  cases whole
  all_goals decide

theorem isBlank_or_isDigit_of_takes
    {taken : List Char}
    (hTakes :
      (both spacing (both number nothing)).Takes taken) :
    ∃ c ∈ taken.head?,
      Text.isBlank c = true ∨ Text.isDigit c = true := by
  rcases hTakes with
    ⟨init, _, hInit, ⟨digits, _, hNumber, rfl, rfl⟩, rfl⟩
  cases init with
  | nil =>
      rcases exists_amount_of_takes hNumber with ⟨n, rfl⟩
      rcases n.exists_first with ⟨d, rest, hText, hDigit⟩
      rw [hText]
      exact ⟨d, rfl, .inr hDigit⟩
  | cons c rest =>
      exact ⟨c, rfl, .inl (hInit c List.mem_cons_self)⟩

/-
  A search for a symbol passes another one, and its own if no
  number comes next.
-/
theorem findAfter_symbol_pass
    {operator : Operator}
    (hOperator : operator ∈ symbols)
    {whole : Operator}
    {c : Char}
    (hNot :
      operator ∉ readings whole ∨
        Text.isBlank c = false ∧ Text.isDigit c = false)
    (before rest : List Char) :
    (afterSymbol operator.symbol).findAfter before
        (whole.symbol.toList ++ ' ' :: c :: rest) =
      (afterSymbol operator.symbol).findAfter
        (whole.symbol.toList.reverse ++ before)
        (' ' :: c :: rest) := by
  have hSplits :
      (afterSymbol operator.symbol).Splits
        (text operator.symbol)
        (both spacing (both number nothing)) :=
    fun _ _ _ => rfl
  have hBlank :
      ∀ operator ∈ symbols, ' ' ∉ operator.symbol.toList := by
    decide
  have hAll :
      (whole.symbol.toList.all fun d =>
          !Text.isBlank d && !Text.isDigit d) =
        true := by
    cases whole
    all_goals decide
  have hWhole :
      ∀ d ∈ whole.symbol.toList,
        Text.isBlank d = false ∧ Text.isDigit d = false := by
    intro d hMem
    simpa using List.all_eq_true.mp hAll d hMem
  apply findAfter_pass hSplits
  · rintro taken hTakes d ⟨⟩
    rw [Sorting.eq_of_takes_text hTakes]
    exact hBlank operator hOperator
  · intro taken hTakes
    rcases isBlank_or_isDigit_of_takes hTakes with
      ⟨d, hHead, hKind⟩
    refine ⟨d, hHead, fun hMem => ?_⟩
    rw [(hWhole d hMem).1, (hWhole d hMem).2] at hKind
    simp at hKind
  · intro init last hInit hLast hSuffix
    rw [Sorting.eq_of_takes_text hInit] at hSuffix
    rcases hNot with hOther | ⟨hSolid, hDigit⟩
    · exact
        absurd hSuffix
          (not_isSuffix_symbol whole operator hOperator hOther)
    · apply not_isPrefix_of_takes _ hLast
      have hHere : Text.isBlank ' ' = true := rfl
      have hNone : Text.isDigit ' ' = false := rfl
      simp [walk, walkRun, spacing, number, some1, hSolid,
        hDigit, hHere, hNone]

/-
  A symbol before an amount is found where it stands, be it
  at the end of a longer one.
-/
theorem exists_findAfter_symbol
    {operator whole : Operator}
    (hReads : operator ∈ readings whole)
    (n : Amount)
    {rest : List Char}
    (hRest :
      ∀ c ∈ rest.head?, Text.isDigit c = false ∧ c ≠ '.')
    (before : List Char) :
    ∃ init ∈ ["", ">", "<", "!"], ∃ found,
      (afterSymbol operator.symbol).findAfter before
          (whole.symbol.toList ++ ' ' :: (n.text ++ rest)) =
        some found ∧
        found.reading =
          (before.reverse ++ init.toList, some n.text) := by
  rcases exists_append_symbol whole operator hReads with
    ⟨hOperator, init, hInit, hWhole, hFirst⟩
  let sign := operator.symbol.toList
  let start : Place :=
    ⟨init.toList.reverse ++ before,
      sign ++ ' ' :: (n.text ++ rest)⟩
  let behind :=
    ' ' :: (sign.reverse ++ (init.toList.reverse ++ before))
  let span : Span :=
    ⟨⟨behind, n.text ++ rest⟩,
      ⟨n.text.reverse ++ behind, rest⟩⟩
  have hHere :
      (afterSymbol operator.symbol).matchAt start =
        some ⟨⟨start, span.stop⟩, [span]⟩ := by
    have hSequence :
        afterSymbol operator.symbol =
          both (text operator.symbol)
            (both spacing (both number nothing)) :=
      rfl
    rw [matchAt, hSequence, follow_both, follow_text,
      follow_both]
    apply follow_spacing
    · intro c hHead
      rcases n.exists_first with ⟨d, others, hText, hDigit⟩
      rw [hText] at hHead
      obtain rfl : d = c := Option.some.inj hHead
      exact Text.isBlank_of_isDigit hDigit
    · rw [follow_both]
      exact follow_number n hRest rfl
  refine
    ⟨init, hInit, ⟨⟨start, span.stop⟩, [span]⟩, ?_,
      Prod.ext ?_
        (congrArg some
          (Span.text_of_taken behind (n.text ++ rest) n.text
            rest))⟩
  · rw [hWhole, List.append_assoc, findAfter_pass_chars]
    · exact findAfter_of_matchAt hHere
    · intro taken hTakes
      rcases exists_sign_of_takes hOperator hTakes with
        ⟨c, hHead, _, hSame⟩
      exact ⟨c, hHead, hFirst c hSame.symm⟩
  · simp [Match.reading, Match.head, start]

/- The field that is read before a symbol in a clause. -/
theorem nearestSynonym?_clause :
    ∀ field ∈ Prompt.fields, ∀ init ∈ ["", ">", "<", "!"],
      (Lexicon.standard.nearestSynonym?
            (Text.lowercase field.toList ++
              ' ' :: init.toList)).map Synonym.field =
          some (Prompt.nearField field) ∧
        (Text.lowercase field.toList ++
            ' ' :: init.toList).length ≤
          Lexicon.windowSize := by
  decide

theorem Signless.append
    {text rest : List Char}
    (hText : Signless text)
    (hRest : Signless rest) :
    Signless (text ++ rest) :=
  List.forall_mem_append.mpr ⟨hText, hRest⟩

theorem signless_of_all
    {text : List Char}
    (hAll : (text.all fun c => !signs.contains c) = true) :
    Signless text := by
  intro c hMem
  simpa using List.all_eq_true.mp hAll c hMem

theorem signless_of_subset
    {chars text : List Char}
    (hAll : (chars.all fun c => !signs.contains c) = true)
    (hText : ∀ c ∈ text, c ∈ chars) :
    Signless text :=
  fun c hMem => signless_of_all hAll c (hText c hMem)

theorem signless_lowercase
    {text : List Char}
    (hName : ∀ c ∈ text, Text.isNameChar c = true) :
    Signless (Text.lowercase text) :=
  signless_of_subset (by decide) fun _ hMem =>
    Prompt.mem_keyChars_of_mem_lowercase hName hMem

/- No sign stands behind the clauses of a description. -/
theorem signless_tail
    {sort : Option Sorting}
    (hSort : Sorting.IsNamed sort)
    (limit : Option UInt64) :
    Signless (sortTail sort ++ limitTail limit) :=
  signless_of_subset (by decide) fun _ hMem =>
    Description.mem_tailChars hSort hMem

/- A symbol that reads nothing in a clause passes it. -/
theorem findAfter_clause_pass
    {operator : Operator}
    (hOperator : operator ∈ symbols)
    {filter : Filter}
    (hGiven : filter.IsGiven)
    (hNone : filter.echoComparison? operator = none)
    (before rest : List Char) :
    (afterSymbol operator.symbol).findAfter before
        (filter.operator.symbol.toList ++
          ' ' :: (filter.value ++ rest)) =
      (afterSymbol operator.symbol).findAfter
        (filter.operator.symbol.toList.reverse ++ before)
        (' ' :: (filter.value ++ rest)) := by
  rcases hGiven.exists_first with ⟨c, more, hValue, hLetter⟩
  have hNot :
      operator ∉ readings filter.operator ∨
        Text.isBlank c = false ∧ Text.isDigit c = false := by
    by_cases hReads : operator ∈ readings filter.operator
    · right
      have hBlank :
          (Prompt.letters.all fun c => !Text.isBlank c) =
            true := by
        decide
      rw [Filter.echoComparison?, if_pos hReads,
        Option.map_eq_none_iff] at hNone
      rcases hGiven.value_cases with
        ⟨n, others, _, _, hEcho⟩ | ⟨_, hFirst⟩
      · rw [hEcho] at hNone
        cases hNone
      · rw [hValue] at hFirst
        exact
          ⟨by simpa using List.all_eq_true.mp hBlank c hLetter,
            hFirst c rfl⟩
    · exact .inl hReads
  rw [hValue]
  exact findAfter_symbol_pass hOperator hNot before _

/- A symbol that reads something in a clause is found there. -/
theorem exists_findAfter_clause
    {operator : Operator}
    {filter : Filter}
    (hGiven : filter.IsGiven)
    {rest : List Char}
    (hStops : Stops rest)
    (hSome : filter.echoComparison? operator ≠ none)
    (before : List Char) :
    ∃ found,
      (afterSymbol operator.symbol).findAfter
          (' ' ::
            ((Text.lowercase filter.field.toList).reverse ++
              before))
          (filter.operator.symbol.toList ++
            ' ' :: (filter.value ++ rest)) =
        some found ∧
        filterOf? .standard operator found =
          filter.echoComparison? operator := by
  have hReads : operator ∈ readings filter.operator := by
    by_contra hNot
    exact hSome (if_neg hNot)
  rw [Filter.echoComparison?, if_pos hReads] at hSome ⊢
  rcases hGiven.value_cases with
    ⟨n, more, hValue, hMore, hEcho⟩ | ⟨hNone, _⟩
  · have hRest :
        ∀ c ∈ (more ++ rest).head?,
          Text.isDigit c = false ∧ c ≠ '.' := by
      cases more with
      | cons d others => exact fun c hHead => hMore c hHead
      | nil =>
          intro c hHead
          rcases hStops with rfl | ⟨others, rfl⟩ | ⟨others, rfl⟩
          · cases hHead
          · obtain rfl : ',' = c := Option.some.inj hHead
            decide
          · obtain rfl : ' ' = c := Option.some.inj hHead
            decide
    rcases exists_findAfter_symbol hReads n hRest
        (' ' ::
          ((Text.lowercase filter.field.toList).reverse ++
            before)) with
      ⟨init, hInit, found, hFound, hReading⟩
    rcases nearestSynonym?_clause filter.field hGiven.field_mem
        init hInit with
      ⟨hNearest, hLength⟩
    rcases Option.map_eq_some_iff.mp hNearest with
      ⟨s, hSynonym, hField⟩
    have hHead :
        (' ' ::
              ((Text.lowercase filter.field.toList).reverse ++
                before)).reverse ++ init.toList =
          before.reverse ++
            (Text.lowercase filter.field.toList ++
              ' ' :: init.toList) := by
      simp
    refine ⟨found, ?_, ?_⟩
    · rw [hValue, List.append_assoc]
      exact hFound
    · rw [hHead] at hReading
      rw [filterOf?_of_reading hReading,
        Lexicon.nearestSynonym?_append hLength hSynonym, hEcho,
        Option.map_some, Option.map_some, hField]
  · rw [hNone] at hSome
    exact absurd rfl hSome

/- A symbol is read in the first clause that gives it. -/
theorem scans_symbol
    {operator : Operator}
    (hOperator : operator ∈ symbols)
    {sort : Option Sorting}
    (hSort : Sorting.IsNamed sort)
    (limit : Option UInt64) :
    Description.Scans (afterSymbol operator.symbol)
      (filterOf? .standard operator)
      (Filter.echoComparison? operator)
      (sortTail sort ++ limitTail limit) where
  clause := by
    intro filter hGiven rest hStops before
    let field := Text.lowercase filter.field.toList
    let behind := ' ' :: (field.reverse ++ before)
    have hField : Signless (field ++ [' ']) :=
      (signless_lowercase
          (Prompt.isNameChar_of_mem_fields
            hGiven.field_mem)).append
        (signless_of_all (by decide))
    have hValue : Signless (' ' :: filter.value) :=
      List.forall_mem_cons.mpr
        ⟨by decide,
          signless_of_subset (by decide) fun _ hMem =>
            hGiven.mem_of_mem_value hMem⟩
    have hText :
        filter.clause ++ rest =
          (field ++ [' ']) ++
            (filter.operator.symbol.toList ++
              ' ' :: (filter.value ++ rest)) := by
      simp [Filter.clause, field]
    have hBehind :
        (field ++ [' ']).reverse ++ before = behind := by
      simp [behind]
    rw [hText, findAfter_of_no_sign hOperator hField, hBehind]
    by_cases hNone : filter.echoComparison? operator = none
    · right
      refine ⟨?_, hNone⟩
      rw [findAfter_clause_pass hOperator hGiven hNone,
        ← List.cons_append, findAfter_of_no_sign hOperator hValue]
      simp [Filter.clause, behind, field]
    · left
      rcases exists_findAfter_clause hGiven hStops hNone before
        with ⟨found, hFound, hRead⟩
      exact
        ⟨found, hFound, hRead,
          Option.isSome_iff_ne_none.mpr hNone⟩
  start := by
    intro before rest
    have hWord : Signless ("filtered:".toList ++ [' ']) :=
      signless_of_all (by decide)
    have hPass :=
      findAfter_of_no_sign hOperator hWord before rest
    rw [List.append_assoc, List.reverse_append] at hPass
    exact hPass
  comma := by
    intro before rest
    have hComma : Signless [',', ' '] :=
      signless_of_all (by decide)
    exact findAfter_of_no_sign hOperator hComma before rest
  tail := by
    intro before
    have hTail := signless_tail hSort limit
    rw [← List.append_nil (sortTail sort ++ limitTail limit),
      findAfter_of_no_sign hOperator hTail]
    have hSome :
        ∀ operator ∈ symbols,
          (afterSymbol operator.symbol).takesSome = true := by
      decide
    exact follow_takesSome (hSome operator hOperator) _ _ _

theorem filterIn?_eq_bind
    (lexicon : Lexicon)
    (text : List Char)
    (e : Operator × Pattern) :
    filterIn? lexicon text e =
      (e.2.find text).bind (filterOf? lexicon e.1) := by
  unfold filterIn?
  cases e.2.find text with
  | none => rfl
  | some found => rfl

/- The operator of an entry for a symbol. -/
def symbolOf? : Operator × Phrase → Option Operator
  | (operator, .symbol _) => some operator
  | _ => none

/- What an entry of the table gives in a description. -/
theorem filterIn?_text
    {e : Operator × Phrase}
    (hEntry : e ∈ phrases)
    {filter : Filter}
    {more : List Filter}
    (hGiven : ∀ f ∈ filter :: more, f.IsGiven)
    {sort : Option Sorting}
    (hSort : Sorting.IsNamed sort)
    (limit : Option UInt64) :
    filterIn? .standard
        (Description.text filter more sort limit)
        (e.1, e.2.pattern) =
      (symbolOf? e).bind fun operator =>
        (filter :: more).findSome?
          (Filter.echoComparison? operator) := by
  have hSymbols :
      ∀ e ∈ phrases, ∀ operator ∈ symbolOf? e,
        operator ∈ symbols ∧
          e = (operator, .symbol operator.symbol) := by
    decide
  have hWordings :
      ∀ e ∈ phrases, symbolOf? e = none →
        e.2.parts?.isSome = true := by
    decide
  rw [filterIn?_eq_bind]
  cases hSymbol : symbolOf? e with
  | none =>
      rcases Option.isSome_iff_exists.mp
          (hWordings e hEntry hSymbol) with
        ⟨parts, hParts⟩
      rw [find_wording hEntry hParts hGiven hSort limit]
      rfl
  | some operator =>
      rcases hSymbols e hEntry operator hSymbol with
        ⟨hOperator, rfl⟩
      exact (scans_symbol hOperator hSort limit).find hGiven

end Comparison

namespace Description

/-
  The comparisons that filters are read as: for each symbol the
  first one that gives any.
-/
def echoComparisons (filters : List Filter) : List Filter :=
  Comparison.symbols.filterMap fun operator =>
    filters.findSome? (Filter.echoComparison? operator)

theorem comparisons_eq
    {filter : Filter}
    {more : List Filter}
    (hGiven : ∀ f ∈ filter :: more, f.IsGiven)
    {sort : Option Sorting}
    (hSort : Sorting.IsNamed sort)
    (limit : Option UInt64) :
    Prompt.comparisons ⟨text filter more sort limit⟩
        .standard =
      echoComparisons (filter :: more) := by
  have hSymbols :
      Comparison.phrases.filterMap Comparison.symbolOf? =
        Comparison.symbols :=
    rfl
  rw [echoComparisons, ← hSymbols, List.filterMap_filterMap,
    Prompt.comparisons, Comparison.patterns_eq,
    List.filterMap_map]
  apply List.filterMap_congr
  intro e hEntry
  exact Comparison.filterIn?_text hEntry hGiven hSort limit

end Description

end Dashboard
