import Dashboard.Proofs.Pattern.Seam
import Dashboard.Proofs.Prompt.Description

/-
  Searching a description.  A search goes through it clause by
  clause, so it finds what the first clause gives that gives
  anything.  A pattern with blanks in it can only fit where a
  word of the description ends with its first part and the
  rest of it comes next.

  Key definitions include:
    * `Description.Scans`
    * `Pattern.Bridges`

  Main declarations:
    * `Description.Scans.find`
    * `Pattern.Bridges.findAfter_word`
    * `Pattern.Bridges.scans`
    * `Pattern.Bridges.find_eq_none`
-/

------------------------------------------------------------
-- From Clause To Clause
------------------------------------------------------------

namespace Dashboard

namespace Description

/- What may come after a clause. -/
def Stops (rest : List Char) : Prop :=
  rest = [] ∨
    (∃ more, rest = ',' :: ' ' :: more) ∨
    ∃ more, rest = ' ' :: '•' :: more

theorem stops_following
    {tail : List Char}
    (hTail : Stops tail)
    (filters : List Filter) :
    Stops (following filters tail) := by
  cases filters with
  | nil => exact hTail
  | cons filter more => exact .inr (.inl ⟨_, rfl⟩)

theorem stops_tail
    (sort : Option Sorting)
    (limit : Option UInt64) :
    Stops (sortTail sort ++ limitTail limit) := by
  cases sort with
  | some given => exact .inr (.inr ⟨_, rfl⟩)
  | none =>
      cases limit with
      | some count => exact .inr (.inr ⟨_, rfl⟩)
      | none => exact .inl rfl

variable {α : Type}

/-
  A search that finds something in a clause, or passes it, and
  passes everything else in a description.  What is read of a
  match is what the clause gives.
-/
structure Scans
    (pattern : Pattern)
    (read? : Match → Option α)
    (gives? : Filter → Option α)
    (tail : List Char) : Prop where
  clause :
    ∀ filter, filter.IsGiven → ∀ rest, Stops rest → ∀ before,
      (∃ found,
        pattern.findAfter before (filter.clause ++ rest) =
            some found ∧
          read? found = gives? filter ∧
          (gives? filter).isSome = true) ∨
        pattern.findAfter before (filter.clause ++ rest) =
            pattern.findAfter
              (filter.clause.reverse ++ before) rest ∧
          gives? filter = none
  start :
    ∀ before rest,
      pattern.findAfter before
          ("filtered:".toList ++ ' ' :: rest) =
        pattern.findAfter
          (' ' :: ("filtered:".toList.reverse ++ before)) rest
  comma :
    ∀ before rest,
      pattern.findAfter before (',' :: ' ' :: rest) =
        pattern.findAfter (' ' :: ',' :: before) rest
  tail : ∀ before, pattern.findAfter before tail = none

namespace Scans

variable {pattern : Pattern}
variable {read? : Match → Option α}
variable {gives? : Filter → Option α}
variable {tail : List Char}

theorem findAfter_clause
    (hScans : Scans pattern read? gives? tail)
    {filter : Filter}
    (hGiven : filter.IsGiven)
    {rest : List Char}
    (hStops : Stops rest)
    {result : Option α}
    (hRest :
      ∀ before,
        (pattern.findAfter before rest).bind read? = result)
    (before : List Char) :
    (pattern.findAfter before (filter.clause ++ rest)).bind
        read? =
      (gives? filter).or result := by
  rcases hScans.clause filter hGiven rest hStops before with
    ⟨found, hFound, hRead, hSome⟩ | ⟨hPass, hNone⟩
  · rw [hFound, Option.bind_some, hRead,
      Option.or_of_isSome hSome]
  · rw [hPass, hRest, hNone, Option.none_or]

theorem findAfter_following
    (hScans : Scans pattern read? gives? tail)
    (hTail : Stops tail)
    {filters : List Filter}
    (hGiven : ∀ f ∈ filters, f.IsGiven)
    (before : List Char) :
    (pattern.findAfter before (following filters tail)).bind
        read? =
      filters.findSome? gives? := by
  induction filters generalizing before with
  | nil =>
      rw [following, List.foldr_nil, hScans.tail]
      rfl
  | cons filter more ih =>
      rw [List.forall_mem_cons] at hGiven
      have hFollowing :
          following (filter :: more) tail =
            ',' :: ' ' ::
              (filter.clause ++ following more tail) :=
        rfl
      rw [hFollowing, hScans.comma,
        hScans.findAfter_clause hGiven.1
          (stops_following hTail more) (ih hGiven.2),
        List.findSome?_cons]
      cases gives? filter with
      | none => rfl
      | some result => rfl

/- The first clause that gives anything decides. -/
theorem find
    {sort : Option Sorting}
    {limit : Option UInt64}
    (hScans :
      Scans pattern read? gives?
        (sortTail sort ++ limitTail limit))
    {filter : Filter}
    {more : List Filter}
    (hGiven : ∀ f ∈ filter :: more, f.IsGiven) :
    (pattern.find (text filter more sort limit)).bind read? =
      (filter :: more).findSome? gives? := by
  have hTail := stops_tail sort limit
  rw [List.forall_mem_cons] at hGiven
  unfold text
  rw [Pattern.find, hScans.start,
    hScans.findAfter_clause hGiven.1
      (stops_following hTail more)
      (hScans.findAfter_following hTail hGiven.2),
    List.findSome?_cons]
  cases gives? filter with
  | none => rfl
  | some result => rfl

end Scans

end Description

end Dashboard

------------------------------------------------------------
-- Patterns With Blanks
------------------------------------------------------------

namespace Dashboard

namespace Description

/- The words of a description that never change. -/
def fixedWords : List String :=
  ["", "filtered:", ">", ">=", "<", "<=", "=", "!=",
    "contains", "•", "sorted", "by", "(asc)", "(desc)",
    "showing", "top", "results"]

theorem isBlank_of_mem_fixedWords
    {word : String}
    (hWord : word ∈ fixedWords) :
    ∀ c ∈ word.toList, Text.isBlank c = false := by
  have hAll :
      (fixedWords.all fun word =>
          word.toList.all fun c => !Text.isBlank c) =
        true := by
    decide
  rw [List.all_eq_true] at hAll
  intro c hMem
  simpa using List.all_eq_true.mp (hAll word hWord) c hMem

/- The first characters of what comes after other words. -/
def marks : List Char :=
  ['•', '(', 'r']

theorem isBlank_of_mem_lowercase
    {text : List Char}
    (hName : ∀ c ∈ text, Text.isNameChar c = true)
    {c : Char}
    (hMem : c ∈ Text.lowercase text) :
    Text.isBlank c = false :=
  Sorting.isBlank_of_mem_keyChars
    (Prompt.mem_keyChars_of_mem_lowercase hName hMem)

end Description

namespace Pattern

open Description (Stops fixedWords marks bracketed sortTail
  limitTail)

/-
  A pattern that takes something without blanks and commas,
  and stops in none of the fixed words.
-/
def leadsBlanks (first : Pattern) : Bool :=
  first.takesSome && first.refuses ' ' && first.refuses ',' &&
    fixedWords.all fun word => !first.endsIn word.toList

/-
  A pattern of a first part, blanks, and another part that
  starts with none of the marks.
-/
structure Bridges (pattern first other : Pattern) : Prop where
  splits : pattern.Splits first (both blanks other)
  leads : first.leadsBlanks = true
  follows : (marks.all other.startsOther) = true

namespace Bridges

variable {pattern first other : Pattern}

theorem leads_parts
    (hBridges : Bridges pattern first other) :
    first.takesSome = true ∧ first.refuses ' ' = true ∧
      first.refuses ',' = true ∧
      ∀ word ∈ fixedWords,
        first.endsIn word.toList = false := by
  have hLeads := hBridges.leads
  rw [leadsBlanks, Bool.and_eq_true, Bool.and_eq_true,
    Bool.and_eq_true, List.all_eq_true] at hLeads
  rcases hLeads with ⟨⟨⟨hSome, hBlank⟩, hComma⟩, hFixed⟩
  exact
    ⟨hSome, hBlank, hComma, fun word hWord => by
      simpa using hFixed word hWord⟩

theorem not_mem_of_takes
    (hBridges : Bridges pattern first other)
    {taken : List Char}
    (hTakes : first.Takes taken)
    {c : Char}
    (hStop : c = ' ' ∨ c = ',') :
    c ∉ taken := by
  rcases hBridges.leads_parts with ⟨_, hBlank, hComma, _⟩
  rcases hStop with rfl | rfl
  · exact Pattern.not_mem_of_takes hBlank hTakes
  · exact Pattern.not_mem_of_takes hComma hTakes

/- A search passes single blanks and commas. -/
theorem findAfter_stop
    (hBridges : Bridges pattern first other)
    {c : Char}
    (hStop : c = ' ' ∨ c = ',')
    (before rest : List Char) :
    pattern.findAfter before (c :: rest) =
      pattern.findAfter (c :: before) rest := by
  apply findAfter_cons
  rw [matchAt_of_splits hBridges.splits]
  apply matchAt_eq_none_of_takes
  rintro taken ⟨init, last, hInit, hLast, rfl⟩ ⟨more, hTaken⟩
  have hSome :=
    ne_nil_of_takes hBridges.leads_parts.1 hInit
  rcases List.exists_cons_of_ne_nil hSome with
    ⟨d, others, rfl⟩
  obtain ⟨rfl, -⟩ := List.cons.inj hTaken
  exact hBridges.not_mem_of_takes hInit hStop
    List.mem_cons_self

/-
  A search passes a word unless the first part ends with it
  and blanks and the other part come next.
-/
theorem findAfter_word
    (hBridges : Bridges pattern first other)
    {word rest : List Char}
    (hWord : ∀ c ∈ word, Text.isBlank c = false)
    (hRest : ∀ c ∈ rest.head?, c = ' ' ∨ c = ',')
    (hEnd :
      first.endsIn word = false ∨
        ∀ taken, (both blanks other).Takes taken →
          ¬ taken <+: rest)
    (before : List Char) :
    pattern.findAfter before (word ++ rest) =
      pattern.findAfter (word.reverse ++ before) rest := by
  apply findAfter_pass hBridges.splits
  · exact fun taken hTakes c hMem =>
      hBridges.not_mem_of_takes hTakes (hRest c hMem)
  · rintro taken
      ⟨_, last, ⟨_, more, ⟨c, hBlank, rfl⟩, _, rfl⟩, _, rfl⟩
    refine ⟨c, rfl, fun hMem => ?_⟩
    rw [hWord c hMem] at hBlank
    cases hBlank
  · intro init last hInit hLast hSuffix
    rcases hEnd with hEnds | hNot
    · have hSome :=
        ne_nil_of_takes hBridges.leads_parts.1 hInit
      exact
        absurd hSuffix (not_isSuffix_of_takes hEnds hSome hInit)
    · exact hNot last hLast

theorem findAfter_fixed
    (hBridges : Bridges pattern first other)
    {word : String}
    (hWord : word ∈ fixedWords)
    {rest : List Char}
    (hRest : ∀ c ∈ rest.head?, c = ' ' ∨ c = ',')
    (before : List Char) :
    pattern.findAfter before (word.toList ++ rest) =
      pattern.findAfter (word.toList.reverse ++ before) rest :=
  hBridges.findAfter_word
    (Description.isBlank_of_mem_fixedWords hWord) hRest
    (.inl (hBridges.leads_parts.2.2.2 word hWord)) before

/- Fixed words with a blank after each are passed. -/
theorem findAfter_spaced
    (hBridges : Bridges pattern first other)
    {words : List String}
    (hWords : ∀ word ∈ words, word ∈ fixedWords)
    (before rest : List Char) :
    pattern.findAfter before (spaced words ++ rest) =
      pattern.findAfter ((spaced words).reverse ++ before)
        rest := by
  induction words generalizing before with
  | nil => rfl
  | cons word more ih =>
      rw [List.forall_mem_cons] at hWords
      rw [spaced_cons, List.append_assoc, List.cons_append,
        hBridges.findAfter_fixed hWords.1 (by simp),
        hBridges.findAfter_stop (.inl rfl), ih hWords.2]
      simp

/- The other part does not come next before a mark. -/
theorem not_isPrefix_mark
    (hBridges : Bridges pattern first other)
    {mark : Char}
    (hMark : mark ∈ marks)
    {taken : List Char}
    (hTakes : (both blanks other).Takes taken)
    (rest : List Char) :
    ¬ taken <+: ' ' :: mark :: rest := by
  have hSolid :
      (marks.all fun mark => !Text.isBlank mark) = true := by
    decide
  exact
    not_isPrefix_blanks
      (by simpa using List.all_eq_true.mp hSolid mark hMark)
      (List.all_eq_true.mp hBridges.follows mark hMark) hTakes
      rest

/- Nor does it where a clause stops. -/
theorem not_isPrefix_of_stops
    (hBridges : Bridges pattern first other)
    {rest : List Char}
    (hStops : Stops rest)
    {taken : List Char}
    (hTakes : (both blanks other).Takes taken) :
    ¬ taken <+: rest := by
  rcases hStops with rfl | ⟨more, rfl⟩ | ⟨more, rfl⟩
  · rcases hTakes with
      ⟨_, last, ⟨_, inner, ⟨c, _, rfl⟩, _, rfl⟩, _, rfl⟩
    rw [List.prefix_nil]
    exact List.cons_ne_nil _ _
  · rcases hTakes with
      ⟨_, last, ⟨_, inner, ⟨c, hBlank, rfl⟩, _, rfl⟩, _, rfl⟩
    rw [List.append_assoc, List.singleton_append,
      List.cons_prefix_cons]
    rintro ⟨rfl, -⟩
    cases hBlank
  · exact hBridges.not_isPrefix_mark (by decide) hTakes more

/- The rest of a description is passed. -/
theorem findAfter_limitTail
    (hBridges : Bridges pattern first other)
    (limit : Option UInt64)
    (before : List Char) :
    pattern.findAfter before (limitTail limit) = none := by
  have hNil : ∀ before, pattern.findAfter before [] = none := by
    intro before
    rw [findAfter, matchAt, hBridges.splits]
    exact follow_takesSome hBridges.leads_parts.1 _ _ _
  cases limit with
  | none => exact hNil before
  | some limit =>
      have hCount :
          ∀ c ∈ (toString limit.toNat).toList,
            Text.isBlank c = false := fun c hMem =>
        Text.isBlank_of_isDigit
          (Description.isDigit_of_mem_toString hMem)
      have hResults :
          ∀ taken, (both blanks other).Takes taken →
            ¬ taken <+: ' ' :: "results".toList :=
        fun _ hTakes =>
          hBridges.not_isPrefix_mark (by decide) hTakes _
      rw [limitTail, hBridges.findAfter_stop (.inl rfl),
        hBridges.findAfter_spaced (by decide),
        hBridges.findAfter_word hCount (by simp)
          (.inr hResults),
        hBridges.findAfter_stop (.inl rfl),
        ← List.append_nil "results".toList,
        hBridges.findAfter_fixed (by decide) (by simp)]
      exact hNil _

theorem findAfter_tail
    (hBridges : Bridges pattern first other)
    {sort : Option Sorting}
    (hSort : Sorting.IsNamed sort)
    (limit : Option UInt64)
    (before : List Char) :
    pattern.findAfter before
        (sortTail sort ++ limitTail limit) =
      none := by
  cases sort with
  | none => exact hBridges.findAfter_limitTail limit before
  | some given =>
      let field := Text.lowercase given.field.toList
      let direction := bracketed given.direction
      have hField : ∀ c ∈ field, Text.isBlank c = false :=
        fun _ hMem =>
          Description.isBlank_of_mem_lowercase
            (hSort given rfl) hMem
      have hBracket :
          ∀ taken, (both blanks other).Takes taken →
            ¬ taken <+: ' ' :: (direction ++ limitTail limit) :=
        fun _ hTakes =>
          hBridges.not_isPrefix_mark (by decide) hTakes _
      have hDirection :
          ∃ word ∈ fixedWords, word.toList = direction := by
        unfold direction
        cases given.direction with
        | asc => exact ⟨"(asc)", by decide, rfl⟩
        | desc => exact ⟨"(desc)", by decide, rfl⟩
      have hLimit :
          ∀ c ∈ (limitTail limit).head?, c = ' ' ∨ c = ',' := by
        cases limit with
        | none => simp [limitTail]
        | some limit => simp [limitTail]
      rcases hDirection with ⟨word, hWord, hSame⟩
      have hText :
          sortTail (some given) ++ limitTail limit =
            ' ' :: (spaced ["•", "sorted", "by"] ++
              (field ++
                ' ' :: (direction ++ limitTail limit))) := by
        simp [sortTail, field, direction]
      rw [hText, hBridges.findAfter_stop (.inl rfl),
        hBridges.findAfter_spaced (by decide),
        hBridges.findAfter_word hField (by simp)
          (.inr hBracket),
        hBridges.findAfter_stop (.inl rfl), ← hSame,
        hBridges.findAfter_fixed hWord hLimit]
      exact hBridges.findAfter_limitTail limit _

/-
  The part after the blanks does not come next to a field: the
  first part does not end there, or the symbol starts in
  another way.
-/
def passes
    (first other : Pattern)
    (field : String)
    (operator : Operator) : Bool :=
  !first.endsIn (Text.lowercase field.toList) ||
    operator.symbol.toList.head?.any other.startsOther

/- The symbol of an operator starts with no blank. -/
theorem exists_symbol_eq_cons
    (operator : Operator) :
    ∃ c more,
      operator.symbol.toList = c :: more ∧
        Text.isBlank c = false := by
  cases operator
  all_goals exact ⟨_, _, rfl, rfl⟩

/- So a search passes a clause. -/
theorem findAfter_clause
    (hBridges : Bridges pattern first other)
    {filter : Filter}
    (hGiven : filter.IsGiven)
    {rest : List Char}
    (hStops : Stops rest)
    (hPasses :
      passes first other filter.field filter.operator = true)
    (before : List Char) :
    pattern.findAfter before (filter.clause ++ rest) =
      pattern.findAfter (filter.clause.reverse ++ before)
        rest := by
  have hField :
      ∀ c ∈ Text.lowercase filter.field.toList,
        Text.isBlank c = false := fun _ hMem =>
    Description.isBlank_of_mem_lowercase
      (Prompt.isNameChar_of_mem_fields hGiven.field_mem) hMem
  have hEnd :
      first.endsIn (Text.lowercase filter.field.toList) =
          false ∨
        ∀ taken, (both blanks other).Takes taken →
          ¬ taken <+:
            ' ' :: (filter.operator.symbol.toList ++
              ' ' :: (filter.value ++ rest)) := by
    rw [passes, Bool.or_eq_true, Bool.not_eq_true'] at hPasses
    refine hPasses.imp_right fun hOther taken hTakes => ?_
    rcases exists_symbol_eq_cons filter.operator with
      ⟨c, more, hSymbol, hSolid⟩
    rw [hSymbol, List.head?_cons, Option.any_some] at hOther
    rw [hSymbol, List.cons_append]
    exact not_isPrefix_blanks hSolid hOther hTakes _
  have hSymbol :
      filter.operator.symbol ∈ fixedWords := by
    cases filter.operator
    all_goals decide
  have hValueChars :
      (Filter.valueChars.all fun c => !Text.isBlank c) =
        true := by
    decide
  rw [List.all_eq_true] at hValueChars
  have hValue :
      ∀ c ∈ filter.value, Text.isBlank c = false := by
    intro c hMem
    simpa using hValueChars c (hGiven.mem_of_mem_value hMem)
  have hHead : ∀ c ∈ rest.head?, c = ' ' ∨ c = ',' := by
    rcases hStops with rfl | ⟨more, rfl⟩ | ⟨more, rfl⟩
    all_goals simp
  have hText :
      filter.clause ++ rest =
        Text.lowercase filter.field.toList ++
          ' ' :: (filter.operator.symbol.toList ++
            ' ' :: (filter.value ++ rest)) := by
    simp [Filter.clause]
  rw [hText, hBridges.findAfter_word hField (by simp) hEnd,
    hBridges.findAfter_stop (.inl rfl),
    hBridges.findAfter_fixed hSymbol (by simp),
    hBridges.findAfter_stop (.inl rfl),
    hBridges.findAfter_word hValue hHead
      (.inr fun _ hTakes =>
        hBridges.not_isPrefix_of_stops hStops hTakes)]
  simp [Filter.clause]

variable {α : Type}

/-
  A pattern with blanks scans a description if each clause
  either gives the match at its start or is passed.
-/
theorem scans
    (hBridges : Bridges pattern first other)
    {read? : Match → Option α}
    {gives? : Filter → Option α}
    (hClause :
      ∀ filter, filter.IsGiven → ∀ rest, Stops rest →
        (∀ before, ∃ found,
          pattern.matchAt ⟨before, filter.clause ++ rest⟩ =
              some found ∧
            read? found = gives? filter ∧
            (gives? filter).isSome = true) ∨
          passes first other filter.field filter.operator =
              true ∧
            gives? filter = none)
    {sort : Option Sorting}
    (hSort : Sorting.IsNamed sort)
    (limit : Option UInt64) :
    Description.Scans pattern read? gives?
      (sortTail sort ++ limitTail limit) where
  clause := by
    intro filter hGiven rest hStops before
    rcases hClause filter hGiven rest hStops with
      hHere | ⟨hPasses, hNone⟩
    · left
      rcases hHere before with ⟨found, hMatch, hRead⟩
      exact ⟨found, findAfter_of_matchAt hMatch, hRead⟩
    · right
      exact
        ⟨hBridges.findAfter_clause hGiven hStops hPasses before,
          hNone⟩
  start := by
    intro before rest
    rw [hBridges.findAfter_fixed (by decide) (by simp),
      hBridges.findAfter_stop (.inl rfl)]
  comma := by
    intro before rest
    rw [hBridges.findAfter_stop (.inr rfl),
      hBridges.findAfter_stop (.inl rfl)]
  tail := hBridges.findAfter_tail hSort limit

/-
  A pattern with blanks that passes every field is not found
  in a description.
-/
theorem find_eq_none
    (hBridges : Bridges pattern first other)
    (hPasses :
      ∀ field ∈ Prompt.fields, ∀ operator,
        passes first other field operator = true)
    {filter : Filter}
    {more : List Filter}
    (hGiven : ∀ f ∈ filter :: more, f.IsGiven)
    {sort : Option Sorting}
    (hSort : Sorting.IsNamed sort)
    (limit : Option UInt64) :
    pattern.find
        (Description.text filter more sort limit) =
      none := by
  have hScans :
      Description.Scans pattern some (fun _ => none)
        (sortTail sort ++ limitTail limit) := by
    apply hBridges.scans _ hSort
    exact fun f hHere rest _ =>
      .inr ⟨hPasses f.field hHere.field_mem f.operator, rfl⟩
  have hFind := hScans.find hGiven
  rw [Option.bind_fun_some] at hFind
  exact
    hFind.trans (List.findSome?_eq_none_iff.mpr fun _ _ => rfl)

end Bridges

end Pattern

end Dashboard
