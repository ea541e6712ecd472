import Dashboard.Proofs.Pattern.Standing
import Dashboard.Proofs.Prompt.Passage
import Mathlib.Data.List.Find

/-
  The status that a description is read to give in passing.
  A word for a status stands alone in a description exactly if
  it is the value of a filter or the field of the sort, since
  the gaps of such a phrase never stand there.

  Key definitions include:
    * `Shorthand.spelled`
    * `Description.mentions`
    * `Description.echoStatus?`

  Main declarations:
    * `Shorthand.takes_spelled`
    * `Description.stands_text`
    * `Description.shorthand?_eq`
-/

------------------------------------------------------------
-- Words With Gaps
------------------------------------------------------------

namespace Dashboard

namespace Shorthand

open Pattern

variable {α : Type}

/- The characters of which one may stand between words. -/
def isGap (c : Char) : Bool :=
  Text.isBlank c || c == '-'

/- Joined words without the edge behind them. -/
def spelled : List String → Pattern
  | [] => nothing
  | [word] => text word
  | word :: second :: rest =>
      both (text word) (both gap (spelled (second :: rest)))

theorem splits_joined (words : List String) :
    (joined words).Splits (spelled words) edge := by
  induction words with
  | nil => exact fun _ _ _ => rfl
  | cons word more ih =>
      cases more with
      | nil => exact fun _ _ _ => rfl
      | cons second rest =>
          intro α place groups next
          rw [joined, spelled, follow_both, follow_both]
          · congr 1
            funext stop found
            rw [follow_both, follow_both]
            congr 1
            funext later others
            exact ih later others next
          · exact List.cons_ne_nil second rest

theorem isPrefix_of_takes_spelled
    {word : String}
    {rest : List String}
    {taken : List Char}
    (hTakes : (spelled (word :: rest)).Takes taken) :
    word.toList <+: taken := by
  cases rest with
  | nil => rw [Sorting.eq_of_takes_text hTakes]
  | cons second more =>
      rcases hTakes with ⟨init, last, hInit, _, rfl⟩
      rw [Sorting.eq_of_takes_text hInit]
      exact List.prefix_append _ _

/- The words come one after another, or with a gap. -/
theorem takes_spelled
    {words : List String}
    {taken : List Char}
    (hTakes : (spelled words).Takes taken) :
    taken = (String.join words).toList ∨
      ∃ pair ∈ words.zip words.tail, ∃ c, isGap c = true ∧
        pair.1.toList ++ c :: pair.2.toList <:+: taken := by
  induction words generalizing taken with
  | nil => exact .inl hTakes
  | cons word more ih =>
      cases more with
      | nil =>
          left
          rw [Sorting.eq_of_takes_text hTakes, String.join_cons]
          simp
      | cons second rest =>
          rcases hTakes with
            ⟨init, _, hInit, ⟨between, last, hGap, hLast, rfl⟩,
              rfl⟩
          rw [Sorting.eq_of_takes_text hInit]
          rcases hGap with ⟨c, hHere, rfl⟩ | hNone
          · right
            rcases isPrefix_of_takes_spelled hLast with
              ⟨others, rfl⟩
            refine
              ⟨(word, second), List.mem_cons_self, c, hHere,
                [], others, ?_⟩
            simp
          · rw [show between = [] from hNone, List.nil_append]
            rcases ih hLast with
              rfl | ⟨pair, hPair, c, hHere, hInfix⟩
            · left
              have hJoin :
                  String.join (word :: second :: rest) =
                    word ++ String.join (second :: rest) :=
                String.join_cons
              rw [hJoin, String.toList_append]
            · right
              exact
                ⟨pair, List.mem_cons_of_mem _ hPair, c, hHere,
                  hInfix.trans (List.suffix_append _ _).isInfix⟩

/- Words that do not start with a gap are taken as one. -/
theorem follow_spelled
    {words : List String}
    (hWords :
      ∀ word ∈ words,
        ∃ c ∈ word.toList.head?, isGap c = false)
    (before rest : List Char)
    (groups : List Span)
    (next : Place → List Span → Option α) :
    (spelled words).follow
        ⟨before, (String.join words).toList ++ rest⟩ groups
        next =
      next ⟨(String.join words).toList.reverse ++ before, rest⟩
        groups := by
  induction words generalizing before with
  | nil => rfl
  | cons word more ih =>
      rw [List.forall_mem_cons] at hWords
      rw [String.join_cons, String.toList_append,
        List.append_assoc]
      cases more with
      | nil =>
          rw [spelled, follow_text]
          simp
      | cons second others =>
          rw [spelled, follow_both, follow_text, follow_both]
          have hGap :
              gap.follow
                  ⟨word.toList.reverse ++ before,
                    (String.join (second :: others)).toList ++
                      rest⟩
                  groups
                  (fun stop found =>
                    (spelled (second :: others)).follow stop
                      found next) =
                (spelled (second :: others)).follow
                  ⟨word.toList.reverse ++ before,
                    (String.join (second :: others)).toList ++
                      rest⟩
                  groups next := by
            rcases hWords.2 second List.mem_cons_self with
              ⟨c, hHead, hNot⟩
            rw [Option.mem_def, List.head?_eq_some_iff] at hHead
            rcases hHead with ⟨inner, hSecond⟩
            rw [String.join_cons, String.toList_append, hSecond,
              List.cons_append, List.cons_append, gap,
              Pattern.optional, follow_either, follow_char_cons,
              if_neg (by simpa [isGap] using hNot),
              Option.none_or]
            rfl
          rw [hGap, ih hWords.2, List.reverse_append,
            List.append_assoc]

end Shorthand

end Dashboard

------------------------------------------------------------
-- Words In Descriptions
------------------------------------------------------------

namespace Dashboard

namespace Description

open Pattern (spaced)
open Text (Stands IsWordy)

/- The words for a status. -/
def statusWords : List String :=
  ["active", "instock", "outofstock", "lowstock"]

/-
  A word is the value of a filter or the field of the sort,
  in lowercase.
-/
def mentions
    (word : String)
    (filters : List Filter)
    (sort : Option Sorting) : Bool :=
  filters.any (fun f => f.operand == .text word) ||
    sort.any fun given => Text.lower given.field == word

variable {word : String}

theorem isWordy_of_mem_statusWords
    (hWord : word ∈ statusWords) :
    IsWordy word.toList := by
  have hAll :
      (statusWords.all fun word =>
          !word.toList.isEmpty &&
            word.toList.all Text.isWord) =
        true := by
    decide
  have hHere := List.all_eq_true.mp hAll word hWord
  rw [Bool.and_eq_true, List.all_eq_true] at hHere
  exact ⟨by simpa using hHere.1, hHere.2⟩

/- None of them is a part of a fixed word. -/
theorem not_stands_fixed
    (hWord : word ∈ statusWords)
    {fixed : String}
    (hFixed : fixed ∈ fixedWords) :
    ¬ Stands word.toList fixed.toList := by
  have hAll :
      ∀ word ∈ statusWords, ∀ fixed ∈ fixedWords,
        ¬ word.toList <:+: fixed.toList := by
    decide
  exact fun hStands =>
    hAll word hWord fixed hFixed hStands.isInfix

theorem isWord_of_mem_lowercase
    {text : List Char}
    (hName : ∀ c ∈ text, Text.isNameChar c = true) :
    ∀ c ∈ Text.lowercase text, Text.isWord c = true := by
  have hAll : (Sorting.keyChars.all Text.isWord) = true := by
    decide
  intro c hMem
  exact
    List.all_eq_true.mp hAll c
      (Prompt.mem_keyChars_of_mem_lowercase hName hMem)

/- Each has a letter that stands in no number. -/
theorem exists_letter
    (hWord : word ∈ statusWords) :
    ∃ c ∈ word.toList,
      Text.isDigit c = false ∧ c ≠ '.' ∧ c ∉ "inf".toList := by
  have hAll :
      (statusWords.all fun word =>
          word.toList.any fun c =>
            !Text.isDigit c && c != '.' &&
              !"inf".toList.contains c) =
        true := by
    decide
  have hHere := List.all_eq_true.mp hAll word hWord
  rcases List.any_eq_true.mp hHere with ⟨c, hMem, hKind⟩
  refine ⟨c, hMem, ?_⟩
  simpa [and_assoc] using hKind

/- A word stands in a value only if it is the value. -/
theorem stands_value
    (hWord : word ∈ statusWords)
    {filter : Filter}
    (hGiven : filter.IsGiven) :
    Stands word.toList filter.value ↔
      filter.operand = .text word := by
  cases hGiven with
  | number hField hOperator hNumber hSign =>
      rename_i field operator x
      rcases exists_letter hWord with
        ⟨c, hMem, hDigit, hPoint, hInf⟩
      have hValue :
          Filter.value ⟨field, operator, .number x⟩ =
            x.prose.toList :=
        rfl
      rw [hValue]
      constructor
      · intro hStands
        have hThere := hStands.isInfix.subset hMem
        rcases Double.prose_cases hNumber hSign with
          ⟨_, n, hText, _⟩ | ⟨_, hText⟩
        · rw [hText, Amount.written, String.toList_ofList]
            at hThere
          rcases n.isDigit_or_point_of_mem hThere with
            hHere | rfl
          · rw [hHere] at hDigit
            cases hDigit
          · exact absurd rfl hPoint
        · rw [hText] at hThere
          exact absurd hThere hInf
      · rintro ⟨⟩
  | text hField hOperator hSome hLetters =>
      rename_i field operator given
      have hValue :
          Filter.value
              ⟨field, operator, .text (String.ofList given)⟩ =
            given :=
        String.toList_ofList
      have hAll :
          (Prompt.letters.all Text.isWord) = true := by
        decide
      have hWordy :
          ∀ c ∈ given, Text.isWord c = true := fun c hMem =>
        List.all_eq_true.mp hAll c (hLetters c hMem)
      rw [hValue,
        Text.stands_iff_eq (isWordy_of_mem_statusWords hWord)
          hWordy]
      constructor
      · rintro rfl
        rw [String.ofList_toList]
      · rintro ⟨⟩
        exact String.toList_ofList.symm

/- So it does in a clause. -/
theorem stands_clause
    (hWord : word ∈ statusWords)
    {filter : Filter}
    (hGiven : filter.IsGiven) :
    Stands word.toList filter.clause ↔
      filter.operand = .text word := by
  have hWordy := isWordy_of_mem_statusWords hWord
  have hFields :
      ∀ word ∈ statusWords, ∀ field ∈ Prompt.fields,
        Text.lowercase field.toList ≠ word.toList := by
    decide
  have hField :
      ¬ Stands word.toList
          (Text.lowercase filter.field.toList) := by
    rw [Text.stands_iff_eq hWordy]
    · exact hFields word hWord filter.field hGiven.field_mem
    · exact
        isWord_of_mem_lowercase
          (Prompt.isNameChar_of_mem_fields hGiven.field_mem)
  have hSymbol :
      filter.operator.symbol ∈ fixedWords := by
    cases filter.operator
    all_goals decide
  rw [Filter.clause, Text.stands_append_cons hWordy rfl,
    Text.stands_append_cons hWordy rfl, or_iff_right hField,
    or_iff_right (not_stands_fixed hWord hSymbol),
    stands_value hWord hGiven]

theorem isWord_of_stops
    {rest : List Char}
    (hStops : Stops rest) :
    ∀ c ∈ rest.head?, Text.isWord c = false := by
  rcases hStops with rfl | ⟨more, rfl⟩ | ⟨more, rfl⟩
  all_goals
    rintro c ⟨⟩
  all_goals rfl

theorem stands_following
    (hWord : word ∈ statusWords)
    {filters : List Filter}
    (hGiven : ∀ f ∈ filters, f.IsGiven)
    {tail : List Char}
    (hTail : Stops tail) :
    Stands word.toList (following filters tail) ↔
      (∃ f ∈ filters, f.operand = .text word) ∨
        Stands word.toList tail := by
  have hWordy := isWordy_of_mem_statusWords hWord
  induction filters with
  | nil => simp [following]
  | cons filter more ih =>
      rw [List.forall_mem_cons] at hGiven
      have hFollowing :
          following (filter :: more) tail =
            [','] ++ ' ' ::
              (filter.clause ++ following more tail) :=
        rfl
      have hComma : ¬ Stands word.toList [','] := by
        intro hStands
        have hNil := Text.not_stands_nil hWordy
        rw [← List.nil_append [','],
          Text.stands_append_cons hWordy rfl] at hStands
        exact hStands.elim hNil hNil
      rw [hFollowing, Text.stands_append_cons hWordy rfl,
        or_iff_right hComma,
        Text.stands_append hWordy
          (isWord_of_stops (stops_following hTail more)),
        stands_clause hWord hGiven.1, List.exists_mem_cons_iff,
        or_assoc]
      exact or_congr_right (ih hGiven.2)

/- Among fixed words, only what comes next counts. -/
theorem stands_spaced
    (hWord : word ∈ statusWords)
    {words : List String}
    (hFixed : ∀ fixed ∈ words, fixed ∈ fixedWords)
    (rest : List Char) :
    Stands word.toList (' ' :: (spaced words ++ rest)) ↔
      Stands word.toList rest := by
  have hWordy := isWordy_of_mem_statusWords hWord
  have hBlank :
      ∀ text,
        Stands word.toList (' ' :: text) ↔
          Stands word.toList text := by
    intro text
    rw [← List.nil_append (' ' :: text),
      Text.stands_append_cons hWordy rfl,
      or_iff_right (Text.not_stands_nil hWordy)]
  rw [hBlank]
  induction words with
  | nil => rfl
  | cons fixed more ih =>
      rw [List.forall_mem_cons] at hFixed
      rw [Pattern.spaced_cons, List.append_assoc,
        List.cons_append, Text.stands_append_cons hWordy rfl,
        or_iff_right (not_stands_fixed hWord hFixed.1)]
      exact ih hFixed.2

theorem not_stands_limitTail
    (hWord : word ∈ statusWords)
    (limit : Option UInt64) :
    ¬ Stands word.toList (limitTail limit) := by
  have hWordy := isWordy_of_mem_statusWords hWord
  cases limit with
  | none => exact Text.not_stands_nil hWordy
  | some limit =>
      rcases exists_letter hWord with ⟨c, hMem, hNot, _⟩
      have hCount :
          ¬ Stands word.toList
              (toString limit.toNat).toList := by
        intro hStands
        rw [isDigit_of_mem_toString
          (hStands.isInfix.subset hMem)] at hNot
        cases hNot
      rw [limitTail, stands_spaced hWord (by decide),
        Text.stands_append_cons hWordy rfl, not_or]
      exact ⟨hCount, not_stands_fixed hWord (by decide)⟩

theorem stands_tail
    (hWord : word ∈ statusWords)
    {sort : Option Sorting}
    (hSort : Sorting.IsNamed sort)
    (limit : Option UInt64) :
    Stands word.toList (sortTail sort ++ limitTail limit) ↔
      (sort.any fun given => Text.lower given.field == word) =
        true := by
  have hWordy := isWordy_of_mem_statusWords hWord
  have hLimit := not_stands_limitTail hWord limit
  have hHead :
      ∀ c ∈ (limitTail limit).head?, Text.isWord c = false :=
    isWord_of_stops (stops_tail none limit)
  rw [Text.stands_append hWordy hHead, or_iff_left hLimit]
  cases sort with
  | none =>
      exact iff_of_false (Text.not_stands_nil hWordy) (by simp)
  | some given =>
      have hField :=
        isWord_of_mem_lowercase (hSort given rfl)
      have hDirection :
          ¬ Stands word.toList (bracketed given.direction) := by
        have hFixed :
            ∃ fixed ∈ fixedWords,
              fixed.toList = bracketed given.direction := by
          cases given.direction with
          | asc => exact ⟨"(asc)", by decide, rfl⟩
          | desc => exact ⟨"(desc)", by decide, rfl⟩
        rcases hFixed with ⟨fixed, hMem, hSame⟩
        rw [← hSame]
        exact not_stands_fixed hWord hMem
      rw [sortTail, stands_spaced hWord (by decide),
        Text.stands_append_cons hWordy rfl,
        or_iff_left hDirection, Text.stands_iff_eq hWordy hField,
        Option.any_some, beq_iff_eq, Text.lower]
      constructor
      · intro hSame
        rw [hSame, String.ofList_toList]
      · rintro rfl
        exact String.toList_ofList.symm

/-
  A word for a status stands in a description exactly if a
  value or the field of the sort is this word.
-/
theorem stands_text
    (hWord : word ∈ statusWords)
    {filter : Filter}
    {more : List Filter}
    (hGiven : ∀ f ∈ filter :: more, f.IsGiven)
    {sort : Option Sorting}
    (hSort : Sorting.IsNamed sort)
    (limit : Option UInt64) :
    Stands word.toList (text filter more sort limit) ↔
      mentions word (filter :: more) sort = true := by
  have hWordy := isWordy_of_mem_statusWords hWord
  have hTail := stops_tail sort limit
  rw [List.forall_mem_cons] at hGiven
  unfold text
  rw [Text.stands_append_cons hWordy rfl,
    or_iff_right (not_stands_fixed hWord (by decide)),
    Text.stands_append hWordy
      (isWord_of_stops (stops_following hTail more)),
    stands_clause hWord hGiven.1,
    stands_following hWord hGiven.2 hTail,
    stands_tail hWord hSort, mentions, Bool.or_eq_true,
    List.any_cons, Bool.or_eq_true, List.any_eq_true, or_assoc]
  simp only [beq_iff_eq]

end Description

end Dashboard

------------------------------------------------------------
-- Gaps In Descriptions
------------------------------------------------------------

namespace Dashboard

namespace Shorthand

open Pattern

/- Two words with blanks between them. -/
def apart (first second : String) : Pattern :=
  sequence [text first, blanks, text second]

/- Words next to each other in a phrase for a status. -/
def neighbours : List (String × String) :=
  [("in", "stock"), ("out", "of"), ("of", "stock"),
    ("low", "stock")]

theorem bridges_apart
    {pair : String × String}
    (hPair : pair ∈ neighbours) :
    Bridges (apart pair.1 pair.2) (text pair.1)
      (both (text pair.2) nothing) := by
  have hAll :
      ∀ pair ∈ neighbours,
        (text pair.1).leadsBlanks = true ∧
          (Description.marks.all
              (both (text pair.2) nothing).startsOther) =
            true := by
    decide
  rcases hAll pair hPair with ⟨hLeads, hFollows⟩
  exact ⟨fun _ _ _ => rfl, hLeads, hFollows⟩

/- They fit where one blank stands between them. -/
theorem fits_apart
    {pair : String × String}
    (hPair : pair ∈ neighbours)
    {text : List Char}
    (hInfix :
      pair.1.toList ++ ' ' :: pair.2.toList <:+: text) :
    (apart pair.1 pair.2).fits text = true := by
  rcases hInfix with ⟨init, rest, rfl⟩
  have hSolid :
      ∀ pair ∈ neighbours,
        (pair.2.toList.head?.any fun d => !Text.isBlank d) =
          true := by
    decide
  have hHead :
      ∀ d ∈ (pair.2.toList ++ rest).head?,
        Text.isBlank d = false := by
    have hFirst := hSolid pair hPair
    rw [Option.any_eq_true] at hFirst
    rcases hFirst with ⟨e, hFirst, hNot⟩
    intro d hHead
    rw [List.head?_append, hFirst, Option.some_or] at hHead
    obtain rfl : e = d := Option.some.inj hHead
    simpa using hNot
  let start : Place :=
    ⟨init.reverse,
      pair.1.toList ++ ' ' :: (pair.2.toList ++ rest)⟩
  let stop : Place :=
    ⟨pair.2.toList.reverse ++
        ' ' :: (pair.1.toList.reverse ++ init.reverse),
      rest⟩
  have hApart :
      apart pair.1 pair.2 =
        both (Pattern.text pair.1)
          (both blanks (both (Pattern.text pair.2) nothing)) :=
    rfl
  have hHere :
      (apart pair.1 pair.2).matchAt start =
        some ⟨⟨start, stop⟩, []⟩ := by
    rw [matchAt, hApart, follow_both, follow_text, follow_both]
    apply follow_blanks hHead
    rw [follow_both, follow_text]
    rfl
  have hFits :=
    fits_of_matchAt (hHere ▸ Option.some_ne_none _)
  simpa using hFits

/- What stands behind `active` in a subject. -/
def subject : Pattern :=
  both
    (choice (text "user") [text "member", text "account"])
    nothing

theorem bridges_activeSubject :
    Bridges activeSubject (text "active") subject :=
  ⟨fun _ _ _ => rfl, by decide, by decide⟩

/- The first characters of the symbols. -/
def symbolStarts : List Char :=
  ['>', '<', '=', '!', 'c']

/- What starts with no symbol passes every field. -/
theorem passes_of_symbolStarts
    {first other : Pattern}
    (hStarts : (symbolStarts.all other.startsOther) = true)
    (field : String)
    (operator : Operator) :
    Bridges.passes first other field operator = true := by
  have hHere := List.all_eq_true.mp hStarts
  rw [Bridges.passes, Bool.or_eq_true]
  right
  cases operator
  all_goals exact hHere _ (by decide)

end Shorthand

namespace Description

open Pattern
open Shorthand

variable {filter : Filter}
variable {more : List Filter}
variable {sort : Option Sorting}

theorem fits_apart_eq_false
    {pair : String × String}
    (hPair : pair ∈ neighbours)
    (hGiven : ∀ f ∈ filter :: more, f.IsGiven)
    (hSort : Sorting.IsNamed sort)
    (limit : Option UInt64) :
    (apart pair.1 pair.2).fits (text filter more sort limit) =
      false := by
  have hStarts :
      ∀ pair ∈ neighbours,
        (symbolStarts.all
            (both (Pattern.text pair.2) nothing).startsOther) =
          true := by
    decide
  have hNone :
      (apart pair.1 pair.2).find
          (text filter more sort limit) =
        none := by
    apply (bridges_apart hPair).find_eq_none _ hGiven hSort
    exact fun field _ operator =>
      passes_of_symbolStarts (hStarts pair hPair) field operator
  rw [fits, hNone]
  rfl

/- No phrase for a status stands there with a gap. -/
theorem not_isInfix_gap
    {pair : String × String}
    (hPair : pair ∈ neighbours)
    {c : Char}
    (hGap : isGap c = true)
    (hGiven : ∀ f ∈ filter :: more, f.IsGiven)
    (hSort : Sorting.IsNamed sort)
    (limit : Option UInt64) :
    ¬ pair.1.toList ++ c :: pair.2.toList <:+:
        text filter more sort limit := by
  intro hInfix
  have hChar : c ∈ chars := by
    apply mem_chars_of_mem_text hGiven hSort
    exact hInfix.subset (by simp)
  have hBlank : c = ' ' := by
    have hAll :
        (chars.all fun c => !isGap c || c == ' ') = true := by
      decide
    simpa [hGap] using List.all_eq_true.mp hAll c hChar
  rw [hBlank] at hInfix
  have hFits := fits_apart hPair hInfix
  rw [fits_apart_eq_false hPair hGiven hSort limit] at hFits
  cases hFits

end Description

end Dashboard

------------------------------------------------------------
-- Status
------------------------------------------------------------

namespace Dashboard

namespace Shorthand

open Pattern

/- The phrases for a stock status as words. -/
def stockPhrases : List (List String × String) :=
  [(["in", "stock"], "in_stock"),
    (["out", "of", "stock"], "out_of_stock"),
    (["low", "stock"], "low_stock")]

theorem stockPatterns_eq :
    stockPatterns =
      stockPhrases.map fun e =>
        (both edge (joined e.1), e.2) :=
  rfl

end Shorthand

namespace Description

open Pattern
open Shorthand

/-
  The status that a description of filters and a sort gives in
  passing, next to what is stated in it.
-/
def echoStatus?
    (filters : List Filter)
    (sort : Option Sorting)
    (stated : List Filter) :
    Dataset → Option Filter
  | .sales => none
  | .users =>
      if !stated.any (fun f => f.field == "status") &&
          mentions "active" filters sort then
        some (statusFilter "active")
      else
        none
  | .products =>
      (stockPhrases.find? fun e =>
          mentions (String.join e.1) filters sort).map
        fun e => statusFilter e.2

variable {filter : Filter}
variable {more : List Filter}
variable {sort : Option Sorting}

theorem hasWordEnds_of_mem_statusWords :
    ∀ word ∈ statusWords, HasWordEnds word.toList := by
  intro word hWord
  have hWordy := isWordy_of_mem_statusWords hWord
  constructor
  · rcases List.exists_cons_of_ne_nil hWordy.1 with
      ⟨c, rest, hText⟩
    refine ⟨c, by rw [hText]; rfl, hWordy.2 c ?_⟩
    rw [hText]
    exact List.mem_cons_self
  · exact
      ⟨_, List.getLast?_eq_getLast_of_ne_nil hWordy.1,
        hWordy.2 _ (List.getLast_mem hWordy.1)⟩

theorem fits_active
    (hGiven : ∀ f ∈ filter :: more, f.IsGiven)
    (hSort : Sorting.IsNamed sort)
    (limit : Option UInt64) :
    active.fits (text filter more sort limit) =
      mentions "active" (filter :: more) sort := by
  have hSplits :
      active.Splits edge
        (both (Pattern.text "active") edge) :=
    fun _ _ _ => rfl
  have hWord : "active" ∈ statusWords := by
    decide
  have hEnds := hasWordEnds_of_mem_statusWords _ hWord
  rw [Bool.eq_iff_iff,
    ← stands_text hWord hGiven hSort limit]
  constructor
  · intro hFits
    rcases exists_stands_of_fits hSplits
        (fun taken hTakes _ => by
          rwa [Sorting.eq_of_takes_text hTakes])
        hFits with
      ⟨taken, hTakes, hStands⟩
    rwa [Sorting.eq_of_takes_text hTakes] at hStands
  · exact
      fits_of_stands hSplits hEnds fun before rest next =>
        follow_text "active" before rest [] next

theorem words_of_mem_stockPhrases
    {e : List String × String}
    (hPhrase : e ∈ stockPhrases) :
    String.join e.1 ∈ statusWords ∧
      ∀ word ∈ e.1,
        ∃ c ∈ word.toList.head?, isGap c = false := by
  have hAll :
      (stockPhrases.all fun e =>
          statusWords.contains (String.join e.1) &&
            e.1.all fun word =>
              word.toList.head?.any fun c => !isGap c) =
        true := by
    decide
  have hHere := List.all_eq_true.mp hAll e hPhrase
  rw [Bool.and_eq_true, List.contains_iff_mem,
    List.all_eq_true] at hHere
  refine ⟨hHere.1, fun word hWord => ?_⟩
  have hHead := hHere.2 word hWord
  rw [Option.any_eq_true] at hHead
  rcases hHead with ⟨c, hSome, hNot⟩
  exact ⟨c, hSome, by simpa using hNot⟩

theorem fits_joined
    {e : List String × String}
    (hPhrase : e ∈ stockPhrases)
    (hGiven : ∀ f ∈ filter :: more, f.IsGiven)
    (hSort : Sorting.IsNamed sort)
    (limit : Option UInt64) :
    (both edge (joined e.1)).fits
        (text filter more sort limit) =
      mentions (String.join e.1) (filter :: more) sort := by
  have hPairs :
      ∀ e ∈ stockPhrases, ∀ pair ∈ e.1.zip e.1.tail,
        pair ∈ neighbours := by
    decide
  have hSplits :
      (both edge (joined e.1)).Splits edge
        (both (spelled e.1) edge) := by
    intro α place groups next
    rw [follow_both]
    congr 1
    funext stop found
    exact splits_joined e.1 stop found next
  rcases words_of_mem_stockPhrases hPhrase with
    ⟨hWord, hHeads⟩
  have hTaken :
      ∀ taken, (spelled e.1).Takes taken →
        taken <:+: text filter more sort limit →
          taken = (String.join e.1).toList := by
    intro taken hTakes hInfix
    rcases takes_spelled hTakes with
      hWhole | ⟨pair, hPair, c, hGap, hInner⟩
    · exact hWhole
    · exact
        absurd (hInner.trans hInfix)
          (not_isInfix_gap (hPairs e hPhrase pair hPair) hGap
            hGiven hSort limit)
  have hEnds := hasWordEnds_of_mem_statusWords _ hWord
  rw [Bool.eq_iff_iff,
    ← stands_text hWord hGiven hSort limit]
  constructor
  · intro hFits
    rcases exists_stands_of_fits hSplits
        (fun taken hTakes hInfix => by
          rwa [hTaken taken hTakes hInfix])
        hFits with
      ⟨taken, hTakes, hStands⟩
    rwa [hTaken taken hTakes hStands.isInfix] at hStands
  · exact
      fits_of_stands hSplits hEnds fun before rest next =>
        follow_spelled hHeads before rest [] next

/- The status that a description gives in passing. -/
theorem shorthand?_eq
    (hGiven : ∀ f ∈ filter :: more, f.IsGiven)
    (hSort : Sorting.IsNamed sort)
    (limit : Option UInt64)
    (stated : List Filter)
    (dataset : Dataset) :
    Prompt.shorthand? ⟨text filter more sort limit⟩ stated
        dataset =
      echoStatus? (filter :: more) sort stated dataset := by
  cases dataset with
  | sales => rfl
  | users =>
      have hSubject :
          activeSubject.find (text filter more sort limit) =
            none := by
        apply bridges_activeSubject.find_eq_none _ hGiven hSort
        exact fun field _ operator =>
          passes_of_symbolStarts (by decide) field operator
      have hNot :
          activeSubject.fits (text filter more sort limit) =
            false := by
        rw [fits, hSubject]
        rfl
      rw [Prompt.shorthand?, echoStatus?,
        fits_active hGiven hSort limit, hNot, Bool.not_false,
        Bool.and_true]
  | products =>
      have hFind :
          (stockPhrases.find? fun e =>
              (both edge (joined e.1)).fits
                (text filter more sort limit)) =
            stockPhrases.find? fun e =>
              mentions (String.join e.1) (filter :: more)
                sort :=
        List.find?_congr fun e hPhrase =>
          fits_joined hPhrase hGiven hSort limit
      rw [Prompt.shorthand?, echoStatus?, stockPatterns_eq,
        List.find?_map, Option.map_map, ← hFind]
      rfl

end Description

end Dashboard
