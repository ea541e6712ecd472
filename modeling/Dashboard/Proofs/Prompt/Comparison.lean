import Dashboard.Proofs.Number.Amount
import Dashboard.Proofs.Pattern.Search
import Dashboard.Prompt.Comparison

/-
  Comparisons of a prompt that ends with an amount.  Which
  phrases are found, and the fields that they are about, is
  settled by the text before the amount; the amount is the
  operand of all of them.

  Key definitions include:
    * `Comparison.Phrase`
    * `Comparison.Phrase.lead?`
    * `Comparison.headsIn`

  Main declarations:
    * `Comparison.patterns_eq`
    * `Comparison.headsIn_append`
    * `Prompt.comparisons_append`
-/

------------------------------------------------------------
-- Characters Of Amounts
------------------------------------------------------------

namespace Dashboard

/- The characters that amounts are written with. -/
def Amount.chars : List Char :=
  '.' :: Text.digits

theorem Amount.mem_chars
    {n : Amount}
    {c : Char}
    (hMem : c ∈ n.text) :
    c ∈ chars := by
  rcases n.isDigit_or_point_of_mem hMem with hDigit | rfl
  · exact .tail _ (Text.mem_digits_of_isDigit hDigit)
  · exact .head _

/- A pattern that takes something, but nothing of amounts. -/
def Pattern.precedesAmounts (pattern : Pattern) : Bool :=
  pattern.takesSome && Amount.chars.all pattern.avoids

theorem Pattern.avoids_of_precedesAmounts
    {pattern : Pattern}
    (hPrecedes : pattern.precedesAmounts = true)
    (n : Amount) :
    ∀ c ∈ n.text, pattern.avoids c = true := by
  intro c hMem
  rw [precedesAmounts, Bool.and_eq_true, List.all_eq_true]
    at hPrecedes
  exact hPrecedes.2 c (Amount.mem_chars hMem)

theorem Pattern.takesSome_of_precedesAmounts
    {pattern : Pattern}
    (hPrecedes : pattern.precedesAmounts = true) :
    pattern.takesSome = true := by
  rw [precedesAmounts, Bool.and_eq_true] at hPrecedes
  exact hPrecedes.1

/- What fits nowhere before an amount is not found. -/
theorem Pattern.find_amount_eq_none
    {pattern lead tail : Pattern}
    (hSplits : pattern.Splits lead tail)
    (hPrecedes : lead.precedesAmounts = true)
    {text : List Char}
    (hAbsent : lead.absentFrom text = true)
    (n : Amount) :
    pattern.find (text ++ n.text) = none :=
  find_append_eq_none hSplits
    (takesSome_of_precedesAmounts hPrecedes) n.text_ne_nil
    (avoids_of_precedesAmounts hPrecedes n) hAbsent

end Dashboard

------------------------------------------------------------
-- Phrases
------------------------------------------------------------

namespace Dashboard

namespace Comparison

open Pattern

/- The four kinds of phrases for comparisons. -/
inductive Phrase where
  | words (parts : List String)
  | plural (word : String)
  | symbol (sign : String)
  | trailing (first second : String)
deriving DecidableEq, Repr

namespace Phrase

/- The pattern of a phrase. -/
def pattern : Phrase → Pattern
  | words parts => before parts
  | plural word => beforePlural word
  | symbol sign => afterSymbol sign
  | trailing first second => beforeWords first second

/- The part of the pattern before the number. -/
def lead? : Phrase → Option Pattern
  | words parts =>
      some
        (parts.foldr
          (fun word rest =>
            both (text word) (both blanks rest))
          nothing)
  | plural word =>
      some
        (sequence [text word, optional (text "s"), blanks])
  | symbol sign => some (sequence [text sign, spacing])
  | trailing _ _ => none

/- A phrase before a number is its first part with it. -/
theorem splits
    {phrase : Phrase}
    {lead : Pattern}
    (hLead : phrase.lead? = some lead) :
    phrase.pattern.Splits lead number := by
  cases phrase with
  | words parts =>
      cases hLead
      induction parts with
      | nil => exact fun _ _ _ => rfl
      | cons word rest ih =>
          intro α place groups next
          have hRest :
              (before rest).follow (α := α) =
                fun place groups next =>
                  (rest.foldr
                    (fun word more =>
                      both (text word) (both blanks more))
                    nothing).follow place groups
                    fun stop found =>
                      number.follow stop found next := by
            funext place groups next
            exact ih place groups next
          change
            (both (text word) (both blanks (before rest))).follow
              place groups next = _
          simp only [follow_both, List.foldr_cons, hRest]
  | plural word =>
      cases hLead
      exact fun _ _ _ => rfl
  | symbol sign =>
      cases hLead
      exact fun _ _ _ => rfl
  | trailing first second => cases hLead

/- The other phrases start with a number. -/
theorem trailing_splits (first second : String) :
    (trailing first second).pattern.Splits number
      (both blanks
        (sequence [text first, blanks, text second])) :=
  fun _ _ _ => rfl

end Phrase

/- The table of phrases with their operators, in order. -/
def phrases : List (Operator × Phrase) :=
  [(.gt, .words ["above"]),
    (.gt, .words ["greater", "than"]),
    (.gt, .words ["more", "than"]),
    (.gt, .symbol ">"),
    (.gt, .words ["over"]),
    (.gt, .plural "exceed"),
    (.gte, .words ["at", "least"]),
    (.gte, .symbol ">="),
    (.gte, .words ["minimum"]),
    (.gte, .trailing "or" "more"),
    (.lt, .words ["below"]),
    (.lt, .words ["less", "than"]),
    (.lt, .words ["under"]),
    (.lt, .symbol "<"),
    (.lt, .words ["fewer", "than"]),
    (.lte, .words ["at", "most"]),
    (.lte, .symbol "<="),
    (.lte, .words ["maximum"]),
    (.lte, .trailing "or" "less"),
    (.lte, .words ["up", "to"]),
    (.eq, .plural "equal"),
    (.eq, .words ["equal", "to"]),
    (.eq, .symbol "="),
    (.eq, .words ["exactly"]),
    (.eq, .words ["is"])]

/- These are all the phrases of the interpreter. -/
theorem patterns_eq :
    patterns = phrases.map fun e => (e.1, e.2.pattern) := rfl

theorem lead_precedesAmounts :
    ∀ e ∈ phrases, ∀ lead ∈ e.2.lead?,
      lead.precedesAmounts = true := by
  decide

end Comparison

end Dashboard

------------------------------------------------------------
-- Amounts After A Phrase
------------------------------------------------------------

namespace Dashboard

namespace Comparison

open Pattern

/- The decimal places of an amount are taken to their end. -/
theorem follow_places
    {α : Type}
    (n : Amount)
    {before rest : List Char}
    {groups : List Span}
    {next : Place → List Span → Option α}
    {result : α}
    (hRest :
      ∀ c ∈ rest.head?, Text.isDigit c = false ∧ c ≠ '.')
    (hNext :
      next ⟨n.pointed.reverse ++ before, rest⟩ groups =
        some result) :
    (Pattern.optional
          (both (text ".") (some1 Text.isDigit))).follow
        ⟨before, n.pointed ++ rest⟩ groups next =
      some result := by
  rw [Pattern.optional, follow_either]
  cases hPlaces : n.places with
  | none =>
      have hPointed : n.pointed = [] := by
        rw [Amount.pointed, hPlaces]
      have hPoint :
          (both (text ".") (some1 Text.isDigit)).follow
              ⟨before, rest⟩ groups next =
            none := by
        cases rest with
        | nil => rfl
        | cons c more =>
            have hOther : (c == '.') = false := by
              simpa using (hRest c rfl).2
            have hWord :
                both (text ".") (some1 Text.isDigit) =
                  both (both (char (· == '.')) nothing)
                    (some1 Text.isDigit) :=
              rfl
            rw [hWord, follow_both, follow_both,
              follow_char_cons, hOther]
            rfl
      rw [hPointed] at hNext ⊢
      rw [List.nil_append, hPoint, Option.none_or]
      exact hNext
  | some digits =>
      have hPointed : n.pointed = '.' :: digits.chars := by
        rw [Amount.pointed, hPlaces]
      have hDigits :
          (some1 Text.isDigit).follow
              ⟨'.' :: before, digits.chars ++ rest⟩ groups
              next =
            some result := by
        apply follow_some1 digits.ne_nil digits.isDigit
        · exact fun c hMem => (hRest c hMem).1
        · simpa [hPointed] using hNext
      have hPoint :
          (both (text ".") (some1 Text.isDigit)).follow
              ⟨before, n.pointed ++ rest⟩ groups next =
            some result := by
        rw [hPointed]
        exact hDigits
      rw [hPoint, Option.some_or]

/- An amount is taken as a whole. -/
theorem follow_number
    {α : Type}
    (n : Amount)
    {before rest : List Char}
    {groups : List Span}
    {next : Place → List Span → Option α}
    {result : α}
    (hRest :
      ∀ c ∈ rest.head?, Text.isDigit c = false ∧ c ≠ '.')
    (hNext :
      next ⟨n.text.reverse ++ before, rest⟩
          (groups ++
            [⟨⟨before, n.text ++ rest⟩,
              ⟨n.text.reverse ++ before, rest⟩⟩]) =
        some result) :
    number.follow ⟨before, n.text ++ rest⟩ groups next =
      some result := by
  rw [number, follow_group, follow_both]
  have hText :
      n.text ++ rest = n.whole.chars ++ (n.pointed ++ rest) :=
    List.append_assoc _ _ _
  have hAll :
      n.pointed.reverse ++ (n.whole.chars.reverse ++ before) =
        n.text.reverse ++ before := by
    rw [Amount.text, List.reverse_append, List.append_assoc]
  rw [hText]
  apply follow_some1 n.whole.ne_nil n.whole.isDigit
  · intro c hHead
    cases hPlaces : n.pointed with
    | nil =>
        rw [hPlaces] at hHead
        exact (hRest c hHead).1
    | cons d more =>
        rw [hPlaces] at hHead
        obtain rfl : d = c := Option.some.inj hHead
        have hPoint := n.head?_pointed d (by rw [hPlaces]; rfl)
        rw [hPoint]
        rfl
  · apply follow_places n hRest
    rw [hAll, ← hText]
    exact hNext

theorem follow_number_text
    (n : Amount)
    (before : List Char) :
    number.follow ⟨before, n.text⟩ []
        (fun _ groups => some (groups[0]?.map Span.text)) =
      some (some n.text) := by
  rw [← List.append_nil n.text]
  apply follow_number n
  · rintro c ⟨⟩
  · rw [List.append_nil]
    exact
      congrArg (some ∘ some)
        (Span.text_of_taken before n.text n.text [])

/- Nothing is made of a text unless it is at its end. -/
def atEnd? (after : List Char) : Option Unit :=
  if after.isEmpty then some () else none

/- The text before a phrase that stops at the end. -/
def Phrase.headIn?
    (phrase : Phrase)
    (text : List Char) : Option (List Char) :=
  match phrase.lead? with
  | none => none
  | some lead => (lead.scout? atEnd? text).map Prod.fst

/- A number is not found before the end of other text. -/
theorem follow_number_append
    {text : List Char}
    (hDigits : ∀ c ∈ text, Text.isDigit c = false)
    (n : Amount)
    (before : List Char) :
    (number.follow ⟨before, text ++ n.text⟩ []
        fun _ groups => some (groups[0]?.map Span.text)) =
      (atEnd? text).map fun _ => some n.text := by
  cases text with
  | nil => exact follow_number_text n before
  | cons c rest =>
      have hNot : Text.isDigit c = false :=
        hDigits c List.mem_cons_self
      rw [number, follow_group, follow_both, List.cons_append,
        follow_some1_eq_none hNot]
      rfl

/-
  A phrase that stands directly before an amount, wherever
  the search for it begins.
-/
theorem findAfter_lead_amount
    {phrase : Phrase}
    {lead : Pattern}
    (hLead : phrase.lead? = some lead)
    (hPrecedes : lead.precedesAmounts = true)
    {text : List Char}
    (hDigits : ∀ c ∈ text, Text.isDigit c = false)
    (n : Amount)
    (before : List Char) :
    (phrase.pattern.findAfter before (text ++ n.text)).map
        Match.reading =
      (phrase.headIn? text).map fun head =>
        (before.reverse ++ head, some n.text) := by
  have hTail :
      ∀ before after, after <:+ text →
        (number.follow ⟨before, after ++ n.text⟩ []
            fun _ groups => some (groups[0]?.map Span.text)) =
          (atEnd? after).map fun _ => some n.text :=
    fun before after hSuffix =>
      follow_number_append
        (fun c hMem => hDigits c (hSuffix.subset hMem)) n before
  rw [Phrase.headIn?, hLead]
  dsimp only
  rw [Option.map_map]
  exact
    findAfter_append (phrase.splits hLead)
      (takesSome_of_precedesAmounts hPrecedes) n.text_ne_nil
      (avoids_of_precedesAmounts hPrecedes n) hTail before

theorem find_lead_amount
    {phrase : Phrase}
    {lead : Pattern}
    (hLead : phrase.lead? = some lead)
    (hPrecedes : lead.precedesAmounts = true)
    {text : List Char}
    (hDigits : ∀ c ∈ text, Text.isDigit c = false)
    (n : Amount) :
    (phrase.pattern.find (text ++ n.text)).map
        Match.reading =
      (phrase.headIn? text).map fun head =>
        (head, some n.text) :=
  findAfter_lead_amount hLead hPrecedes hDigits n []

/- Blanks do not follow on what has none. -/
theorem follow_blanks_eq_none
    {α : Type}
    {place : Place}
    (hBlanks : ∀ c ∈ place.after, Text.isBlank c = false)
    (groups : List Span)
    (next : Place → List Span → Option α) :
    blanks.follow place groups next = none := by
  rcases place with ⟨before, after⟩
  cases after with
  | nil => rfl
  | cons c rest =>
      exact
        follow_some1_eq_none (hBlanks c List.mem_cons_self)
          before rest groups next

theorem isBlank_of_mem_amount
    {n : Amount}
    {c : Char}
    (hMem : c ∈ n.text) :
    Text.isBlank c = false := by
  rcases n.isDigit_or_point_of_mem hMem with hDigit | rfl
  · exact Text.isBlank_of_isDigit hDigit
  · rfl

/-
  A pattern of digits and blanks is not found in a text whose
  only digits are those of an amount at its end.
-/
theorem find_digits_blanks_eq_none
    {pattern body more : Pattern}
    (hSplits :
      pattern.Splits (group (both (some1 Text.isDigit) body))
        (both blanks more))
    {text : List Char}
    (hDigits : ∀ c ∈ text, Text.isDigit c = false)
    (n : Amount) :
    pattern.find (text ++ n.text) = none := by
  have hInside :
      ∀ before after, after <:+ n.text →
        pattern.matchAt ⟨before, after⟩ = none := by
    intro before after hSuffix
    rw [matchAt, hSplits]
    apply follow_eq_none
    intro stop found hReaches
    rw [follow_both]
    apply follow_blanks_eq_none
    intro c hMem
    exact
      isBlank_of_mem_amount
        (hSuffix.subset (hReaches.suffix.subset hMem))
  have hAmount :
      ∀ before after, after <:+ n.text →
        pattern.findAfter before after = none := by
    intro before after hSuffix
    induction after generalizing before with
    | nil => exact hInside before [] hSuffix
    | cons c rest ih =>
        rw [findAfter, hInside before _ hSuffix]
        exact
          ih _ ((List.suffix_cons c rest).trans hSuffix)
  have hAll :
      ∀ before after, (∀ c ∈ after, Text.isDigit c = false) →
        pattern.findAfter before (after ++ n.text) = none := by
    intro before after hNone
    induction after generalizing before with
    | nil => exact hAmount before _ List.suffix_rfl
    | cons c rest ih =>
        rw [List.forall_mem_cons] at hNone
        have hHere :
            pattern.matchAt ⟨before, c :: (rest ++ n.text)⟩ =
              none := by
          rw [matchAt, hSplits, follow_group, follow_both]
          exact follow_some1_eq_none hNone.1 _ _ _ _
        rw [List.cons_append, findAfter, hHere]
        exact ih _ hNone.2
  exact hAll [] text hDigits

end Comparison

end Dashboard

------------------------------------------------------------
-- Comparisons
------------------------------------------------------------

namespace Dashboard

namespace Comparison

open Pattern

/-
  The operators of the phrases that stop at the end of a
  text, each with the text before its phrase.
-/
def headsIn
    (text : List Char) : List (Operator × List Char) :=
  phrases.filterMap fun e =>
    (e.2.headIn? text).map (e.1, ·)

/- What a match gives only depends on what is read of it. -/
theorem filterOf?_of_reading
    {lexicon : Lexicon}
    {operator : Operator}
    {found : Match}
    {head : List Char}
    {n : Amount}
    (hReading : found.reading = (head, some n.text)) :
    filterOf? lexicon operator found =
      (lexicon.nearestSynonym? head).map fun synonym =>
        ⟨synonym.field, operator, .number n.value⟩ := by
  have hHead : found.head = head := congrArg Prod.fst hReading
  have hGroup : found.group? 0 = some n.text :=
    congrArg Prod.snd hReading
  have hOperand : operand? found = some n.value := by
    rw [operand?, hGroup]
    dsimp only
    rw [n.scan_text, Option.map_some, n.value_of_literal]
  rw [filterOf?, hOperand, hHead]
  cases lexicon.nearestSynonym? head with
  | none => rfl
  | some synonym => rfl

theorem filterIn?_amount
    {lexicon : Lexicon}
    {e : Operator × Phrase}
    (hMem : e ∈ phrases)
    {text : List Char}
    (hDigits : ∀ c ∈ text, Text.isDigit c = false)
    (n : Amount) :
    filterIn? lexicon (text ++ n.text) (e.1, e.2.pattern) =
      (e.2.headIn? text).bind fun head =>
        (lexicon.nearestSynonym? head).map fun synonym =>
          ⟨synonym.field, e.1, .number n.value⟩ := by
  rcases e with ⟨operator, phrase⟩
  unfold filterIn?
  cases hLead : phrase.lead? with
  | none =>
      have hNone :
          phrase.pattern.find (text ++ n.text) = none := by
        cases phrase with
        | trailing first second =>
            exact
              find_digits_blanks_eq_none
                (Phrase.trailing_splits first second) hDigits n
        | _ => cases hLead
      dsimp only
      rw [hNone, Phrase.headIn?, hLead]
      rfl
  | some lead =>
      have hFind :=
        find_lead_amount hLead
          (lead_precedesAmounts _ hMem lead hLead) hDigits n
      dsimp only
      cases hMatch : phrase.pattern.find (text ++ n.text) with
      | none =>
          rw [hMatch] at hFind
          rw [Option.map_eq_none_iff.mp hFind.symm]
          rfl
      | some found =>
          rw [hMatch] at hFind
          rcases Option.map_eq_some_iff.mp hFind.symm with
            ⟨head, hHead, hReading⟩
          rw [hHead]
          exact filterOf?_of_reading hReading.symm

/- No phrase passes the text from a place before it. -/
def Settles (text : List Char) : Prop :=
  ∀ e ∈ phrases, ∀ lead ∈ e.2.lead?,
    text.any lead.avoids = true

instance (text : List Char) : Decidable (Settles text) :=
  inferInstanceAs
    (Decidable
      (∀ e ∈ phrases, ∀ lead ∈ e.2.lead?,
        text.any lead.avoids = true))

theorem headIn?_append
    {phrase : Phrase}
    {text : List Char}
    (hSettles :
      ∀ lead ∈ phrase.lead?, text.any lead.avoids = true)
    (before : List Char) :
    phrase.headIn? (before ++ text) =
      (phrase.headIn? text).map (before ++ ·) := by
  unfold Phrase.headIn?
  cases hLead : phrase.lead? with
  | none => rfl
  | some lead =>
      rcases List.any_eq_true.mp (hSettles lead hLead) with
        ⟨c, hMem, hAvoids⟩
      rcases List.append_of_mem hMem with ⟨init, rest, rfl⟩
      have hMark :
          ∀ text, atEnd? (text ++ c :: rest) = none := by
        simp [atEnd?]
      dsimp only
      rw [← List.append_assoc, scout?_append hAvoids hMark,
        scout?_append hAvoids hMark]
      simp [Function.comp_def]

/- What settles a text settles it after any other text. -/
theorem headsIn_append
    {text : List Char}
    (hSettles : Settles text)
    (before : List Char) :
    headsIn (before ++ text) =
      (headsIn text).map fun found =>
        (found.1, before ++ found.2) := by
  unfold headsIn
  rw [List.map_filterMap]
  apply List.filterMap_congr
  intro e hMem
  rw [headIn?_append (hSettles e hMem), Option.map_map,
    Option.map_map]
  rfl

end Comparison

/-
  The comparisons of a prompt that ends with an amount, and
  has no other digits.
-/
theorem Prompt.comparisons_append
    (lexicon : Lexicon)
    {text : List Char}
    (hDigits : ∀ c ∈ text, Text.isDigit c = false)
    (n : Amount) :
    Prompt.comparisons ⟨text ++ n.text⟩ lexicon =
      (Comparison.headsIn text).filterMap fun found =>
        (lexicon.nearestSynonym? found.2).map fun synonym =>
          ⟨synonym.field, found.1, .number n.value⟩ := by
  unfold comparisons Comparison.headsIn
  rw [Comparison.patterns_eq, List.filterMap_map,
    List.filterMap_filterMap]
  apply List.filterMap_congr
  intro e hMem
  rw [Function.comp_apply,
    Comparison.filterIn?_amount hMem hDigits n]
  cases e.2.headIn? text with
  | none => rfl
  | some head => rfl

end Dashboard
