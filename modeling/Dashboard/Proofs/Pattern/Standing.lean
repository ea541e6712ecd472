import Dashboard.Proofs.Pattern.Seam

/-
  Words that stand alone.  A pattern between two word edges
  fits where a text that it takes has no word character next
  to it.  In a text with a character that belongs to no word,
  a word stands on one side of it or on the other.

  Key definitions include:
    * `Text.Stands`

  Main declarations:
    * `Text.stands_append_cons`
    * `Pattern.exists_stands_of_fits`
    * `Pattern.fits_of_stands`
-/

------------------------------------------------------------
-- Standing Alone
------------------------------------------------------------

namespace Dashboard

namespace Text

/- The characters are all of a word. -/
def IsWordy (word : List Char) : Prop :=
  word ≠ [] ∧ ∀ c ∈ word, isWord c = true

/- A part of a text without word characters next to it. -/
def Stands (part text : List Char) : Prop :=
  ∃ init rest,
    text = init ++ (part ++ rest) ∧
      (∀ c ∈ init.getLast?, isWord c = false) ∧
      ∀ c ∈ rest.head?, isWord c = false

theorem Stands.isInfix
    {part text : List Char}
    (hStands : Stands part text) :
    part <:+: text := by
  rcases hStands with ⟨init, rest, rfl, _, _⟩
  exact ⟨init, rest, List.append_assoc _ _ _⟩

variable {word : List Char}

/- In a text of word characters, a word is all there is. -/
theorem stands_iff_eq
    (hWord : IsWordy word)
    {text : List Char}
    (hText : ∀ c ∈ text, isWord c = true) :
    Stands word text ↔ text = word := by
  constructor
  · rintro ⟨init, rest, rfl, hInit, hRest⟩
    have hNil : init = [] := by
      by_contra hSome
      have hLast := List.getLast?_eq_getLast_of_ne_nil hSome
      have hOut := hInit _ hLast
      rw [hText _ (List.mem_append_left _
        (List.getLast_mem hSome))] at hOut
      cases hOut
    have hEnd : rest = [] := by
      cases rest with
      | nil => rfl
      | cons c more =>
          have hOut := hRest c rfl
          rw [hText c (by simp)] at hOut
          cases hOut
    rw [hNil, hEnd, List.nil_append, List.append_nil]
  · rintro rfl
    exact ⟨[], [], by simp, by simp, by simp⟩

/- A text may go on behind a character that is no letter. -/
theorem Stands.append_cons
    {part text : List Char}
    (hStands : Stands part text)
    {c : Char}
    (hOther : isWord c = false)
    (rest : List Char) :
    Stands part (text ++ c :: rest) := by
  rcases hStands with ⟨init, last, rfl, hInit, hLast⟩
  refine ⟨init, last ++ c :: rest, by simp, hInit, ?_⟩
  intro d hHead
  cases last with
  | nil =>
      obtain rfl : c = d := Option.some.inj hHead
      exact hOther
  | cons e more => exact hLast d hHead

/- Or it may start before one. -/
theorem Stands.cons_append
    {part rest : List Char}
    (hStands : Stands part rest)
    {c : Char}
    (hOther : isWord c = false)
    (text : List Char) :
    Stands part (text ++ c :: rest) := by
  rcases hStands with ⟨init, last, rfl, hInit, hLast⟩
  refine ⟨text ++ c :: init, last, by simp, ?_, hLast⟩
  intro d hEnd
  rw [List.getLast?_append, List.getLast?_cons] at hEnd
  obtain rfl : init.getLast?.getD c = d :=
    Option.some.inj hEnd
  cases hInner : init.getLast? with
  | none => exact hOther
  | some e => exact hInit e hInner

/- A word stands on one side of any other character. -/
theorem Stands.of_append_cons
    (hWord : IsWordy word)
    {c : Char}
    (hOther : isWord c = false)
    {text rest : List Char}
    (hStands : Stands word (text ++ c :: rest)) :
    Stands word text ∨ Stands word rest := by
  have hNotMem : c ∉ word := by
    intro hMem
    rw [hWord.2 c hMem] at hOther
    cases hOther
  rcases hStands with ⟨init, last, hText, hInit, hLast⟩
  rcases List.append_eq_append_iff.mp hText with
    ⟨between, rfl, hRest⟩ | ⟨between, rfl, hRest⟩
  · -- The word starts behind the text.
    cases between with
    | nil =>
        rcases List.exists_cons_of_ne_nil hWord.1 with
          ⟨d, more, rfl⟩
        obtain ⟨rfl, -⟩ := List.cons.inj hRest
        exact absurd List.mem_cons_self hNotMem
    | cons d more =>
        obtain ⟨rfl, rfl⟩ := List.cons.inj hRest
        refine .inr ⟨more, last, rfl, ?_, hLast⟩
        intro e hEnd
        apply hInit e
        rw [List.getLast?_append, List.getLast?_cons,
          Option.mem_def.mp hEnd]
        rfl
  · -- The word starts in the text, and so it ends there.
    rcases List.append_eq_append_iff.mp hRest with
      ⟨inner, rfl, hMore⟩ | ⟨inner, hSplit, hMore⟩
    · refine .inl ⟨init, inner, rfl, hInit, ?_⟩
      intro d hHead
      apply hLast d
      rw [hMore, List.head?_append, Option.mem_def.mp hHead]
      rfl
    · cases inner with
      | nil =>
          rw [List.append_nil] at hSplit
          subst hSplit
          exact .inl ⟨init, [], by simp, hInit, by simp⟩
      | cons d more =>
          obtain ⟨rfl, -⟩ := List.cons.inj hMore
          exact absurd (hSplit ▸ by simp) hNotMem

theorem stands_append_cons
    (hWord : IsWordy word)
    {c : Char}
    (hOther : isWord c = false)
    (text rest : List Char) :
    Stands word (text ++ c :: rest) ↔
      Stands word text ∨ Stands word rest := by
  constructor
  · exact Stands.of_append_cons hWord hOther
  · rintro (hText | hRest)
    · exact hText.append_cons hOther rest
    · exact hRest.cons_append hOther text

theorem not_stands_nil
    (hWord : IsWordy word) :
    ¬ Stands word [] := by
  rw [stands_iff_eq hWord (by simp)]
  exact hWord.1.symm

/- So it does where a text goes on without a word character. -/
theorem stands_append
    (hWord : IsWordy word)
    {rest : List Char}
    (hRest : ∀ c ∈ rest.head?, isWord c = false)
    (text : List Char) :
    Stands word (text ++ rest) ↔
      Stands word text ∨ Stands word rest := by
  cases rest with
  | nil =>
      rw [List.append_nil, or_iff_left (not_stands_nil hWord)]
  | cons c more =>
      have hNil := not_stands_nil hWord
      have hMore :=
        stands_append_cons hWord (hRest c rfl) [] more
      rw [List.nil_append, or_iff_right hNil] at hMore
      rw [stands_append_cons hWord (hRest c rfl), hMore]

end Text

end Dashboard

------------------------------------------------------------
-- Patterns Between Edges
------------------------------------------------------------

namespace Dashboard

namespace Pattern

variable {pattern body : Pattern}

/- A pattern fits in a text if it fits at a place of it. -/
theorem fits_of_matchAt
    {init after : List Char}
    (hHere : pattern.matchAt ⟨init.reverse, after⟩ ≠ none) :
    pattern.fits (init ++ after) = true := by
  have hFind :
      ∀ before,
        pattern.matchAt ⟨init.reverse ++ before, after⟩ ≠
            none →
          pattern.findAfter before (init ++ after) ≠ none := by
    clear hHere
    induction init with
    | nil =>
        intro before hPlace
        rw [List.reverse_nil, List.nil_append] at hPlace
        rcases Option.ne_none_iff_exists'.mp hPlace with
          ⟨found, hFound⟩
        rw [List.nil_append, findAfter_of_matchAt hFound]
        exact Option.some_ne_none found
    | cons c more ih =>
        intro before hPlace
        rw [List.reverse_cons, List.append_assoc] at hPlace
        rw [List.cons_append, findAfter]
        split
        · exact Option.some_ne_none _
        · exact ih (c :: before) hPlace
  rw [fits, Option.isSome_iff_ne_none]
  exact hFind [] (by rwa [List.append_nil])

/- A text that starts and ends with a word character. -/
def HasWordEnds (taken : List Char) : Prop :=
  (∃ c ∈ taken.head?, Text.isWord c = true) ∧
    ∃ c ∈ taken.getLast?, Text.isWord c = true

/- Where such a pattern fits, a text that it takes stands. -/
theorem exists_stands_of_fits
    (hSplits : pattern.Splits edge (both body edge))
    {text : List Char}
    (hEnds :
      ∀ taken, body.Takes taken → taken <:+: text →
        HasWordEnds taken)
    (hFits : pattern.fits text = true) :
    ∃ taken, body.Takes taken ∧ Text.Stands taken text := by
  rcases Option.isSome_iff_exists.mp hFits with
    ⟨found, hFound⟩
  rcases exists_of_findAfter_eq_some hFound with
    ⟨place, ⟨init, hText, hBefore⟩, hMatch⟩
  rw [List.append_nil] at hBefore
  rw [matchAt, hSplits, follow_edge] at hMatch
  split at hMatch
  · rename_i hLeft
    rw [follow_both] at hMatch
    rcases body.exists_of_follow_eq_some hMatch with
      ⟨taken, stop, _, hPasses, hTakes, _, _, hStop⟩
    rw [follow_edge] at hStop
    split at hStop
    · rename_i hRight
      have hWhole :
          text = init ++ (taken ++ stop.after) := by
        rw [← hPasses.1]
        exact hText
      have hInfix : taken <:+: text :=
        ⟨init, stop.after, by rw [hWhole, List.append_assoc]⟩
      rcases hEnds taken hTakes hInfix with
        ⟨⟨c, hHead, hFirst⟩, d, hTail, hLast⟩
      rw [Option.mem_def] at hHead hTail
      refine
        ⟨taken, hTakes, init, stop.after, hWhole, ?_, ?_⟩
      · intro e hEnd
        rw [hPasses.1, hBefore, List.head?_reverse,
          List.head?_append, hHead, Option.some_or,
          Text.isEdge, Option.any_some, hFirst,
          Option.mem_def.mp hEnd, Option.any_some] at hLeft
        simpa using hLeft
      · intro e hNext
        rw [hPasses.2, List.head?_append, List.head?_reverse,
          hTail, Option.some_or, Text.isEdge, Option.any_some,
          hLast, Option.mem_def.mp hNext, Option.any_some]
          at hRight
        simpa using hRight
    · cases hStop
  · cases hMatch

/- A text that the pattern follows fits where it stands. -/
theorem fits_of_stands
    (hSplits : pattern.Splits edge (both body edge))
    {taken : List Char}
    (hEnds : HasWordEnds taken)
    (hFollow :
      ∀ before rest (next : Place → List Span → Option Match),
        body.follow ⟨before, taken ++ rest⟩ [] next =
          next ⟨taken.reverse ++ before, rest⟩ [])
    {text : List Char}
    (hStands : Text.Stands taken text) :
    pattern.fits text = true := by
  rcases hStands with ⟨init, rest, rfl, hInit, hRest⟩
  rcases hEnds with
    ⟨⟨c, hHead, hFirst⟩, d, hTail, hLast⟩
  rw [Option.mem_def] at hHead hTail
  have hAny :
      ∀ side : Option Char,
        (∀ e ∈ side, Text.isWord e = false) →
          side.any Text.isWord = false := by
    rintro (_ | e) hSide
    · rfl
    · exact hSide e rfl
  have hLeft :
      Text.isEdge init.reverse.head?
          (taken ++ rest).head? =
        true := by
    rw [List.head?_reverse, List.head?_append, hHead,
      Text.isEdge, hAny _ hInit, Option.some_or,
      Option.any_some, hFirst]
    rfl
  have hRight :
      Text.isEdge (taken.reverse ++ init.reverse).head?
          rest.head? =
        true := by
    rw [List.head?_append, List.head?_reverse, hTail,
      Text.isEdge, hAny _ hRest, Option.some_or,
      Option.any_some, hLast]
    rfl
  apply fits_of_matchAt
  rw [matchAt, hSplits, follow_edge, if_pos hLeft, follow_both,
    hFollow, follow_edge, if_pos hRight]
  exact Option.some_ne_none _

end Pattern

end Dashboard
