import Dashboard.Proofs.Text.LetterCase
import Dashboard.Text.Blank

/-
  Blanks and words: what is trimmed are blanks, the words of
  a text have no blanks in them, a text without blanks is one
  word, and the lowercase form of a text has its blanks where
  the text has them.

  Key definitions include:
    * `Text.blankGaps`

  Main declarations:
    * `Text.exists_trimLeft_eq_append`
    * `Text.trim_eq_nil_iff`
    * `Text.not_isBlank_of_mem_words`
    * `Text.words_eq_singleton`
    * `Text.isBlank_lowercaseChar_of_not_isBlank`
    * `Text.not_isBlank_of_mem_lowercase`
    * `Text.mem_lowercase_of_isBlank`
    * `Text.words_lowercase_eq_singleton`
-/

------------------------------------------------------------
-- Trimming
------------------------------------------------------------

namespace Dashboard.Text

/- What is trimmed at the end of a text are blanks. -/
theorem exists_trimLeft_eq_append (text : List Char) :
    ∃ blanks,
      trimLeft text = trim text ++ blanks ∧
        ∀ c ∈ blanks, isBlank c = true := by
  refine
    ⟨((trimLeft text).reverse.takeWhile isBlank).reverse,
      ?_, ?_⟩
  · have hParts :=
      List.takeWhile_append_dropWhile (p := isBlank)
        (l := (trimLeft text).reverse)
    rw [trim, ← List.reverse_append]
    unfold trimLeft at hParts ⊢
    rw [hParts, List.reverse_reverse]
  · intro c hMem
    rw [List.mem_reverse] at hMem
    exact List.mem_takeWhile_imp hMem

/- Nothing is left of a text that holds only blanks. -/
theorem trim_eq_nil_iff (text : List Char) :
    trim text = [] ↔ ∀ c ∈ text, isBlank c = true := by
  unfold trim trimLeft
  rw [List.reverse_eq_nil_iff, List.dropWhile_eq_nil_iff]
  simp only [List.mem_reverse]
  constructor
  · intro hRest c hMem
    rw [← List.takeWhile_append_dropWhile (p := isBlank)
      (l := text), List.mem_append] at hMem
    rcases hMem with hFirst | hLast
    · exact List.mem_takeWhile_imp hFirst
    · exact hRest c hLast
  · intro hText c hMem
    exact hText c ((List.dropWhile_suffix _).subset hMem)

end Dashboard.Text

------------------------------------------------------------
-- Words
------------------------------------------------------------

namespace Dashboard.Text

theorem not_isBlank_of_mem_wordsAfter
    {word text found : List Char}
    (hWord : ∀ c ∈ word, isBlank c = false)
    (hMem : found ∈ wordsAfter word text) :
    ∀ c ∈ found, isBlank c = false := by
  have hReverse : ∀ c ∈ word.reverse, isBlank c = false := by
    intro c hChar
    exact hWord c (List.mem_reverse.mp hChar)
  have hNone := List.forall_mem_nil fun c => isBlank c = false
  induction text generalizing word with
  | nil =>
      rw [wordsAfter] at hMem
      split at hMem
      · cases hMem
      · rw [List.mem_singleton.mp hMem]
        exact hReverse
  | cons c rest ih =>
      rw [wordsAfter] at hMem
      split at hMem
      · split at hMem
        · exact ih hNone hMem hNone
        · rcases List.mem_cons.mp hMem with rfl | hRest
          · exact hReverse
          · exact ih hNone hRest hNone
      · rename_i hChar
        rw [Bool.not_eq_true] at hChar
        have hLonger :
            ∀ d ∈ c :: word, isBlank d = false :=
          List.forall_mem_cons.mpr ⟨hChar, hWord⟩
        apply ih hLonger hMem
        intro d hMember
        exact hLonger d (List.mem_reverse.mp hMember)

/- There is no blank in a word. -/
theorem not_isBlank_of_mem_words
    {text word : List Char}
    (hMem : word ∈ words text) :
    ∀ c ∈ word, isBlank c = false :=
  not_isBlank_of_mem_wordsAfter (List.forall_mem_nil _) hMem

theorem wordsAfter_eq_singleton
    {word text : List Char}
    (hText : ∀ c ∈ text, isBlank c = false)
    (hSome : word.reverse ++ text ≠ []) :
    wordsAfter word text = [word.reverse ++ text] := by
  induction text generalizing word with
  | nil =>
      have hWord : word.isEmpty = false := by
        simpa using hSome
      simp [wordsAfter, hWord]
  | cons c rest ih =>
      rw [List.forall_mem_cons] at hText
      rw [wordsAfter, hText.1, if_neg Bool.false_ne_true,
        ih hText.2 (by simp)]
      simp

/- A text without blanks is one word. -/
theorem words_eq_singleton
    {text : List Char}
    (hText : ∀ c ∈ text, isBlank c = false)
    (hSome : text ≠ []) :
    words text = [text] :=
  wordsAfter_eq_singleton hText hSome

end Dashboard.Text

------------------------------------------------------------
-- Blanks In Lowercase
------------------------------------------------------------

namespace Dashboard.Text

/-
  What lies between blanks next to each other, beyond those
  of ASCII up to the last code point.
-/
def blankGaps : List (Nat × Nat) :=
  [(0x20, 0x85), (0xA0, 0x1680), (0x1680, 0x2000),
    (0x205F, 0x3000), (0x3000, 0x110000)]

/- The ranges that change have no blanks in them. -/
theorem exists_gap_changing :
    ∀ r ∈ changing, ∃ gap ∈ blankGaps,
      gap.1 < r.first ∧ r.last < gap.2 := by
  decide +kernel

/- The table maps each of its ranges between two blanks. -/
theorem exists_gap_image :
    ∀ r ∈ lowercaseRanges, ∃ gap ∈ blankGaps,
      (gap.1 : Int) < r.offset + r.first ∧
        r.offset + r.last < gap.2 := by
  decide +kernel

theorem not_isBlank_of_gap
    {gap : Nat × Nat}
    (hGap : gap ∈ blankGaps)
    {c : Char}
    (hFirst : gap.1 < c.toNat)
    (hLast : c.toNat < gap.2) :
    isBlank c = false := by
  simp only [blankGaps, List.mem_cons, List.not_mem_nil,
    or_false] at hGap
  rw [← Bool.not_eq_true]
  simp only [isBlank, Bool.or_eq_true, Bool.and_eq_true,
    decide_eq_true_eq, beq_iff_eq]
  rcases hGap with rfl | rfl | rfl | rfl | rfl
  all_goals
    dsimp only at hFirst hLast
    omega

/- A blank has no other lowercase. -/
theorem isSettled_of_isBlank
    {c : Char}
    (hBlank : isBlank c = true) :
    isSettled c = true := by
  rw [isSettled_iff]
  intro r hMem
  rcases exists_gap_changing r hMem with
    ⟨gap, hGap, hFirst, hLast⟩
  rw [← Bool.not_eq_true]
  intro hCovers
  simp only [CaseRange.covers, Bool.and_eq_true,
    decide_eq_true_eq] at hCovers
  have hOther : isBlank c = false := by
    apply not_isBlank_of_gap hGap
    · omega
    · omega
  rw [hBlank] at hOther
  cases hOther

theorem isBlank_lowercaseChar_of_not_isBlank
    {c : Char}
    (hChar : isBlank c = false) :
    isBlank (lowercaseChar c) = false := by
  unfold lowercaseChar
  split
  · rename_i hAscii
    have hSame :=
      forall_ascii
        (p := fun c => isBlank c.toLower == isBlank c)
        rfl hAscii
    rw [beq_iff_eq.mp hSame, hChar]
  · cases hFind :
        lowercaseRanges.find? (·.covers c.toNat) with
    | none => exact hChar
    | some r =>
        have hTable := List.mem_of_find?_eq_some hFind
        have hCovers := List.find?_some hFind
        simp only [CaseRange.covers, Bool.and_eq_true,
          decide_eq_true_eq] at hCovers
        rcases exists_gap_image r hTable with
          ⟨gap, hGap, hFirst, hLast⟩
        dsimp only
        rcases toNat_ofNat (r.offset + c.toNat).toNat with
          hCode | hNull
        · apply not_isBlank_of_gap hGap
          · omega
          · omega
        · simp [isBlank, hNull]

/- What becomes of other characters are no blanks. -/
theorem not_isBlank_of_mem_lowercaseAt
    {before after : List Char}
    {c d : Char}
    (hChar : isBlank c = false)
    (hMem : d ∈ lowercaseAt before c after) :
    isBlank d = false := by
  unfold lowercaseAt at hMem
  split at hMem
  · simp only [List.mem_cons, List.not_mem_nil, or_false]
      at hMem
    rcases hMem with rfl | rfl
    · rfl
    · rfl
  · split at hMem
    · split at hMem
      · rw [List.mem_singleton.mp hMem]
        rfl
      · rw [List.mem_singleton.mp hMem]
        rfl
    · rw [List.mem_singleton.mp hMem]
      exact isBlank_lowercaseChar_of_not_isBlank hChar

end Dashboard.Text

------------------------------------------------------------
-- Whole Texts
------------------------------------------------------------

namespace Dashboard.Text

theorem not_isBlank_of_mem_lowercaseAfter
    {before text : List Char}
    (hText : ∀ c ∈ text, isBlank c = false)
    {d : Char}
    (hMem : d ∈ lowercaseAfter before text) :
    isBlank d = false := by
  induction text generalizing before with
  | nil => cases hMem
  | cons c rest ih =>
      rw [List.forall_mem_cons] at hText
      rcases List.mem_append.mp hMem with hFirst | hRest
      · exact not_isBlank_of_mem_lowercaseAt hText.1 hFirst
      · exact ih hText.2 hRest

/- A text without blanks has none in its lowercase form. -/
theorem not_isBlank_of_mem_lowercase
    {text : List Char}
    (hText : ∀ c ∈ text, isBlank c = false) :
    ∀ d ∈ lowercase text, isBlank d = false :=
  fun _ hMem => not_isBlank_of_mem_lowercaseAfter hText hMem

theorem mem_lowercaseAfter_of_isBlank
    {text : List Char}
    {c : Char}
    (hBlank : isBlank c = true)
    (hMem : c ∈ text)
    (before : List Char) :
    c ∈ lowercaseAfter before text := by
  induction text generalizing before with
  | nil => cases hMem
  | cons first rest ih =>
      rw [lowercaseAfter, List.mem_append]
      rcases List.mem_cons.mp hMem with rfl | hRest
      · left
        rw [lowercaseAt_of_isSettled
          (isSettled_of_isBlank hBlank)]
        exact List.mem_singleton_self c
      · exact .inr (ih hRest _)

/- The blanks of a text stay in its lowercase form. -/
theorem mem_lowercase_of_isBlank
    {text : List Char}
    {c : Char}
    (hBlank : isBlank c = true)
    (hMem : c ∈ text) :
    c ∈ lowercase text :=
  mem_lowercaseAfter_of_isBlank hBlank hMem []

theorem lowercaseAt_ne_nil
    (before : List Char)
    (c : Char)
    (after : List Char) :
    lowercaseAt before c after ≠ [] := by
  unfold lowercaseAt
  split
  · exact List.cons_ne_nil _ _
  · split
    · split
      · exact List.cons_ne_nil _ _
      · exact List.cons_ne_nil _ _
    · exact List.cons_ne_nil _ _

/- No character is lost in the lowercase form. -/
theorem lowercase_ne_nil
    {text : List Char}
    (hSome : text ≠ []) :
    lowercase text ≠ [] := by
  cases text with
  | nil => exact absurd rfl hSome
  | cons c rest =>
      intro hNone
      exact lowercaseAt_ne_nil [] c rest
        (List.append_eq_nil_iff.mp hNone).1

/- The lowercase of a word is a word. -/
theorem words_lowercase_eq_singleton
    {text : List Char}
    (hText : ∀ c ∈ text, isBlank c = false)
    (hSome : text ≠ []) :
    words (lowercase text) = [lowercase text] :=
  words_eq_singleton (not_isBlank_of_mem_lowercase hText)
    (lowercase_ne_nil hSome)

end Dashboard.Text
