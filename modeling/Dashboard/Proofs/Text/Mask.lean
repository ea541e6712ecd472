import Dashboard.Proofs.Text.LetterCase
import Dashboard.Text.Blank
import Dashboard.Text.Search

/-
  Texts whose digits are masked.  What treats all digits
  alike cannot tell a text from its masked form, and a phrase
  without digits stands in both at the same places.

  Key definitions include:
    * `Text.mask`
    * `Text.ignoresDigits`
    * `Text.AlikeButDigits`

  Main declarations:
    * `Text.mask_eq_of_alikeButDigits`
    * `Text.occurs_mask`
    * `Text.words_mask`
    * `Text.lowercase_mask`
-/

------------------------------------------------------------
-- Masks
------------------------------------------------------------

namespace Dashboard.Text

/- Every digit becomes a zero. -/
def maskDigit (c : Char) : Char :=
  if isDigit c then '0' else c

/- A text with all its digits masked. -/
def mask (text : List Char) : List Char :=
  text.map maskDigit

/- Two texts that differ in digits only, place by place. -/
def AlikeButDigits : List Char → List Char → Prop :=
  List.Forall₂ fun c d =>
    c = d ∨ isDigit c = true ∧ isDigit d = true

@[simp] theorem mask_nil : mask [] = [] := rfl

@[simp] theorem mask_cons
    (c : Char)
    (rest : List Char) :
    mask (c :: rest) = maskDigit c :: mask rest := rfl

@[simp] theorem length_mask (text : List Char) :
    (mask text).length = text.length :=
  List.length_map maskDigit

theorem maskDigit_of_not_isDigit
    {c : Char}
    (hDigit : isDigit c = false) :
    maskDigit c = c := by
  simp [maskDigit, hDigit]

/- Texts that differ in digits only have the same mask. -/
theorem mask_eq_of_alikeButDigits
    {text other : List Char}
    (hAlike : AlikeButDigits text other) :
    mask text = mask other := by
  induction hAlike with
  | nil => rfl
  | cons hFirst _ ih =>
      rw [mask_cons, mask_cons, ih]
      rcases hFirst with rfl | ⟨hLeft, hRight⟩
      · rfl
      · simp [maskDigit, hLeft, hRight]

end Dashboard.Text

------------------------------------------------------------
-- Classes Of Characters
------------------------------------------------------------

namespace Dashboard.Text

/- A class that has all digits or none of them. -/
def ignoresDigits (accepts : Char → Bool) : Bool :=
  digits.all fun d => accepts d == accepts '0'

theorem apply_maskDigit
    {accepts : Char → Bool}
    (hIgnores : ignoresDigits accepts = true)
    (c : Char) :
    accepts (maskDigit c) = accepts c := by
  unfold maskDigit
  split
  · rename_i hDigit
    have hSame :=
      List.all_eq_true.mp hIgnores c
        (mem_digits_of_isDigit hDigit)
    exact (beq_iff_eq.mp hSame).symm
  · rfl

theorem isBlank_maskDigit (c : Char) :
    isBlank (maskDigit c) = isBlank c :=
  apply_maskDigit (by decide) c

/- Words have the same edges when their digits are masked. -/
theorem isEdge_mask (left right : Option Char) :
    isEdge (left.map maskDigit) (right.map maskDigit) =
      isEdge left right := by
  have hWord :
      ∀ c, isWord (maskDigit c) = isWord c :=
    apply_maskDigit (by decide)
  unfold isEdge
  rw [Option.any_map, Option.any_map]
  simp only [hWord]

end Dashboard.Text

------------------------------------------------------------
-- Phrases Without Digits
------------------------------------------------------------

namespace Dashboard.Text

/- A text without digits. -/
def digitFree (text : List Char) : Bool :=
  text.all fun c => !isDigit c

variable {phrase : List Char}

theorem eq_maskDigit_iff
    {c d : Char}
    (hFree : isDigit c = false) :
    c = maskDigit d ↔ c = d := by
  unfold maskDigit
  split
  · rename_i hDigit
    have hZero : c ≠ '0' := (ne_of_isDigit rfl hFree).symm
    have hOther : c ≠ d := (ne_of_isDigit hDigit hFree).symm
    simp [hZero, hOther]
  · rfl

/- A phrase without digits starts a text or its mask. -/
theorem isPrefixOf_mask
    (hFree : digitFree phrase = true)
    (text : List Char) :
    phrase.isPrefixOf (mask text) = phrase.isPrefixOf text := by
  induction phrase generalizing text with
  | nil => simp
  | cons c more ih =>
      cases text with
      | nil => rfl
      | cons d rest =>
          have hBoth :
              isDigit c = false ∧ digitFree more = true := by
            simpa [digitFree] using hFree
          have hSame : (c == maskDigit d) = (c == d) := by
            rw [Bool.eq_iff_iff, beq_iff_eq, beq_iff_eq]
            exact eq_maskDigit_iff hBoth.1
          rw [mask_cons, List.isPrefixOf_cons_cons,
            List.isPrefixOf_cons_cons, hSame,
            ih hBoth.2 rest]

/- A phrase without digits is a text or its mask. -/
theorem eq_mask_iff
    (hFree : digitFree phrase = true)
    (text : List Char) :
    phrase = mask text ↔ phrase = text := by
  have hPrefix : phrase <+: mask text ↔ phrase <+: text := by
    rw [← List.isPrefixOf_iff_prefix,
      ← List.isPrefixOf_iff_prefix, isPrefixOf_mask hFree]
  constructor
  · intro hMask
    apply (hPrefix.mp (by simp [hMask])).eq_of_length
    rw [hMask, length_mask]
  · intro hText
    apply (hPrefix.mpr (by simp [hText])).eq_of_length
    rw [hText, length_mask]

/- A phrase without digits occurs in a text or its mask. -/
theorem occurs_mask
    (hFree : digitFree phrase = true)
    (text : List Char) :
    occurs phrase (mask text) = occurs phrase text := by
  induction text with
  | nil => rfl
  | cons c rest ih =>
      have hHere := isPrefixOf_mask hFree (c :: rest)
      rw [mask_cons] at hHere ⊢
      rw [occurs, occurs, hHere, ih]

/- The last place of the phrase is the same in both. -/
theorem lastOccurrence_mask
    (hFree : digitFree phrase = true)
    (text : List Char) :
    lastOccurrence phrase (mask text) =
      lastOccurrence phrase text := by
  induction text with
  | nil => rfl
  | cons c rest ih =>
      have hHere := isPrefixOf_mask hFree (c :: rest)
      rw [mask_cons] at hHere ⊢
      rw [lastOccurrence, lastOccurrence, hHere, ih]

end Dashboard.Text

------------------------------------------------------------
-- Words
------------------------------------------------------------

namespace Dashboard.Text

theorem isEmpty_mask (text : List Char) :
    (mask text).isEmpty = text.isEmpty :=
  List.isEmpty_map

theorem reverse_mask (text : List Char) :
    (mask text).reverse = mask text.reverse :=
  List.map_reverse.symm

theorem wordsAfter_mask (word text : List Char) :
    wordsAfter (mask word) (mask text) =
      (wordsAfter word text).map mask := by
  induction text generalizing word with
  | nil =>
      rw [mask_nil, wordsAfter, wordsAfter, isEmpty_mask,
        reverse_mask]
      split
      · rfl
      · rfl
  | cons c rest ih =>
      have hStart := ih []
      have hMore := ih (c :: word)
      rw [mask_nil] at hStart
      rw [mask_cons] at hMore ⊢
      rw [wordsAfter, wordsAfter, isBlank_maskDigit,
        isEmpty_mask, reverse_mask, hMore, hStart]
      split
      · split
        · rfl
        · rfl
      · rfl

/- A masked text has the words of the text, masked. -/
theorem words_mask (text : List Char) :
    words (mask text) = (words text).map mask :=
  wordsAfter_mask [] text

end Dashboard.Text

------------------------------------------------------------
-- Lowercase
------------------------------------------------------------

namespace Dashboard.Text

set_option maxRecDepth 2000 in
/- The table maps every code point beyond the digits. -/
theorem lt_image :
    ∀ r ∈ lowercaseRanges, 57 < r.offset + r.first := by
  decide

/- Only digits become digits. -/
theorem isDigit_lowercaseChar (c : Char) :
    isDigit (lowercaseChar c) = isDigit c := by
  unfold lowercaseChar
  split
  · rename_i hAscii
    have hSame :=
      forall_ascii
        (p := fun c => isDigit c.toLower == isDigit c)
        rfl hAscii
    exact beq_iff_eq.mp hSame
  · rename_i hAscii
    have hBeyond : isDigit c = false := by
      rw [← Bool.not_eq_true, isDigit_iff]
      omega
    cases hFind :
        lowercaseRanges.find? (·.covers c.toNat) with
    | none => rfl
    | some r =>
        have hImage :=
          lt_image r (List.mem_of_find?_eq_some hFind)
        have hFirst : r.first ≤ c.toNat := by
          have hCovers := List.find?_some hFind
          simp [CaseRange.covers] at hCovers
          exact hCovers.1.1
        rw [hBeyond, ← Bool.not_eq_true, isDigit_iff]
        dsimp only
        rcases toNat_ofNat (r.offset + c.toNat).toNat with
          hCode | hNull
        · omega
        · omega

theorem isCased_maskDigit (c : Char) :
    isCased (maskDigit c) = isCased c :=
  apply_maskDigit (by decide) c

theorem isCaseIgnorable_maskDigit (c : Char) :
    isCaseIgnorable (maskDigit c) = isCaseIgnorable c :=
  apply_maskDigit (by decide) c

theorem startsCased_mask (text : List Char) :
    startsCased (mask text) = startsCased text :=
  startsCased_map isCased_maskDigit isCaseIgnorable_maskDigit
    text

/- What is no digit becomes nothing that is masked. -/
theorem mask_lowercaseAt
    {c : Char}
    (hDigit : isDigit c = false)
    (before after : List Char) :
    mask (lowercaseAt before c after) =
      lowercaseAt before c after := by
  have hChar : isDigit (lowercaseChar c) = false := by
    rw [isDigit_lowercaseChar, hDigit]
  unfold lowercaseAt
  split
  · rfl
  · split
    · split
      · rfl
      · rfl
    · simp [mask, maskDigit_of_not_isDigit hChar]

theorem lowercaseAt_mask
    (before : List Char)
    (c : Char)
    (after : List Char) :
    lowercaseAt (mask before) (maskDigit c) (mask after) =
      mask (lowercaseAt before c after) := by
  by_cases hDigit : isDigit c = true
  · have hMask : maskDigit c = '0' := by
      simp [maskDigit, hDigit]
    have hZero : isLower '0' = true := rfl
    rw [lowercaseAt_of_isLower (isLower_of_isDigit hDigit),
      hMask, lowercaseAt_of_isLower hZero, mask,
      List.map_singleton, hMask]
  · rw [Bool.not_eq_true] at hDigit
    rw [mask_lowercaseAt hDigit,
      maskDigit_of_not_isDigit hDigit]
    unfold lowercaseAt
    rw [startsCased_mask, startsCased_mask]

/- Masks pass through the lowercase form. -/
theorem lowercase_mask (text : List Char) :
    lowercase (mask text) = mask (lowercase text) :=
  lowercaseAfter_map lowercaseAt_mask [] text

end Dashboard.Text
