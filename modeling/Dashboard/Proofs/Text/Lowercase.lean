import Dashboard.Proofs.Number.Amount
import Dashboard.Proofs.Number.Notation
import Dashboard.Record.Basic
import Dashboard.Text.Lowercase

/-
  Texts that are in lowercase already, among them those that
  numbers are written as, and changes of characters that pass
  through the lowercase form.

  Key definitions include:
    * `Text.isLower`
    * `Json.isNumberLetter`

  Main declarations:
    * `Text.lowercase_of_isLower`
    * `Text.lowercase_append_blank`
    * `Text.lowercaseAfter_map`
    * `Json.isNumberLetter_of_mem_asText`
-/

------------------------------------------------------------
-- Lowercase Texts
------------------------------------------------------------

namespace Dashboard.Text

/- The ASCII characters other than capital letters. -/
def isLower (c : Char) : Bool :=
  c.toNat < 128 && c.toLower == c

/- An ASCII character has a fixed lowercase. -/
theorem lowercaseAt_of_ascii
    {c : Char}
    (hAscii : c.toNat < 128)
    (before after : List Char) :
    lowercaseAt before c after = [c.toLower] := by
  have hDotted : c ≠ 'İ' := by
    rintro rfl
    exact absurd hAscii (by decide)
  have hSigma : c ≠ 'Σ' := by
    rintro rfl
    exact absurd hAscii (by decide)
  rw [lowercaseAt, if_neg hDotted, if_neg hSigma,
    lowercaseChar, if_pos hAscii]

theorem lowercaseAt_of_isLower
    {c : Char}
    (hLower : isLower c = true)
    (before after : List Char) :
    lowercaseAt before c after = [c] := by
  rw [isLower, Bool.and_eq_true, decide_eq_true_eq, beq_iff_eq]
    at hLower
  rw [lowercaseAt_of_ascii hLower.1, hLower.2]

theorem lowercaseAfter_of_isLower
    {text : List Char}
    (hLower : ∀ c ∈ text, isLower c = true)
    (before : List Char) :
    lowercaseAfter before text = text := by
  induction text generalizing before with
  | nil => rfl
  | cons c rest ih =>
      rw [List.forall_mem_cons] at hLower
      rw [lowercaseAfter, lowercaseAt_of_isLower hLower.1,
        ih hLower.2]
      rfl

/- Nothing changes in a text that is in lowercase. -/
theorem lowercase_of_isLower
    {text : List Char}
    (hLower : ∀ c ∈ text, isLower c = true) :
    lowercase text = text :=
  lowercaseAfter_of_isLower hLower []

theorem lower_of_isLower
    {text : String}
    (hLower : ∀ c ∈ text.toList, isLower c = true) :
    lower text = text := by
  rw [lower, lowercase_of_isLower hLower,
    String.ofList_toList]

end Dashboard.Text

------------------------------------------------------------
-- Texts Before A Blank
------------------------------------------------------------

namespace Dashboard.Text

/- A blank ends a word, as the end of a text does. -/
theorem startsCased_append_blank (text rest : List Char) :
    startsCased (text ++ ' ' :: rest) = startsCased text := by
  unfold startsCased
  induction text with
  | nil => rfl
  | cons c more ih =>
      rw [List.cons_append, List.dropWhile_cons,
        List.dropWhile_cons]
      split
      · exact ih
      · rfl

theorem lowercaseAt_append_blank
    (before : List Char)
    (c : Char)
    (after rest : List Char) :
    lowercaseAt before c (after ++ ' ' :: rest) =
      lowercaseAt before c after := by
  unfold lowercaseAt
  rw [startsCased_append_blank]

/- What stands before a blank has a lowercase of its own. -/
theorem lowercaseAfter_append_blank
    (before text rest : List Char) :
    lowercaseAfter before (text ++ ' ' :: rest) =
      lowercaseAfter before text ++
        ' ' :: lowercaseAfter (' ' :: (text.reverse ++ before))
          rest := by
  induction text generalizing before with
  | nil => rfl
  | cons c more ih =>
      rw [List.cons_append, lowercaseAfter, lowercaseAfter,
        lowercaseAt_append_blank, ih]
      simp

theorem lowercase_append_blank
    (text : List Char)
    {rest : List Char}
    (hLower : ∀ c ∈ rest, isLower c = true) :
    lowercase (text ++ ' ' :: rest) =
      lowercase text ++ ' ' :: rest := by
  unfold lowercase
  rw [lowercaseAfter_append_blank,
    lowercaseAfter_of_isLower hLower]

end Dashboard.Text

------------------------------------------------------------
-- Texts With Other Characters
------------------------------------------------------------

namespace Dashboard.Text

variable {f g : Char → Char}

/- Only the kinds of the characters matter to a place. -/
theorem startsCased_map
    (hCased : ∀ c, isCased (f c) = isCased c)
    (hIgnorable :
      ∀ c, isCaseIgnorable (f c) = isCaseIgnorable c)
    (text : List Char) :
    startsCased (text.map f) = startsCased text := by
  have hSame : isCaseIgnorable ∘ f = isCaseIgnorable := by
    funext c
    exact hIgnorable c
  unfold startsCased
  rw [List.dropWhile_map, hSame, List.head?_map]
  cases (text.dropWhile isCaseIgnorable).head? with
  | none => rfl
  | some c => simp [hCased]

/-
  A change of characters passes through the lowercase form
  if it does so at every place.
-/
theorem lowercaseAfter_map
    (hAt :
      ∀ before c after,
        lowercaseAt (before.map f) (f c) (after.map f) =
          (lowercaseAt before c after).map g)
    (before text : List Char) :
    lowercaseAfter (before.map f) (text.map f) =
      (lowercaseAfter before text).map g := by
  induction text generalizing before with
  | nil => rfl
  | cons c rest ih =>
      rw [List.map_cons, lowercaseAfter, lowercaseAfter,
        hAt, ← List.map_cons, ih, List.map_append]

end Dashboard.Text

------------------------------------------------------------
-- Texts Of Numbers
------------------------------------------------------------

namespace Dashboard

open NumberStyle

/- What stands in numbers, and in the `null` for others. -/
def Json.isNumberLetter (c : Char) : Bool :=
  isNumberChar c || c == 'n' || c == 'u' || c == 'l'

theorem NumberStyle.isNumberChar_of_mem_writeInteger
    {n : Int}
    {c : Char}
    (hMem : c ∈ Json.writeInteger n) :
    isNumberChar c = true := by
  rcases List.mem_append.mp hMem with hSign | hDigit
  · split at hSign
    · rw [List.mem_singleton.mp hSign]
      rfl
    · cases hSign
  · exact isNumberChar_of_mem_digitsOf hDigit

namespace Json

theorem isNumberLetter_of_isNumberChar
    {c : Char}
    (hChar : isNumberChar c = true) :
    isNumberLetter c = true := by
  simp [isNumberLetter, hChar]

theorem isNumberLetter_of_mem_writeNumber
    {n : JsonNumber}
    {c : Char}
    (hMem : c ∈ writeNumber n) :
    isNumberLetter c = true := by
  cases n with
  | integer n =>
      exact
        isNumberLetter_of_isNumberChar
          (isNumberChar_of_mem_writeInteger hMem)
  | float x =>
      rw [writeNumber] at hMem
      split at hMem
      · rename_i hFinite
        exact
          isNumberLetter_of_isNumberChar
            (isNumberChar_of_mem_write hFinite hMem)
      · simp only [List.mem_cons, List.not_mem_nil, or_false]
          at hMem
        rcases hMem with rfl | rfl | rfl | rfl
        all_goals rfl

theorem isNumberLetter_of_mem_floatText
    {x : Double}
    {c : Char}
    (hMem : c ∈ (floatText x).toList) :
    isNumberLetter c = true := by
  have hPrint :
      c ∈ (number (.float x)).print.toList →
        isNumberLetter c = true := by
    intro hMem
    rw [print, String.toList_ofList, write] at hMem
    exact isNumberLetter_of_mem_writeNumber hMem
  unfold floatText at hMem
  split at hMem
  · split at hMem
    · rw [String.toList_ofList] at hMem
      exact
        isNumberLetter_of_isNumberChar
          (isNumberChar_of_mem_writeInteger hMem)
    · exact hPrint hMem
  · exact hPrint hMem

/- A number is compared as a text of these letters. -/
theorem isNumberLetter_of_mem_asText
    {n : JsonNumber}
    {c : Char}
    (hMem : c ∈ (number n).asText.toList) :
    isNumberLetter c = true := by
  cases n with
  | integer n =>
      have hText :
          (number (.integer n)).asText =
            String.ofList (writeNumber (.integer n)) := rfl
      rw [hText, String.toList_ofList] at hMem
      exact isNumberLetter_of_mem_writeNumber hMem
  | float x => exact isNumberLetter_of_mem_floatText hMem

end Json

namespace Text

theorem isLower_of_isDigit
    {c : Char}
    (hDigit : isDigit c = true) :
    isLower c = true := by
  have hDigits : ∀ d ∈ digits, isLower d = true :=
    List.all_eq_true.mp rfl
  exact hDigits c (mem_digits_of_isDigit hDigit)

theorem isLower_of_isNumberLetter
    {c : Char}
    (hLetter : Json.isNumberLetter c = true) :
    isLower c = true := by
  simp only [Json.isNumberLetter, isNumberChar,
    Bool.or_eq_true, beq_iff_eq] at hLetter
  rcases hLetter with
    ((((((hDigit | rfl) | rfl) | rfl) | rfl) | rfl) | rfl) | rfl
  · exact isLower_of_isDigit hDigit
  all_goals decide

end Text

theorem Amount.isLower_of_mem_text
    {n : Amount}
    {c : Char}
    (hMem : c ∈ n.text) :
    Text.isLower c = true := by
  rcases n.isDigit_or_point_of_mem hMem with hDigit | rfl
  · exact Text.isLower_of_isDigit hDigit
  · decide

end Dashboard
