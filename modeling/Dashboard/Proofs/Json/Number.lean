import Dashboard.Json.Printer
import Dashboard.Json.Reader
import Dashboard.Proofs.Number.Notation
import Dashboard.Proofs.Reply.Object

/-
  Numbers in JSON texts: a numeral is read the same whatever
  value or bracket stands behind it, and integers of 64 bits
  are read as they were written.

  Main declarations:
    * `RawJson.EndsValue`
    * `RawJson.scanNumber_append`
    * `Double.ReadsBack`
    * `JsonNumber.Kept`
-/

------------------------------------------------------------
-- Ends Of Values
------------------------------------------------------------

namespace Dashboard

namespace RawJson

/- The characters that may follow a value without a space. -/
def closers : List Char :=
  [',', ']', '\x7d']

/- A value may end directly before this text. -/
def EndsValue (rest : List Char) : Prop :=
  ∀ c ∈ rest.head?, c ∈ closers

theorem endsValue_nil : EndsValue [] := by
  rintro c ⟨⟩

theorem endsValue_cons
    {c : Char}
    (hCloser : c ∈ closers)
    (rest : List Char) :
    EndsValue (c :: rest) := by
  rintro d ⟨⟩
  exact hCloser

theorem EndsValue.isDigit
    {rest : List Char}
    (hEnds : EndsValue rest) :
    ∀ c ∈ rest.head?, Text.isDigit c = false := by
  have hClosers :
      ∀ c ∈ closers, Text.isDigit c = false :=
    forall_of_all rfl
  intro c hHead
  exact hClosers c (hEnds c hHead)

end RawJson

end Dashboard

------------------------------------------------------------
-- Numerals Before A Rest
------------------------------------------------------------

namespace Dashboard

namespace RawJson

/- The rest does not lengthen a run of digits. -/
theorem takeWhile_isDigit_append
    (text : List Char)
    {rest : List Char}
    (hEnds : EndsValue rest) :
    (text ++ rest).takeWhile Text.isDigit =
      text.takeWhile Text.isDigit := by
  induction text with
  | nil =>
      cases rest with
      | nil => rfl
      | cons c tail =>
          have hFirst := hEnds.isDigit c rfl
          simp [hFirst]
  | cons c tail ih =>
      rw [List.cons_append, List.takeWhile_cons,
        List.takeWhile_cons, ih]

theorem dropWhile_isDigit_append
    (text : List Char)
    {rest : List Char}
    (hEnds : EndsValue rest) :
    (text ++ rest).dropWhile Text.isDigit =
      text.dropWhile Text.isDigit ++ rest := by
  induction text with
  | nil =>
      cases rest with
      | nil => rfl
      | cons c tail =>
          have hFirst := hEnds.isDigit c rfl
          simp [hFirst]
  | cons c tail ih =>
      rw [List.cons_append, List.dropWhile_cons,
        List.dropWhile_cons, ih]
      split
      · rfl
      · rfl

theorem scanWhole_append
    {text digits after rest : List Char}
    (hScan : scanWhole text = some (digits, after))
    (hEnds : EndsValue rest) :
    scanWhole (text ++ rest) = some (digits, after ++ rest)
    := by
  unfold scanWhole at hScan ⊢
  dsimp only at hScan ⊢
  rw [takeWhile_isDigit_append text hEnds,
    dropWhile_isDigit_append text hEnds]
  split at hScan
  · cases hScan
  · cases hScan
  · cases hScan
    rfl

theorem scanFraction_point (text : List Char) :
    scanFraction ('.' :: text) =
      if (text.takeWhile Text.isDigit).isEmpty then
        none
      else
        some
          (some (text.takeWhile Text.isDigit),
            text.dropWhile Text.isDigit) := rfl

theorem scanFraction_of_head?_ne
    {text : List Char}
    (hPoint : text.head? ≠ some '.') :
    scanFraction text = some (none, text) := by
  unfold scanFraction
  split
  · exact absurd rfl hPoint
  · rfl

theorem scanFraction_append
    {text after rest : List Char}
    {fraction : Option (List Char)}
    (hScan : scanFraction text = some (fraction, after))
    (hEnds : EndsValue rest) :
    scanFraction (text ++ rest) =
      some (fraction, after ++ rest) := by
  cases text with
  | nil =>
      cases hScan
      apply scanFraction_of_head?_ne
      intro hPoint
      have hCloser := hEnds '.' hPoint
      revert hCloser
      decide
  | cons c tail =>
      by_cases hPoint : c = '.'
      · subst hPoint
        rw [scanFraction_point] at hScan
        rw [List.cons_append, scanFraction_point,
          takeWhile_isDigit_append tail hEnds,
          dropWhile_isDigit_append tail hEnds]
        split at hScan
        · cases hScan
        · rename_i hDigits
          cases hScan
          rw [if_neg hDigits]
      · have hHead : ∀ more, (c :: more).head? ≠ some '.' :=
          fun _ hHead => hPoint (Option.some.inj hHead)
        rw [scanFraction_of_head?_ne (hHead tail)] at hScan
        cases hScan
        exact scanFraction_of_head?_ne (hHead (tail ++ rest))

theorem scanExponentDigits_append
    {negative : Bool}
    {text after rest : List Char}
    {exponent : Option Int}
    (hScan :
      scanExponentDigits negative text =
        some (exponent, after))
    (hEnds : EndsValue rest) :
    scanExponentDigits negative (text ++ rest) =
      some (exponent, after ++ rest) := by
  unfold scanExponentDigits at hScan ⊢
  dsimp only at hScan ⊢
  rw [takeWhile_isDigit_append text hEnds,
    dropWhile_isDigit_append text hEnds]
  split at hScan
  · cases hScan
  · rename_i hDigits
    cases hScan
    rw [if_neg hDigits]

theorem scanExponent_of_head?
    {text : List Char}
    (hMark : ∀ c ∈ text.head?, c ≠ 'e' ∧ c ≠ 'E') :
    scanExponent text = some (none, text) := by
  cases text with
  | nil => rfl
  | cons c tail =>
      have hFirst := hMark c rfl
      simp [scanExponent, hFirst]

theorem scanExponent_append
    {text after rest : List Char}
    {exponent : Option Int}
    (hScan : scanExponent text = some (exponent, after))
    (hEnds : EndsValue rest) :
    scanExponent (text ++ rest) =
      some (exponent, after ++ rest) := by
  cases text with
  | nil =>
      cases hScan
      apply scanExponent_of_head?
      intro c hHead
      have hClosers :
          ∀ c ∈ closers, c ≠ 'e' ∧ c ≠ 'E' :=
        forall_of_all rfl
      exact hClosers c (hEnds c hHead)
  | cons mark tail =>
      rw [List.cons_append]
      unfold scanExponent at hScan ⊢
      dsimp only at hScan ⊢
      by_cases hMark : (mark = 'e' || mark = 'E') = true
      · rw [if_pos hMark] at hScan ⊢
        cases tail with
        | nil => cases hScan
        | cons c digits =>
            rw [List.cons_append]
            split at hScan
            · rename_i hDigits
              cases hDigits
              exact scanExponentDigits_append hScan hEnds
            · rename_i hDigits
              cases hDigits
              exact scanExponentDigits_append hScan hEnds
            · rename_i hPlus hMinus
              have hDigits :=
                scanExponentDigits_append hScan hEnds
              split
              · rename_i hHead
                cases hHead
                exact absurd rfl (hPlus digits)
              · rename_i hHead
                cases hHead
                exact absurd rfl (hMinus digits)
              · exact hDigits
      · rw [if_neg hMark] at hScan ⊢
        cases hScan
        rfl

theorem scanMagnitude_append
    {negative : Bool}
    {text after rest : List Char}
    {numeral : Numeral}
    (hScan :
      scanMagnitude negative text = some (numeral, after))
    (hEnds : EndsValue rest) :
    scanMagnitude negative (text ++ rest) =
      some (numeral, after ++ rest) := by
  unfold scanMagnitude at hScan ⊢
  split at hScan
  · cases hScan
  · rename_i hWhole
    rw [scanWhole_append hWhole hEnds]
    split at hScan
    · cases hScan
    · rename_i hFraction
      dsimp only
      rw [scanFraction_append hFraction hEnds]
      split at hScan
      · cases hScan
      · rename_i hExponent
        dsimp only
        rw [scanExponent_append hExponent hEnds]
        cases hScan
        rfl

theorem scanNumber_of_head?_ne
    {text : List Char}
    (hMinus : text.head? ≠ some '-') :
    scanNumber text = scanMagnitude false text := by
  unfold scanNumber
  split
  · exact absurd rfl hMinus
  · rfl

/- A numeral is read the same before an end of its value. -/
theorem scanNumber_append
    {text after rest : List Char}
    {numeral : Numeral}
    (hScan : scanNumber text = some (numeral, after))
    (hEnds : EndsValue rest) :
    scanNumber (text ++ rest) = some (numeral, after ++ rest)
    := by
  cases text with
  | nil => cases hScan
  | cons c tail =>
      by_cases hMinus : c = '-'
      · subst hMinus
        exact scanMagnitude_append hScan hEnds
      · have hHead : ∀ more, (c :: more).head? ≠ some '-' :=
          fun _ hHead => hMinus (Option.some.inj hHead)
        rw [scanNumber_of_head?_ne (hHead tail)] at hScan
        rw [List.cons_append,
          scanNumber_of_head?_ne (hHead (tail ++ rest))]
        exact scanMagnitude_append hScan hEnds

end RawJson

end Dashboard

------------------------------------------------------------
-- Numbers As Values
------------------------------------------------------------

namespace Dashboard

namespace RawJson

theorem head_of_scanNumber
    {text after : List Char}
    {numeral : Numeral}
    (hScan : scanNumber text = some (numeral, after)) :
    ∃ c tail,
      text = c :: tail ∧
        (c = '-' ∨ Text.isDigit c = true) := by
  cases text with
  | nil => cases hScan
  | cons c tail =>
      refine ⟨c, tail, rfl, ?_⟩
      by_cases hMinus : c = '-'
      · exact .inl hMinus
      · by_cases hDigit : Text.isDigit c = true
        · exact .inr hDigit
        · rw [scanNumber_of_head?_ne (by simpa using hMinus)]
            at hScan
          simp [scanMagnitude, scanWhole, hDigit] at hScan

theorem isSpace_of_isNumberChar
    {c : Char}
    (hChar : NumberStyle.isNumberChar c = true) :
    isSpace c = false := by
  have hSpaces :
      ∀ d ∈ [' ', '\n', '\t', '\r'],
        NumberStyle.isNumberChar d = false :=
    forall_of_all rfl
  have hOther : c ∉ [' ', '\n', '\t', '\r'] := by
    intro hMem
    rw [hSpaces c hMem] at hChar
    cases hChar
  simpa [isSpace, and_assoc] using hOther

/- What starts like a number is read as a numeral. -/
theorem scanValue_of_isNumberChar
    (fuel : Nat)
    {c : Char}
    (hChar : NumberStyle.isNumberChar c = true)
    (tail : List Char) :
    scanValue (fuel + 1) (c :: tail) =
      (scanNumber (c :: tail)).map fun r =>
        (number r.1, r.2) := by
  have hSkip : skip (c :: tail) = c :: tail := by
    simp [skip, isSpace_of_isNumberChar hChar]
  rw [scanValue, hSkip]
  split
  case h_7 => rfl
  all_goals
    rename_i hText
    cases hText
    cases hChar

/- Where a numeral starts, the value is that numeral. -/
theorem scanValue_of_scanNumber
    (fuel : Nat)
    {text after : List Char}
    {numeral : Numeral}
    (hScan : scanNumber text = some (numeral, after)) :
    scanValue (fuel + 1) text = some (number numeral, after)
    := by
  rcases head_of_scanNumber hScan with
    ⟨c, tail, rfl, hHead⟩
  have hChar : NumberStyle.isNumberChar c = true := by
    rcases hHead with rfl | hDigit
    · rfl
    · exact NumberStyle.isNumberChar_of_isDigit hDigit
  rw [scanValue_of_isNumberChar fuel hChar, hScan]
  rfl

/- A value of such characters is a numeral. -/
theorem scanNumber_of_scanValue
    {fuel : Nat}
    {text after : List Char}
    {raw : RawJson}
    (hChars :
      ∀ c ∈ text, NumberStyle.isNumberChar c = true)
    (hScan :
      scanValue (fuel + 1) text = some (raw, after)) :
    ∃ numeral,
      raw = number numeral ∧
        scanNumber text = some (numeral, after) := by
  cases text with
  | nil => cases hScan
  | cons c tail =>
      rw [scanValue_of_isNumberChar fuel
        (hChars c List.mem_cons_self)] at hScan
      rcases Option.map_eq_some_iff.mp hScan with
        ⟨⟨numeral, rest⟩, hNumber, hResult⟩
      cases hResult
      exact ⟨numeral, rfl, hNumber⟩

end RawJson

end Dashboard

------------------------------------------------------------
-- Kept Numbers
------------------------------------------------------------

namespace Dashboard

/- A number is written as a numeral that is read as it. -/
def JsonNumber.Kept (n : JsonNumber) : Prop :=
  ∃ numeral,
    RawJson.scanNumber (Json.writeNumber n) =
        some (numeral, []) ∧
      ofNumeral? numeral = some n

/- Written as a JSON text, a finite number is read back. -/
def Double.ReadsBack (x : Double) : Prop :=
  x.isFinite = true →
    Json.parse? (Json.ofDouble x).print =
      some (Json.ofDouble x)

namespace RawJson

theorem scanWhole_digitsOf (n : Nat) :
    scanWhole (Decimal.digitsOf n) =
      some (Decimal.digitsOf n, []) := by
  have hDigits :
      ∀ c ∈ Decimal.digitsOf n, Text.isDigit c = true :=
    fun _ => Decimal.isDigit_of_mem_digitsOf
  have hTake :
      (Decimal.digitsOf n).takeWhile Text.isDigit =
        Decimal.digitsOf n :=
    List.takeWhile_eq_self_iff.mpr hDigits
  have hDrop :
      (Decimal.digitsOf n).dropWhile Text.isDigit = [] :=
    List.dropWhile_eq_nil_iff.mpr hDigits
  unfold scanWhole
  dsimp only
  rw [hTake, hDrop]
  split
  · rename_i hEmpty
    exact absurd hEmpty (Decimal.digitsOf_ne_nil n)
  · rename_i hZeros
    rcases Nat.eq_zero_or_pos n with rfl | hPositive
    · cases hZeros
    · have hHead := Decimal.head?_digitsOf hPositive
      rw [hZeros] at hHead
      exact absurd rfl hHead
  · rfl

theorem scanMagnitude_digitsOf
    (negative : Bool)
    (n : Nat) :
    scanMagnitude negative (Decimal.digitsOf n) =
      some (⟨negative, Decimal.digitsOf n, none, none⟩, [])
    := by
  rw [scanMagnitude, scanWhole_digitsOf]
  rfl

/- An integer is read as its sign and its digits. -/
theorem scanNumber_writeInteger (n : Int) :
    scanNumber (Json.writeInteger n) =
      some
        (⟨decide (n < 0), Decimal.digitsOf n.natAbs, none,
          none⟩, []) := by
  unfold Json.writeInteger
  by_cases hNegative : n < 0
  · rw [if_pos hNegative, decide_eq_true hNegative]
    exact scanMagnitude_digitsOf true n.natAbs
  · rw [if_neg hNegative, decide_eq_false hNegative]
    have hMinus :
        (Decimal.digitsOf n.natAbs).head? ≠ some '-' := by
      intro hHead
      have hDigit :=
        Decimal.isDigit_of_mem_digitsOf
          (List.mem_of_head? hHead)
      cases hDigit
    rw [List.nil_append, scanNumber_of_head?_ne hMinus]
    exact scanMagnitude_digitsOf false n.natAbs

/- A whole text of such characters is a numeral. -/
theorem scanNumber_of_read?
    {text : List Char}
    {raw : RawJson}
    (hChars :
      ∀ c ∈ text, NumberStyle.isNumberChar c = true)
    (hRead : read? text = some raw) :
    ∃ numeral,
      raw = number numeral ∧
        scanNumber text = some (numeral, []) := by
  unfold read? at hRead
  split at hRead
  · cases hRead
  · rename_i value after hScan
    split at hRead
    · rename_i hSkip
      cases hRead
      rcases scanNumber_of_scanValue hChars hScan with
        ⟨numeral, rfl, hNumber⟩
      refine ⟨numeral, rfl, ?_⟩
      cases after with
      | nil => exact hNumber
      | cons c tail =>
          rcases passes_of_scanNumber hNumber with
            ⟨taken, rfl, _⟩
          have hSpace :=
            isSpace_of_isNumberChar (hChars c (by simp))
          simp [skip, hSpace] at hSkip
    · cases hRead

end RawJson

namespace JsonNumber

/- An integer of 64 bits, with or without a sign, is kept. -/
theorem kept_integer
    {n : Int}
    (hLower : -0x8000000000000000 ≤ n)
    (hUpper : n < 0x10000000000000000) :
    (integer n).Kept := by
  refine ⟨_, RawJson.scanNumber_writeInteger n, ?_⟩
  have hInteger :
      Numeral.integer
          ⟨decide (n < 0), Decimal.digitsOf n.natAbs, none,
            none⟩ = n := by
    simp only [Numeral.integer, Decimal.valueOf_digitsOf,
      Binary.signed, decide_eq_true_eq]
    omega
  have hHolds :
      holdsInteger
          ⟨decide (n < 0), Decimal.digitsOf n.natAbs, none,
            none⟩ = true := by
    simp only [holdsInteger, hInteger]
    by_cases hNegative : n < 0
    · simp only [hNegative, decide_true, if_true,
        Bool.and_eq_true, bne_iff_ne, decide_eq_true_eq]
      omega
    · simp only [hNegative, decide_false,
        Bool.false_eq_true, if_false, decide_eq_true_eq]
      exact hUpper
  simp [ofNumeral?, Numeral.isInteger, hHolds, hInteger]

/- A finite number that is read back is kept. -/
theorem kept_float
    {x : Double}
    (hFinite : x.isFinite = true)
    (hReadsBack : x.ReadsBack) :
    (float x).Kept := by
  have hWrite :
      Json.writeNumber (float x) =
        NumberStyle.data.write x := by
    simp [Json.writeNumber, hFinite]
  have hChars :
      ∀ c ∈ Json.writeNumber (float x),
        NumberStyle.isNumberChar c = true := by
    rw [hWrite]
    exact fun _ => NumberStyle.isNumberChar_of_mem_write hFinite
  have hParse := hReadsBack hFinite
  unfold Json.parse? Json.print at hParse
  rw [String.toList_ofList] at hParse
  split at hParse
  · cases hParse
  · rename_i raw hRead
    rcases RawJson.scanNumber_of_read? hChars hRead with
      ⟨numeral, rfl, hScan⟩
    refine ⟨numeral, hScan, ?_⟩
    rcases Option.map_eq_some_iff.mp hParse with
      ⟨n, hNumber, hResult⟩
    cases hResult
    exact hNumber

end JsonNumber

end Dashboard
