import Dashboard.Proofs.Number.Literal
import Dashboard.Query.Engine

/-
  Amounts as they are written in a prompt: digits, and maybe
  more digits after a point.

  Key definitions include:
    * `Digits`
    * `Amount`
    * `Amount.text`
    * `Amount.value`

  Main declarations:
    * `Amount.scan_text`
    * `Amount.asNumber?_written`
-/

------------------------------------------------------------
-- Amounts
------------------------------------------------------------

namespace Dashboard

/- At least one digit. -/
structure Digits where
  chars : List Char
  ne_nil : chars ≠ []
  isDigit : ∀ c ∈ chars, Text.isDigit c = true

theorem Digits.exists_last (digits : Digits) :
    ∃ init d,
      digits.chars = init ++ [d] ∧ Text.isDigit d = true := by
  refine
    ⟨digits.chars.dropLast, digits.chars.getLast digits.ne_nil,
      (List.dropLast_append_getLast digits.ne_nil).symm, ?_⟩
  exact digits.isDigit _ (List.getLast_mem digits.ne_nil)

/- A whole number, maybe with decimal places. -/
structure Amount where
  whole : Digits
  places : Option Digits

namespace Amount

/- The digits after the point. -/
def fraction (n : Amount) : List Char :=
  match n.places with
  | none => []
  | some digits => digits.chars

/- The point with the digits after it, if there are any. -/
def pointed (n : Amount) : List Char :=
  match n.places with
  | none => []
  | some digits => '.' :: digits.chars

/- An amount as it is written. -/
def text (n : Amount) : List Char :=
  n.whole.chars ++ n.pointed

/- The same as a string. -/
def written (n : Amount) : String :=
  String.ofList n.text

/- The number nearest to an amount. -/
def value (n : Amount) : Double :=
  .ofDecimal false
    ⟨Decimal.valueOf (n.whole.chars ++ n.fraction),
      -(n.fraction.length : Int)⟩

/- An amount without its decimal places. -/
def floor (n : Amount) : Amount :=
  ⟨n.whole, none⟩

theorem text_floor (n : Amount) :
    n.floor.text = n.whole.chars :=
  List.append_nil _

/- The first character of an amount is a digit. -/
theorem exists_first (n : Amount) :
    ∃ d rest, n.text = d :: rest ∧ Text.isDigit d = true := by
  rcases List.exists_cons_of_ne_nil n.whole.ne_nil with
    ⟨d, rest, hWhole⟩
  refine ⟨d, rest ++ n.pointed, ?_, ?_⟩
  · rw [text, hWhole, List.cons_append]
  · apply n.whole.isDigit
    rw [hWhole]
    exact List.mem_cons_self

/- The last character of an amount is a digit. -/
theorem exists_last (n : Amount) :
    ∃ init d,
      n.text = init ++ [d] ∧ Text.isDigit d = true := by
  unfold text pointed
  cases n.places with
  | none =>
      rw [List.append_nil]
      exact Digits.exists_last n.whole
  | some digits =>
      rcases Digits.exists_last digits with
        ⟨init, d, hDigits, hDigit⟩
      refine ⟨n.whole.chars ++ '.' :: init, d, ?_, hDigit⟩
      simp [hDigits]

theorem text_ne_nil (n : Amount) : n.text ≠ [] := by
  rcases n.exists_first with ⟨d, rest, hText, _⟩
  rw [hText]
  exact List.cons_ne_nil _ _

/- An amount consists of digits and maybe a point. -/
theorem isDigit_or_point_of_mem
    {n : Amount}
    {c : Char}
    (hMem : c ∈ n.text) :
    Text.isDigit c = true ∨ c = '.' := by
  rcases List.mem_append.mp hMem with hWhole | hPointed
  · exact .inl (n.whole.isDigit c hWhole)
  · unfold pointed at hPointed
    split at hPointed
    · cases hPointed
    · rcases List.mem_cons.mp hPointed with hPoint | hDigit
      · exact .inr hPoint
      · exact .inl (Digits.isDigit _ c hDigit)

theorem head?_pointed (n : Amount) :
    ∀ c ∈ n.pointed.head?, c = '.' := by
  intro c hHead
  unfold pointed at hHead
  split at hHead
  · cases hHead
  · cases hHead
    rfl

end Amount

end Dashboard

------------------------------------------------------------
-- Reading
------------------------------------------------------------

namespace Dashboard

namespace Amount

open NumberLiteral

theorem scanPlaces_text (n : Amount) :
    scanPlaces n.text =
      some (n.whole.chars, n.fraction, []) := by
  have hWhole :
      scanDigits n.text = (n.whole.chars, n.pointed) := by
    apply scanDigits_append n.whole.isDigit
    intro c hHead
    rw [n.head?_pointed c hHead]
    rfl
  have hSome : n.whole.chars.isEmpty = false :=
    List.isEmpty_eq_false_iff.mpr n.whole.ne_nil
  unfold scanPlaces
  rw [hWhole]
  dsimp only
  unfold pointed fraction
  cases n.places with
  | none => simp [hSome]
  | some digits =>
      have hDigits :
          scanDigits digits.chars = (digits.chars, []) := by
        have hAppend :=
          scanDigits_append digits.isDigit
            (fun c (hHead : c ∈ ([] : List Char).head?) => by
              cases hHead)
        rwa [List.append_nil] at hAppend
      simp [hDigits, hSome]

/- An amount is a literal from start to end. -/
theorem scan_text (n : Amount) :
    scan n.text =
      some
        (⟨false, .decimal n.whole.chars n.fraction 0⟩,
          []) := by
  rcases n.exists_first with ⟨d, rest, hText, hDigit⟩
  have hInfinity :
      "Infinity".toList.isPrefixOf n.text = false := by
    have hFirst : ('I' == d) = false :=
      beq_eq_false_iff_ne.mpr
        (Text.ne_of_isDigit hDigit rfl).symm
    rw [hText]
    simp [List.isPrefixOf, hFirst]
  have hSign : scanSign n.text = (false, n.text) := by
    rw [hText]
    exact scanSign_of_isDigit hDigit rest
  unfold scan
  rw [hSign]
  dsimp only
  unfold scanBody
  dsimp only
  rw [hInfinity, n.scanPlaces_text]
  rfl

theorem value_of_literal (n : Amount) :
    (⟨false, .decimal n.whole.chars n.fraction 0⟩ :
        NumberLiteral).value =
      n.value := by
  simp [NumberLiteral.value, value]

theorem trim_text (n : Amount) : Text.trim n.text = n.text := by
  have hLeft : Text.trimLeft n.text = n.text := by
    rcases n.exists_first with ⟨d, rest, hText, hDigit⟩
    rw [hText]
    exact Text.trimLeft_of_isDigit hDigit rest
  have hRight :
      Text.trimLeft n.text.reverse = n.text.reverse := by
    rcases n.exists_last with ⟨init, d, hText, hDigit⟩
    rw [hText, List.reverse_append, List.reverse_singleton,
      List.singleton_append]
    exact Text.trimLeft_of_isDigit hDigit _
  rw [Text.trim, hLeft, hRight, List.reverse_reverse]

/- The text of an amount is compared as its number. -/
theorem asNumber?_written (n : Amount) :
    Operand.asNumber? (.text n.written) = some n.value := by
  have hReads : readsAsNumber n.written = true := by
    have hLiteral : isLiteral n.text = true := by
      rw [isLiteral, n.scan_text]
    unfold readsAsNumber written
    rw [String.toList_ofList, n.trim_text]
    dsimp only
    rw [hLiteral, Bool.or_true, Bool.true_or]
  have hPrefix : floatPrefix? n.written = some n.value := by
    rcases n.exists_first with ⟨d, rest, hText, hDigit⟩
    have hLeft : Text.trimLeft n.text = n.text := by
      rw [hText]
      exact Text.trimLeft_of_isDigit hDigit rest
    unfold floatPrefix? written
    rw [String.toList_ofList, hLeft, n.scan_text,
      ← n.value_of_literal]
  rw [Operand.asNumber?, if_pos hReads, hPrefix]
  rfl

end Amount

end Dashboard
