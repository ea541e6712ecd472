import Dashboard.Proofs.Number.Order
import Dashboard.Proofs.Number.Overflow
import Dashboard.Proofs.Number.Whole
import Dashboard.Query.Engine

/-
  Operands that are texts and read as a number.  Such a text
  is compared as the number at its start, which is not always
  the number that it denotes: a text of blanks denotes zero
  and is compared as an undefined number, and a literal in
  another base is compared as zero whatever it denotes.

  Key definitions include:
    * `Operand.IsFaithful`

  Main declarations:
    * `Filter.admits_eq_of_asNumber?`
    * `Filter.admits_text_of_readsAsNumber`
-/

------------------------------------------------------------
-- Zero And The Undefined Number
------------------------------------------------------------

namespace Dashboard

namespace Binary

variable {f : FloatFormat}

theorem rank?_zero : (zero : Binary f).rank? = some 0 := by
  unfold zero ofUnits
  rw [dif_pos f.fits_zero]
  rfl

theorem rank?_ofUnits_ne_zero
    (negative : Bool)
    {units : Nat}
    (hPositive : 0 < units) :
    (ofUnits negative units : Binary f).rank? ≠ some 0 := by
  have hRange : 0 < Nat.pow 2 f.range := Nat.two_pow_pos _
  unfold ofUnits
  split
  · cases negative with
    | false => simp [rank?, signed, hPositive.ne']
    | true => simp [rank?, signed, hPositive.ne']
  · cases negative with
    | false => simp [rank?, signed]
    | true => simp [rank?, signed]

theorem ofNat_zero : (ofNat 0 : Binary f) = zero := by
  have hRound : f.roundQuotient 0 1 = 0 := by
    simp [FloatFormat.roundQuotient, divideToEven]
  have hNone : (0 : Int).natAbs * Nat.pow 2 f.scale = 0 :=
    Nat.zero_mul _
  unfold ofNat ofInt ofQuotient zero
  rw [Int.natCast_zero, hNone, hRound]
  rfl

/- Only zero is rounded to zero among natural numbers. -/
theorem equals_ofNat_zero
    (hPrecision : 0 < f.precision)
    {n : Nat}
    (hPositive : 0 < n) :
    (ofNat n : Binary f).equals zero = false := by
  have hUnits :
      0 < f.roundQuotient (n * Nat.pow 2 f.scale) 1 := by
    apply f.roundQuotient_pos hPrecision
    rw [Nat.div_one]
    exact Nat.mul_pos hPositive f.one_units_pos
  rw [← Bool.not_eq_true, equals_iff]
  rintro ⟨a, hNat, hZero⟩
  rw [rank?_zero] at hZero
  cases hZero
  exact rank?_ofUnits_ne_zero _ hUnits hNat

theorem equals_notANumber (x : Binary f) :
    x.equals .notANumber = false := by
  rw [← Bool.not_eq_true, equals_iff]
  rintro ⟨a, _, hUndefined⟩
  cases hUndefined

end Binary

end Dashboard

------------------------------------------------------------
-- Operands
------------------------------------------------------------

namespace Dashboard

namespace Operand

variable {text : String}

theorem asNumber?_of_readsAsNumber
    (hReads : readsAsNumber text = true) :
    asNumber? (.text text) =
      some ((floatPrefix? text).getD .notANumber) := by
  rw [asNumber?, if_pos hReads]

/- Blanks are compared as an undefined number. -/
theorem asNumber?_of_blank
    (hBlank : Text.trim text.toList = []) :
    asNumber? (.text text) = some .notANumber := by
  rw [asNumber?_of_readsAsNumber
    (readsAsNumber_iff.mpr (.inl hBlank)),
    floatPrefix?_of_blank hBlank, Option.getD_none]

/- A literal is compared as the number nearest to it. -/
theorem asNumber?_of_literal
    {literal : NumberLiteral}
    (hLiteral :
      NumberLiteral.scan (Text.trim text.toList) =
        some (literal, [])) :
    asNumber? (.text text) = some literal.value := by
  rw [asNumber?_of_readsAsNumber
    (readsAsNumber_iff.mpr (.inr (.inl ⟨_, hLiteral⟩))),
    floatPrefix?_of_literal hLiteral, Option.getD_some]

/- A literal in another base is compared as zero. -/
theorem asNumber?_of_based
    {n : Nat}
    (hBased :
      basedLiteral? (Text.trim text.toList) = some n) :
    asNumber? (.text text) = some .zero := by
  rw [asNumber?_of_readsAsNumber
    (readsAsNumber_iff.mpr (.inr (.inr ⟨_, hBased⟩))),
    floatPrefix?_of_based hBased, Option.getD_some]

/-
  A text that is compared as the number that it denotes: a
  literal, or zero in another base.
-/
def IsFaithful (text : String) : Prop :=
  isLiteral (Text.trim text.toList) = true ∨
    basedLiteral? (Text.trim text.toList) = some 0

theorem IsFaithful.asNumber?
    (hFaithful : IsFaithful text)
    {v : Double}
    (hDenotes : denotedNumber? text = some v) :
    Operand.asNumber? (.text text) = some v := by
  rcases hFaithful with hLiteral | hZero
  · rcases (isLiteral_iff _).mp hLiteral with
      ⟨literal, hScan⟩
    rw [asNumber?_of_literal hScan,
      ← denotedNumber?_of_literal hScan, hDenotes]
  · rw [asNumber?_of_based hZero, ← hDenotes,
      denotedNumber?_of_based hZero, Binary.ofNat_zero]

/-
  What equals the number that another text denotes does not
  equal the number that the text is compared as.
-/
theorem not_equals_of_not_isFaithful
    (hReads : readsAsNumber text = true)
    (hOther : ¬ IsFaithful text)
    {v compared x : Double}
    (hDenotes : denotedNumber? text = some v)
    (hCompared :
      Operand.asNumber? (.text text) = some compared)
    (hSame : x.equals v = true) :
    x.equals compared = false := by
  rcases readsAsNumber_iff.mp hReads with
    hBlank | ⟨literal, hLiteral⟩ | ⟨n, hBased⟩
  · rw [asNumber?_of_blank hBlank] at hCompared
    cases hCompared
    exact Binary.equals_notANumber x
  · exact
      absurd (.inl ((isLiteral_iff _).mpr ⟨_, hLiteral⟩))
        hOther
  · have hPositive : 0 < n := by
      apply Nat.pos_of_ne_zero
      rintro rfl
      exact hOther (.inr hBased)
    rw [asNumber?_of_based hBased, Option.some.injEq]
      at hCompared
    rw [denotedNumber?_of_based hBased, Option.some.injEq]
      at hDenotes
    subst hCompared hDenotes
    rw [← Bool.not_eq_true]
    intro hZero
    have hNone :=
      Binary.equals_ofNat_zero
        (f := .double) (by decide) hPositive
    rw [Binary.equals_of_equals hSame hZero] at hNone
    cases hNone

end Operand

end Dashboard

------------------------------------------------------------
-- Main Result
------------------------------------------------------------

namespace Dashboard

namespace Filter

/- Operands that are compared as one number are alike. -/
theorem admits_eq_of_asNumber?
    {first second : Operand}
    {x : Double}
    (hFirst : first.asNumber? = some x)
    (hSecond : second.asNumber? = some x)
    (field : String)
    (operator : Operator)
    (record : Record) :
    (⟨field, operator, first⟩ : Filter).admits record =
      (⟨field, operator, second⟩ : Filter).admits record := by
  simp [admits, admitsValue, hFirst, hSecond]

theorem admits_eq_of_number
    {record : Record}
    {field : String}
    {actual : Json}
    {x : Double}
    (hValue : record.value? field = some actual)
    (hNumber : actual.asNumber? = some x)
    {operand : Operand}
    {y : Double}
    (hOperand : operand.asNumber? = some y)
    (operator : Operator) :
    (⟨field, operator, operand⟩ : Filter).admits record =
      operator.holdsFor x y := by
  simp [admits, admitsValue, hValue, hNumber, hOperand]

/-
  A text that reads as a number denotes one.  A literal, and
  a zero in another base, filters like that number.  No other
  text does: a record that equals the number is not found by
  it.  Blanks filter like an undefined number instead, and a
  literal in another base like zero.
-/
theorem admits_text_of_readsAsNumber
    {text : String}
    (hReads : readsAsNumber text = true) :
    ∃ v,
      denotedNumber? text = some v ∧
        (Operand.IsFaithful text →
          ∀ field operator record,
            (⟨field, operator, .text text⟩ : Filter).admits
                record =
              (⟨field, operator, .number v⟩ : Filter).admits
                record) ∧
        (¬ Operand.IsFaithful text →
          ∀ field record actual x,
            Record.value? record field = some actual →
              actual.asNumber? = some x →
                x.equals v = true →
                  (⟨field, .eq, .number v⟩ : Filter).admits
                      record = true ∧
                    (⟨field, .eq, .text text⟩ : Filter).admits
                      record = false) ∧
        (Text.trim text.toList = [] →
          ∀ field operator record,
            (⟨field, operator, .text text⟩ : Filter).admits
                record =
              (⟨field, operator, .number .notANumber⟩ :
                  Filter).admits record) ∧
        ∀ n,
          basedLiteral? (Text.trim text.toList) = some n →
            v = .ofNat n ∧
              ∀ field operator record,
                (⟨field, operator, .text text⟩ :
                    Filter).admits record =
                  (⟨field, operator, .number .zero⟩ :
                      Filter).admits record := by
  have hDenotes : ∃ v, denotedNumber? text = some v := by
    rcases readsAsNumber_iff.mp hReads with
      hBlank | ⟨literal, hLiteral⟩ | ⟨n, hBased⟩
    · exact ⟨_, denotedNumber?_of_blank hBlank⟩
    · exact ⟨_, denotedNumber?_of_literal hLiteral⟩
    · exact ⟨_, denotedNumber?_of_based hBased⟩
  rcases hDenotes with ⟨v, hDenotes⟩
  refine ⟨v, hDenotes, ?_, ?_, ?_, ?_⟩
  · intro hFaithful
    exact
      admits_eq_of_asNumber? (hFaithful.asNumber? hDenotes) rfl
  · intro hOther field record actual x hValue hNumber hSame
    have hCompared :=
      Operand.asNumber?_of_readsAsNumber hReads
    have hNumberFilter :=
      admits_eq_of_number hValue hNumber
        (rfl : Operand.asNumber? (.number v) = some v) .eq
    have hTextFilter :=
      admits_eq_of_number hValue hNumber hCompared .eq
    rw [hNumberFilter, hTextFilter]
    exact
      ⟨hSame,
        Operand.not_equals_of_not_isFaithful hReads hOther
          hDenotes hCompared hSame⟩
  · intro hBlank
    exact
      admits_eq_of_asNumber? (Operand.asNumber?_of_blank hBlank)
        rfl
  · intro n hBased
    rw [denotedNumber?_of_based hBased] at hDenotes
    exact
      ⟨(Option.some.inj hDenotes).symm,
        admits_eq_of_asNumber?
          (Operand.asNumber?_of_based hBased) rfl⟩

/- A record with the size 31. -/
def sampleSized : Record :=
  [("size", .ofNat 31)]

/-
  The size is found by its number and not by its digits in
  base sixteen, and by its digits in base ten like a number.
-/
theorem admits_text_of_readsAsNumber_sized :
    (readsAsNumber "0x1F" = true ∧
        readsAsNumber " 31 " = true) ∧
      denotedNumber? "0x1F" = some (.ofNat 31) ∧
      (⟨"size", .eq, .number (.ofNat 31)⟩ : Filter).admits
          sampleSized = true ∧
      (⟨"size", .eq, .text "0x1F"⟩ : Filter).admits
          sampleSized = false ∧
      ∃ v,
        denotedNumber? " 31 " = some v ∧
          (⟨"size", .eq, .text " 31 "⟩ : Filter).admits
              sampleSized =
            (⟨"size", .eq, .number v⟩ : Filter).admits
              sampleSized := by
  have hReads : readsAsNumber "0x1F" = true := by decide
  have hBased :
      basedLiteral? (Text.trim "0x1F".toList) = some 31 := by
    decide
  have hOther : ¬ Operand.IsFaithful "0x1F" := by
    rintro (hLiteral | hZero)
    · exact absurd hLiteral (by decide)
    · rw [hBased] at hZero
      cases hZero
  have hSame :
      (.ofNat 31 : Double).equals (.ofNat 31) = true := by
    rcases Binary.exists_rank
        (Binary.ofInt_ne_notANumber (f := .double) 31) with
      ⟨a, hRank⟩
    exact (Binary.equals_iff _ _).mpr ⟨a, hRank, hRank⟩
  have hDecimal : readsAsNumber " 31 " = true := by decide
  have hFaithful : Operand.IsFaithful " 31 " :=
    .inl (by decide)
  rcases admits_text_of_readsAsNumber hReads with
    ⟨v, hDenotes, _, hMissed, _, hValue⟩
  rw [(hValue 31 hBased).1] at hDenotes hMissed
  rcases admits_text_of_readsAsNumber hDecimal with
    ⟨w, hNumber, hFound, _⟩
  have hRecord :
      Record.value? sampleSized "size" = some (.ofNat 31) :=
    rfl
  have hNumberOf :
      (Json.ofNat 31).asNumber? = some (.ofNat 31) :=
    rfl
  rcases hMissed hOther "size" sampleSized _ _ hRecord
      hNumberOf hSame with
    ⟨hByNumber, hByText⟩
  exact
    ⟨⟨hReads, hDecimal⟩, hDenotes, hByNumber, hByText, w,
      hNumber, hFound hFaithful _ _ _⟩

end Filter

end Dashboard
