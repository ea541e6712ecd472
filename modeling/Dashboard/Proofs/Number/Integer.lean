import Dashboard.Proofs.Number.Grammar
import Mathlib.Data.List.Induction

/-
  Integers at the start of texts.  However many digits there
  are, what they say is read, or the nearest integer that 64
  bits can hold.

  Key definitions include:
    * `NumberLiteral.SpellsInteger`
    * `Text.LeadsWith`

  Main declarations:
    * `integerOfDigits?_eq_fitting?`
    * `getD_integerOfDigits?`
    * `Text.exists_leadsWith_of_isPrefix`
    * `integerPrefix?_of_leadsWith`
    * `integerPrefix?_eq_none`
    * `exists_leadsWith_of_integerPrefix?_eq_some`
    * `integerPrefix?_digitsOf`
-/

------------------------------------------------------------
-- Integers That Fit
------------------------------------------------------------

namespace Dashboard

namespace Binary

theorem signed_add
    (negative : Bool)
    (m n : Nat) :
    signed negative (m + n) =
      signed negative m + signed negative n := by
  cases negative with
  | true =>
      simp only [signed, ite_true]
      omega
  | false => rfl

theorem signed_mul
    (negative : Bool)
    (m n : Nat) :
    signed negative (m * n) = m * signed negative n := by
  cases negative with
  | true =>
      simp only [signed, ite_true]
      rw [Nat.cast_mul, Int.mul_neg]
  | false => rfl

end Binary

theorem clampInteger_eq_self_iff {n : Int} :
    clampInteger n = n ↔
      leastInteger ≤ n ∧ n ≤ greatestInteger := by
  unfold clampInteger leastInteger greatestInteger
  omega

theorem fitting?_eq_some
    {n : Int}
    (hFits : clampInteger n = n) :
    fitting? n = some n :=
  if_pos hFits

theorem fitting?_eq_none
    {n : Int}
    (hFits : clampInteger n ≠ n) :
    fitting? n = none :=
  if_neg hFits

/- What is nearer to zero on the same side fits too. -/
theorem clampInteger_signed_of_le
    {negative : Bool}
    {m n : Nat}
    (hLe : m ≤ n)
    (hFits :
      clampInteger (Binary.signed negative n) =
        Binary.signed negative n) :
    clampInteger (Binary.signed negative m) =
      Binary.signed negative m := by
  rw [clampInteger_eq_self_iff] at hFits ⊢
  unfold leastInteger greatestInteger at hFits ⊢
  cases negative with
  | true =>
      simp only [Binary.signed, ite_true] at hFits ⊢
      omega
  | false =>
      simp only [Binary.signed, Bool.false_eq_true, ite_false]
        at hFits ⊢
      omega

/-
  A digit leads away from zero, so ten times an integer fits
  wherever the sum does, and only the sum counts.
-/
theorem appendDigit?_signed
    (negative : Bool)
    (n : Nat)
    (digit : Char) :
    appendDigit? negative (Binary.signed negative n) digit =
      fitting?
        (Binary.signed negative
          (10 * n + (digit.toNat - 48))) := by
  have hTens :
      10 * Binary.signed negative n =
        Binary.signed negative (10 * n) :=
    (Binary.signed_mul negative 10 n).symm
  unfold appendDigit?
  rw [hTens]
  by_cases hFits :
      clampInteger (Binary.signed negative (10 * n)) =
        Binary.signed negative (10 * n)
  · rw [fitting?_eq_some hFits]
    dsimp only
    rw [Binary.signed_add]
  · have hSumFits :
        clampInteger
            (Binary.signed negative
              (10 * n + (digit.toNat - 48))) ≠
          Binary.signed negative
            (10 * n + (digit.toNat - 48)) :=
      fun hOther =>
        hFits
          (clampInteger_signed_of_le (Nat.le_add_right _ _)
            hOther)
    rw [fitting?_eq_none hFits, fitting?_eq_none hSumFits]

/-
  Digits are read exactly if what they say fits.  The
  induction appends a digit at the end: what does not fit
  before it does not fit with it either.
-/
theorem integerOfDigits?_eq_fitting?
    (negative : Bool)
    (digits : List Char) :
    integerOfDigits? negative digits =
      fitting?
        (Binary.signed negative (Decimal.valueOf digits)) := by
  induction digits using List.reverseRecOn with
  | nil => cases negative <;> rfl
  | append_singleton init digit ih =>
      have hStep :
          integerOfDigits? negative (init ++ [digit]) =
            (integerOfDigits? negative init).bind
              (appendDigit? negative · digit) := by
        unfold integerOfDigits?
        rw [List.foldlM_append]
        simp
      rw [hStep, ih, Decimal.valueOf_append]
      by_cases hFits :
          clampInteger
              (Binary.signed negative (Decimal.valueOf init)) =
            Binary.signed negative (Decimal.valueOf init)
      · rw [fitting?_eq_some hFits, Option.bind_some,
          appendDigit?_signed]
      · rw [fitting?_eq_none hFits, Option.bind_none,
          fitting?_eq_none]
        intro hOther
        apply hFits
        exact clampInteger_signed_of_le (by omega) hOther

/-
  Where digits do not fit, the sign tells which of the bounds
  they have passed.
-/
theorem getD_integerOfDigits?
    (negative : Bool)
    (digits : List Char) :
    (integerOfDigits? negative digits).getD
        (if negative then leastInteger else greatestInteger) =
      clampInteger
        (Binary.signed negative (Decimal.valueOf digits)) := by
  rw [integerOfDigits?_eq_fitting?]
  by_cases hFits :
      clampInteger
          (Binary.signed negative (Decimal.valueOf digits)) =
        Binary.signed negative (Decimal.valueOf digits)
  · rw [fitting?_eq_some hFits, Option.getD_some, hFits]
  · rw [fitting?_eq_none hFits, Option.getD_none]
    rw [clampInteger_eq_self_iff] at hFits
    unfold leastInteger greatestInteger at hFits ⊢
    unfold clampInteger leastInteger greatestInteger
    cases negative with
    | true =>
        simp only [Binary.signed, ite_true] at hFits ⊢
        omega
    | false =>
        simp only [Binary.signed, Bool.false_eq_true, ite_false]
          at hFits ⊢
        omega

end Dashboard

------------------------------------------------------------
-- Integers As They Are Written
------------------------------------------------------------

namespace Dashboard

/- An optional sign and digits, and the integer they are. -/
inductive NumberLiteral.SpellsInteger :
    List Char → Int → Prop where
  | intro
      {sign digits : List Char}
      {negative : Bool} :
      SpellsSign sign negative →
        IsDigits digits →
          SpellsInteger (sign ++ digits)
            (Binary.signed negative (Decimal.valueOf digits))

/-
  A text of blanks, an integer with all the digits that stand
  there, and anything else.
-/
def Text.LeadsWith
    (text literal : List Char)
    (n : Int) : Prop :=
  ∃ blanks rest,
    text = blanks ++ (literal ++ rest) ∧
      (∀ c ∈ blanks, isBlank c = true) ∧
      NumberLiteral.SpellsInteger literal n ∧
      ∀ c ∈ rest.head?, isDigit c = false

/- No blank starts an integer. -/
theorem NumberLiteral.SpellsInteger.exists_cons
    {literal : List Char}
    {n : Int}
    (hSpells : SpellsInteger literal n) :
    ∃ c others,
      literal = c :: others ∧ Text.isBlank c = false := by
  rcases hSpells with ⟨hSign, hDigits⟩
  cases hSign with
  | none =>
      rcases hDigits.exists_cons with ⟨c, others, rfl, hDigit⟩
      exact
        ⟨c, others, rfl, Text.isBlank_of_isDigit hDigit⟩
  | plus => exact ⟨'+', _, rfl, rfl⟩
  | minus => exact ⟨'-', _, rfl, rfl⟩

namespace Text

variable {text literal : List Char} {n : Int}

theorem LeadsWith.spells
    (hLeads : LeadsWith text literal n) :
    NumberLiteral.SpellsInteger literal n := by
  rcases hLeads with ⟨_, _, _, _, hSpells, _⟩
  exact hSpells

theorem LeadsWith.exists_trimLeft
    (hLeads : LeadsWith text literal n) :
    ∃ rest,
      trimLeft text = literal ++ rest ∧
        ∀ c ∈ rest.head?, isDigit c = false := by
  rcases hLeads with
    ⟨blanks, rest, rfl, hBlanks, hSpells, hRest⟩
  refine ⟨rest, ?_, hRest⟩
  rcases hSpells.exists_cons with ⟨c, others, rfl, hBlank⟩
  rw [trimLeft, List.dropWhile_append_of_pos hBlanks]
  simp [hBlank]

/- An integer goes on to the last digit that stands there. -/
theorem exists_leadsWith
    {blanks more : List Char}
    (hBlanks : ∀ c ∈ blanks, isBlank c = true)
    (hSpells : NumberLiteral.SpellsInteger literal n) :
    ∃ whole m,
      LeadsWith (blanks ++ (literal ++ more)) whole m := by
  rcases hSpells with ⟨hSign, hDigits⟩
  rename_i sign digits negative
  have hAll :
      NumberLiteral.IsDigits
        (digits ++ (NumberLiteral.scanDigits more).1) :=
    ⟨List.append_ne_nil_of_left_ne_nil hDigits.ne_nil _,
      List.forall_mem_append.mpr
        ⟨hDigits.isDigit,
          NumberLiteral.isDigit_of_mem_scanDigits more⟩⟩
  refine
    ⟨_, _, blanks, (NumberLiteral.scanDigits more).2, ?_,
      hBlanks, .intro hSign hAll,
      NumberLiteral.not_isDigit_of_scanDigits more⟩
  rw [List.append_assoc, List.append_assoc, List.append_assoc,
    ← NumberLiteral.scanDigits_eq more]

theorem exists_leadsWith_of_isPrefix
    (hPrefix : literal <+: trimLeft text)
    (hSpells : NumberLiteral.SpellsInteger literal n) :
    ∃ whole m, LeadsWith text whole m := by
  rcases hPrefix with ⟨more, hText⟩
  have hWhole :
      text = text.takeWhile isBlank ++ (literal ++ more) := by
    rw [hText]
    exact List.takeWhile_append_dropWhile.symm
  rw [hWhole]
  exact
    exists_leadsWith (fun _ hMem => List.mem_takeWhile_imp hMem)
      hSpells

end Text

end Dashboard

------------------------------------------------------------
-- Integers That Are Read
------------------------------------------------------------

namespace Dashboard

variable {text : String}

theorem integerPrefix?_of_leadsWith
    {literal : List Char}
    {n : Int}
    (hLeads : Text.LeadsWith text.toList literal n) :
    integerPrefix? text = some (clampInteger n) := by
  rcases hLeads.exists_trimLeft with ⟨rest, hText, hRest⟩
  rcases hLeads.spells with ⟨hSign, hDigits⟩
  rename_i sign digits negative
  have hScan :
      NumberLiteral.scanSign (Text.trimLeft text.toList) =
        (negative, digits ++ rest) := by
    rw [hText, List.append_assoc]
    exact
      NumberLiteral.scanSign_append_digits hSign hDigits rest
  have hTaken :
      (digits ++ rest).takeWhile Text.isDigit = digits :=
    congrArg Prod.fst
      (NumberLiteral.scanDigits_append hDigits.isDigit hRest)
  have hSome : digits.isEmpty = false :=
    List.isEmpty_eq_false_iff.mpr hDigits.ne_nil
  unfold integerPrefix?
  rw [hScan]
  dsimp only
  rw [hTaken, hSome, getD_integerOfDigits?]
  rfl

theorem integerPrefix?_eq_none
    (hNone :
      ∀ literal n, ¬ Text.LeadsWith text.toList literal n) :
    integerPrefix? text = none := by
  rcases NumberLiteral.exists_spellsSign
      (Text.trimLeft text.toList) with ⟨sign, hSign, hText⟩
  generalize
    hScan :
      NumberLiteral.scanSign (Text.trimLeft text.toList) =
        found
    at hSign hText
  rcases found with ⟨negative, unsigned⟩
  unfold integerPrefix?
  rw [hScan]
  dsimp only
  split
  · rfl
  · rename_i hDigits
    rw [Bool.not_eq_true] at hDigits
    have hSpells :=
      NumberLiteral.SpellsInteger.intro hSign
        (NumberLiteral.isDigits_scanDigits hDigits)
    have hPrefix :
        sign ++ (NumberLiteral.scanDigits unsigned).1 <+:
          Text.trimLeft text.toList := by
      refine ⟨(NumberLiteral.scanDigits unsigned).2, ?_⟩
      rw [List.append_assoc, ← NumberLiteral.scanDigits_eq]
      exact hText.symm
    rcases Text.exists_leadsWith_of_isPrefix hPrefix hSpells
      with ⟨literal, n, hLeads⟩
    exact absurd hLeads (hNone literal n)

/- What is read stands there, up to the bounds. -/
theorem exists_leadsWith_of_integerPrefix?_eq_some
    {m : Int}
    (hRead : integerPrefix? text = some m) :
    ∃ literal n,
      Text.LeadsWith text.toList literal n ∧
        m = clampInteger n := by
  by_cases hLeads :
      ∃ literal n, Text.LeadsWith text.toList literal n
  · rcases hLeads with ⟨literal, n, hLeads⟩
    rw [integerPrefix?_of_leadsWith hLeads,
      Option.some.injEq] at hRead
    exact ⟨literal, n, hLeads, hRead.symm⟩
  · have hNone :
        ∀ literal n,
          ¬ Text.LeadsWith text.toList literal n :=
      fun literal n hOther => hLeads ⟨literal, n, hOther⟩
    rw [integerPrefix?_eq_none hNone] at hRead
    cases hRead

/- A natural number is read back, as far as it fits. -/
theorem integerPrefix?_digitsOf (n : Nat) :
    integerPrefix? (String.ofList (Decimal.digitsOf n)) =
      some (clampInteger n) := by
  have hDigits :
      NumberLiteral.IsDigits (Decimal.digitsOf n) :=
    ⟨Decimal.digitsOf_ne_nil n,
      fun _ => Decimal.isDigit_of_mem_digitsOf⟩
  have hSpells :
      NumberLiteral.SpellsInteger (Decimal.digitsOf n)
        (Decimal.valueOf (Decimal.digitsOf n)) :=
    .intro .none hDigits
  rw [Decimal.valueOf_digitsOf] at hSpells
  have hLeads :
      Text.LeadsWith (String.ofList (Decimal.digitsOf n)).toList
        (Decimal.digitsOf n) n := by
    rw [String.toList_ofList]
    exact
      ⟨[], [], (List.append_nil _).symm,
        List.forall_mem_nil _, hSpells, by rintro c ⟨⟩⟩
  exact integerPrefix?_of_leadsWith hLeads

end Dashboard
