import Dashboard.Proofs.Number.Prose
import Dashboard.Proofs.Text.Lowercase
import Dashboard.Settings.Lenient

/-
  Texts that are taken for values.  A variable is read as a
  truth value, an integer or a number where its text is one,
  and a setting that is a text is the text of that value.  It
  is the text that was assigned only if that is how the value
  is written.

  Key definitions include:
    * `Scalar.settled`
    * `Scalar.IsMere`
    * `Scalar.IsWritten`

  Main declarations:
    * `Reading.lenientText_ofText`
    * `Scalar.double?_prose`
    * `Scalar.settled_eq_self_iff`
-/

------------------------------------------------------------
-- Numbers As Texts
------------------------------------------------------------

namespace Dashboard

theorem NumberLiteral.scanSign_minus
    (negative : Bool)
    {c : Char}
    (hDigit : Text.isDigit c = true)
    (rest : List Char) :
    scanSign (minus negative ++ c :: rest) =
      (negative, c :: rest) := by
  cases negative with
  | true => rfl
  | false => exact scanSign_of_isDigit hDigit rest

namespace Scalar

open Decimal NumberLiteral

theorem toString_signed
    {negative : Bool}
    {n : Nat}
    (hZero : negative = true → 0 < n) :
    toString (Binary.signed negative n) =
      String.ofList (minus negative ++ digitsOf n) := by
  cases negative with
  | false => rfl
  | true =>
      cases n with
      | zero => exact absurd (hZero rfl) (Nat.lt_irrefl 0)
      | succ n =>
          have hText :
              toString (Binary.signed true (n + 1)) =
                "-" ++ String.ofList (digitsOf (n + 1)) :=
            rfl
          have hMinus : "-".toList = ['-'] := rfl
          rw [hText, ← String.toList_inj, String.toList_append,
            hMinus, String.toList_ofList, String.toList_ofList]
          rfl

/- Digits behind a sign are an integer. -/
theorem integer?_minus_append
    (negative : Bool)
    {digits : List Char}
    (hSome : digits ≠ [])
    (hDigits : ∀ c ∈ digits, Text.isDigit c = true) :
    integer? (minus negative ++ digits) =
      some (Binary.signed negative (valueOf digits)) := by
  rcases List.exists_cons_of_ne_nil hSome with
    ⟨c, rest, rfl⟩
  have hAll : (c :: rest).all Text.isDigit = true :=
    List.all_eq_true.mpr hDigits
  unfold integer?
  rw [scanSign_minus negative (hDigits c List.mem_cons_self)]
  dsimp only
  rw [hAll]
  rfl

/- An integer is read from the way in which it is written. -/
theorem integer?_toString (n : Int) :
    integer? (toString n).toList = some n := by
  have hRead :
      ∀ negative m,
        (negative = true → 0 < m) →
        integer?
            (toString (Binary.signed negative m)).toList =
          some (Binary.signed negative m) := by
    intro negative m hZero
    rw [toString_signed hZero, String.toList_ofList,
      integer?_minus_append negative (digitsOf_ne_nil m)
        fun _ => isDigit_of_mem_digitsOf,
      valueOf_digitsOf]
  cases n with
  | ofNat m => exact hRead false m nofun
  | negSucc m =>
      exact hRead true (m + 1) fun _ => Nat.succ_pos m

/- An amount behind a sign is a number. -/
theorem double?_minus_append
    (negative : Bool)
    (n : Amount) :
    double? (minus negative ++ n.text) =
      some (.ofDecimal negative n.decimal) := by
  rcases n.exists_first with ⟨d, rest, hText, hDigit⟩
  have hLower : d.toLower = d := by
    have hAll := Text.isLower_of_isDigit hDigit
    rw [Text.isLower, Bool.and_eq_true, beq_iff_eq] at hAll
    exact hAll.2
  have hName :
      ∀ name : String,
        name.toList.head?.all Text.isDigit = false →
        String.ofList (n.text.map Char.toLower) ≠ name := by
    rintro name hFirst rfl
    rw [String.toList_ofList, hText, List.map_cons, hLower]
      at hFirst
    exact Bool.false_ne_true (hFirst.symm.trans hDigit)
  have hScan :
      scanSign (minus negative ++ n.text) =
        (negative, n.text) := by
    rw [hText]
    exact scanSign_minus negative hDigit rest
  unfold double?
  rw [hScan]
  dsimp only
  unfold magnitude?
  dsimp only
  rw [if_neg, if_neg (hName "nan" rfl), n.scanPlaces_text]
  · simp [scanExponent, NumberLiteral.value, Amount.decimal]
  · rw [Bool.or_eq_true, decide_eq_true_eq,
      decide_eq_true_eq]
    rintro (hInf | hInfinity)
    · exact hName "inf" rfl hInf
    · exact hName "infinity" rfl hInfinity

/- A number is read from the way in which it is written. -/
theorem double?_prose (x : Double) :
    double? x.prose.toList = some x := by
  cases x with
  | finite negative units fits =>
      rcases Double.exists_amount_prose negative fits with
        ⟨n, hText, _, hValue⟩
      rw [hText, String.toList_ofList, ← hValue]
      exact double?_minus_append negative n
  | infinite negative =>
      cases negative with
      | true => rfl
      | false => rfl
  | notANumber => rfl

/- A text that starts in another way is no truth value. -/
theorem truth?_eq_none
    {text : String}
    (hLower : ∀ c ∈ text.toList, Text.isLower c = true)
    (hFirst : ∀ c ∈ text.toList.head?, c ≠ 't' ∧ c ≠ 'f') :
    truth? text = none := by
  have hTrue : text ≠ "true" := by
    rintro rfl
    exact (hFirst 't' rfl).1 rfl
  have hFalse : text ≠ "false" := by
    rintro rfl
    exact (hFirst 'f' rfl).2 rfl
  unfold truth?
  rw [Text.lower_of_isLower hLower]
  dsimp only
  rw [if_neg hTrue, if_neg hFalse]

/- A number is no truth value. -/
theorem truth?_minus_append
    (negative : Bool)
    {c : Char}
    {rest : List Char}
    (hDigit : Text.isDigit c = true)
    (hRest : ∀ c ∈ rest, Text.isLower c = true) :
    truth? (String.ofList (minus negative ++ c :: rest)) =
      none := by
  have hNumber :
      ∀ d ∈ c :: rest, Text.isLower d = true :=
    List.forall_mem_cons.mpr
      ⟨Text.isLower_of_isDigit hDigit, hRest⟩
  apply truth?_eq_none
  · rw [String.toList_ofList, List.forall_mem_append]
    refine ⟨?_, hNumber⟩
    cases negative with
    | true => exact List.forall_mem_singleton.mpr rfl
    | false => exact List.forall_mem_nil _
  · rw [String.toList_ofList]
    cases negative with
    | true =>
        rintro d ⟨⟩
        decide
    | false =>
        rintro d ⟨⟩
        exact
          ⟨Text.ne_of_isDigit hDigit rfl,
            Text.ne_of_isDigit hDigit rfl⟩

theorem truth?_toString (n : Int) :
    truth? (toString n) = none := by
  have hNone :
      ∀ negative m,
        (negative = true → 0 < m) →
        truth? (toString (Binary.signed negative m)) =
          none := by
    intro negative m hZero
    rcases List.exists_cons_of_ne_nil (digitsOf_ne_nil m) with
      ⟨c, rest, hDigits⟩
    have hAll :
        ∀ d ∈ c :: rest, Text.isDigit d = true := by
      rw [← hDigits]
      exact fun _ => isDigit_of_mem_digitsOf
    rw [List.forall_mem_cons] at hAll
    rw [toString_signed hZero, hDigits]
    exact
      truth?_minus_append negative hAll.1 fun d hMem =>
        Text.isLower_of_isDigit (hAll.2 d hMem)
  cases n with
  | ofNat m => exact hNone false m nofun
  | negSucc m =>
      exact hNone true (m + 1) fun _ => Nat.succ_pos m

theorem truth?_prose (x : Double) :
    truth? x.prose = none := by
  cases x with
  | finite negative units fits =>
      rcases Double.exists_amount_prose negative fits with
        ⟨n, hText, _, _⟩
      rcases n.exists_first with ⟨d, rest, hFirst, hDigit⟩
      rw [hText, hFirst]
      apply truth?_minus_append negative hDigit
      intro c hMem
      apply n.isLower_of_mem_text
      rw [hFirst]
      exact List.mem_cons_of_mem _ hMem
  | infinite negative =>
      cases negative with
      | true =>
          apply truth?_eq_none (List.all_eq_true.mp rfl)
          rintro c ⟨⟩
          decide
      | false =>
          apply truth?_eq_none (List.all_eq_true.mp rfl)
          rintro c ⟨⟩
          decide
  | notANumber => rfl

end Scalar

end Dashboard

------------------------------------------------------------
-- What Is Left Of A Text
------------------------------------------------------------

namespace Dashboard

namespace Scalar

/-
  The text that is left of a text in a setting: that of its
  truth value, of its integer or of its number, or itself.
-/
def settled (text : String) : String :=
  match truth? text with
  | some value => if value then "true" else "false"
  | none =>
      match word? text.toList with
      | some n => toString n
      | none =>
          match double? text.toList with
          | some x => x.prose
          | none => text

/- Neither a truth value nor a number. -/
structure IsMere (text : String) : Prop where
  truth : truth? text = none
  word : word? text.toList = none
  double : double? text.toList = none

end Scalar

theorem Reading.lenientText_ofText (text : String) :
    lenientText (Scalar.ofText text) =
      some (Scalar.settled text) := by
  unfold Scalar.ofText Scalar.settled
  cases Scalar.truth? text with
  | some value => rfl
  | none =>
      cases Scalar.word? text.toList with
      | some n => rfl
      | none =>
          cases Scalar.double? text.toList with
          | some x => rfl
          | none => rfl

namespace Scalar

open Decimal NumberLiteral

theorem word?_eq_some_iff
    {text : List Char}
    {n : Int} :
    word? text = some n ↔
      integer? text = some n ∧ clampInteger n = n := by
  unfold word?
  cases integer? text with
  | none => simp
  | some m =>
      dsimp only
      split
      · rename_i hFits
        simp only [Option.some.injEq]
        exact ⟨fun h => ⟨h, h ▸ hFits⟩, fun h => h.1⟩
      · rename_i hFits
        simp only [Option.some.injEq, reduceCtorEq, false_iff]
        rintro ⟨rfl, hClamp⟩
        exact hFits hClamp

/- An amount that is an integer has no point. -/
theorem text_eq_whole
    {negative : Bool}
    {m : Amount}
    {n : Int}
    (hInteger : integer? (minus negative ++ m.text) = some n) :
    m.text = m.whole.chars := by
  rcases m.exists_first with ⟨d, rest, hText, hDigit⟩
  have hScan :
      scanSign (minus negative ++ m.text) =
        (negative, m.text) := by
    rw [hText]
    exact scanSign_minus negative hDigit rest
  have hAll : m.text.all Text.isDigit = true := by
    by_contra hNot
    unfold integer? at hInteger
    rw [hScan] at hInteger
    dsimp only at hInteger
    rw [if_pos] at hInteger
    · cases hInteger
    · rw [Bool.or_eq_true, Bool.not_eq_true',
        ← Bool.not_eq_true]
      exact .inr hNot
  unfold Amount.text Amount.pointed at hAll ⊢
  cases hPlaces : m.places with
  | none => exact List.append_nil _
  | some digits =>
      rw [hPlaces, List.all_append, Bool.and_eq_true,
        List.all_cons, Bool.and_eq_true] at hAll
      cases hAll.2.1

/- An integer in prose is written like any other integer. -/
theorem toString_of_integer?_prose
    {x : Double}
    {n : Int}
    (hInteger : integer? x.prose.toList = some n)
    (hZero : x.prose ≠ "-0") :
    toString n = x.prose := by
  cases x with
  | finite negative units fits =>
      rcases Double.exists_amount_prose negative fits with
        ⟨m, hText, hPlain, _⟩
      rw [hText, String.toList_ofList] at hInteger
      rw [hText] at hZero ⊢
      have hWhole := text_eq_whole hInteger
      have hDigits :
          digitsOf (valueOf m.whole.chars) = m.whole.chars :=
        digitsOf_valueOf m.whole.ne_nil m.whole.isDigit hPlain
      rw [hWhole] at hInteger hZero ⊢
      rw [integer?_minus_append negative m.whole.ne_nil
        m.whole.isDigit, Option.some.injEq] at hInteger
      rw [← hInteger, toString_signed, hDigits]
      rintro rfl
      rw [Nat.pos_iff_ne_zero]
      intro hNone
      rw [hNone] at hDigits
      rw [← hDigits] at hZero
      exact hZero rfl
  | infinite negative =>
      cases negative with
      | true => cases hInteger
      | false => cases hInteger
  | notANumber => cases hInteger

/-
  A text that is written as its value is: a truth value in
  small letters, an integer of 64 bits without a plus sign and
  leading zeros, or a number in its shortest form without an
  exponent.
-/
def IsWritten (text : String) : Prop :=
  text ∈ ["true", "false"] ∨
    (∃ n : Int, clampInteger n = n ∧ text = toString n) ∨
    (∃ x : Double, text = x.prose) ∧ text ≠ "-0"

/-
  A text is left as it is if it is neither a truth value nor
  a number, or if it is written as its value is.
-/
theorem settled_eq_self_iff (text : String) :
    settled text = text ↔ IsMere text ∨ IsWritten text := by
  constructor
  · intro hSettled
    unfold settled at hSettled
    cases hTruth : truth? text with
    | some value =>
        rw [hTruth] at hSettled
        right; left
        rw [← hSettled]
        cases value with
        | true => exact List.mem_cons_self
        | false =>
            exact List.mem_cons_of_mem _ List.mem_cons_self
    | none =>
        rw [hTruth] at hSettled
        cases hWord : word? text.toList with
        | some n =>
            rw [hWord] at hSettled
            right; right; left
            exact
              ⟨n, (word?_eq_some_iff.mp hWord).2,
                hSettled.symm⟩
        | none =>
            rw [hWord] at hSettled
            cases hDouble : double? text.toList with
            | some x =>
                rw [hDouble] at hSettled
                right; right; right
                refine ⟨⟨x, hSettled.symm⟩, ?_⟩
                rintro rfl
                cases hWord
            | none => exact .inl ⟨hTruth, hWord, hDouble⟩
  · rintro
      (hMere | hTruth | ⟨n, hClamp, rfl⟩ |
        ⟨⟨x, rfl⟩, hZero⟩)
    · unfold settled
      rw [hMere.truth, hMere.word, hMere.double]
    · rcases List.mem_pair.mp hTruth with rfl | rfl
      · rfl
      · rfl
    · have hWord : word? (toString n).toList = some n :=
        word?_eq_some_iff.mpr ⟨integer?_toString n, hClamp⟩
      unfold settled
      rw [truth?_toString, hWord]
    · unfold settled
      rw [truth?_prose]
      cases hWord : word? x.prose.toList with
      | some n =>
          exact
            toString_of_integer?_prose
              (word?_eq_some_iff.mp hWord).1 hZero
      | none => rw [double?_prose]

end Scalar

end Dashboard
