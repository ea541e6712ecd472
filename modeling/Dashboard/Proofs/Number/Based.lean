import Dashboard.Number.Literal
import Mathlib.Data.Nat.Digits.Defs

/-
  Literals in base sixteen, eight and two, and what is read
  from them.

  Key definitions include:
    * `MarksBase`
    * `SpellsBased`

  Main declarations:
    * `valueInBase?_eq_some_iff`
    * `spellsBased_iff`
-/

------------------------------------------------------------
-- The Grammar Of Based Literals
------------------------------------------------------------

namespace Dashboard

/- The letters of the bases, in either case. -/
inductive MarksBase : Char → Nat → Prop where
  | sixteen {c : Char} : c = 'x' ∨ c = 'X' → MarksBase c 16
  | eight {c : Char} : c = 'o' ∨ c = 'O' → MarksBase c 8
  | two {c : Char} : c = 'b' ∨ c = 'B' → MarksBase c 2

/-
  A zero, the letter of a base, and one or more digits in the
  base whose value fits in 64 bits.
-/
inductive SpellsBased : List Char → Nat → Prop where
  | intro
      {mark : Char}
      {base : Nat}
      {digits : List Char}
      {values : List Nat} :
      MarksBase mark base →
        digits ≠ [] →
          digits.map Text.digitValue? = values.map some →
            (∀ d ∈ values, d < base) →
              Nat.ofDigits base values.reverse < 2 ^ 64 →
                SpellsBased ('0' :: mark :: digits)
                  (Nat.ofDigits base values.reverse)

end Dashboard

------------------------------------------------------------
-- Reading Digits
------------------------------------------------------------

namespace Dashboard

theorem marksBase_iff {c : Char} {base : Nat} :
    MarksBase c base ↔ baseOfMark? c = some base := by
  unfold baseOfMark?
  simp only [Bool.or_eq_true, decide_eq_true_eq]
  constructor
  · rintro (hMark | hMark | hMark)
    · rw [if_pos hMark]
    · rcases hMark with rfl | rfl
      · rfl
      · rfl
    · rcases hMark with rfl | rfl
      · rfl
      · rfl
  · intro hBase
    split at hBase
    · rename_i hMark
      cases hBase
      exact .sixteen hMark
    · split at hBase
      · rename_i hMark
        cases hBase
        exact .eight hMark
      · split at hBase
        · rename_i hMark
          cases hBase
          exact .two hMark
        · cases hBase

/- Digits with values have a first value and others. -/
theorem exists_cons_of_map_digitValue?
    {c : Char}
    {more : List Char}
    {values : List Nat}
    (hValues :
      (c :: more).map Text.digitValue? = values.map some) :
    ∃ d others,
      values = d :: others ∧
        Text.digitValue? c = some d ∧
        more.map Text.digitValue? = others.map some := by
  rcases List.map_eq_cons_iff.mp hValues.symm with
    ⟨d, others, rfl, hFirst, hOthers⟩
  exact ⟨d, others, rfl, hFirst.symm, hOthers.symm⟩

/-
  Digits are read one by one: the number so far is multiplied
  by the base, and the digit is added.
-/
theorem foldlM_digits_eq_some_iff
    {base n m : Nat}
    {digits : List Char} :
    digits.foldlM
        (fun n c =>
          match Text.digitValue? c with
          | some d =>
              if d < base then some (base * n + d) else none
          | none => none)
        n =
      some m ↔
      ∃ values : List Nat,
        digits.map Text.digitValue? = values.map some ∧
          (∀ d ∈ values, d < base) ∧
          values.foldl (fun n d => base * n + d) n = m := by
  induction digits generalizing n with
  | nil =>
      constructor
      · intro hRead
        cases hRead
        exact ⟨[], rfl, List.forall_mem_nil _, rfl⟩
      · rintro ⟨values, hValues, _, rfl⟩
        have hNone : values = [] := by simpa using hValues.symm
        rw [hNone]
        rfl
  | cons c more ih =>
      rw [List.foldlM_cons]
      cases hDigit : Text.digitValue? c with
      | none =>
          refine iff_of_false nofun ?_
          rintro ⟨values, hValues, _⟩
          rcases exists_cons_of_map_digitValue? hValues with
            ⟨d, _, _, hFirst, _⟩
          rw [hDigit] at hFirst
          cases hFirst
      | some d =>
          by_cases hFits : d < base
          · simp only [if_pos hFits, Option.bind_eq_bind,
              Option.bind_some, ih]
            constructor
            · rintro ⟨values, hValues, hBelow, hFold⟩
              refine
                ⟨d :: values, ?_,
                  List.forall_mem_cons.mpr ⟨hFits, hBelow⟩,
                  hFold⟩
              rw [List.map_cons, List.map_cons, hDigit,
                hValues]
            · rintro ⟨values, hValues, hBelow, hFold⟩
              rcases exists_cons_of_map_digitValue? hValues with
                ⟨e, others, rfl, hFirst, hOthers⟩
              cases hDigit.symm.trans hFirst
              rw [List.forall_mem_cons] at hBelow
              exact ⟨others, hOthers, hBelow.2, hFold⟩
          · simp only [if_neg hFits]
            refine iff_of_false nofun ?_
            rintro ⟨values, hValues, hBelow, _⟩
            rcases exists_cons_of_map_digitValue? hValues with
              ⟨e, others, rfl, hFirst, _⟩
            cases hDigit.symm.trans hFirst
            exact hFits (hBelow d List.mem_cons_self)

theorem valueInBase?_eq_some_iff
    {base m : Nat}
    {digits : List Char} :
    valueInBase? base digits = some m ↔
      ∃ values : List Nat,
        digits.map Text.digitValue? = values.map some ∧
          (∀ d ∈ values, d < base) ∧
          Nat.ofDigits base values.reverse = m := by
  have hFold :
      ∀ values : List Nat,
        Nat.ofDigits base values.reverse =
          values.foldl (fun n d => base * n + d) 0 := by
    intro values
    rw [Nat.ofDigits_eq_foldr, List.foldr_reverse]
    simp only [Nat.cast_id, Nat.add_comm]
  simp only [hFold]
  exact foldlM_digits_eq_some_iff

/- What is read in another base is what is spelled. -/
theorem spellsBased_iff
    {text : List Char}
    {n : Nat} :
    SpellsBased text n ↔ basedLiteral? text = some n := by
  constructor
  · rintro ⟨hMark, hSome, hDigits, hBelow, hFits⟩
    have hValue :=
      valueInBase?_eq_some_iff.mpr ⟨_, hDigits, hBelow, rfl⟩
    simp only [basedLiteral?]
    rw [List.isEmpty_eq_false_iff.mpr hSome,
      marksBase_iff.mp hMark]
    simp only [hValue]
    rw [if_neg Bool.false_ne_true]
    exact if_pos hFits
  · intro hBased
    unfold basedLiteral? at hBased
    split at hBased
    · rename_i mark digits
      split at hBased
      · cases hBased
      · rename_i hSome
        split at hBased
        · cases hBased
        · rename_i base hBase
          split at hBased
          · rename_i m hValue
            split at hBased
            · rename_i hFits
              cases hBased
              rcases valueInBase?_eq_some_iff.mp hValue with
                ⟨values, hDigits, hBelow, rfl⟩
              exact
                .intro (marksBase_iff.mpr hBase)
                  (by simpa using hSome) hDigits hBelow hFits
            · cases hBased
          · cases hBased
    · cases hBased

end Dashboard
