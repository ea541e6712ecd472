import Dashboard.Proofs.Number.Literal
import Dashboard.Proofs.Number.Rounding
import Dashboard.Proofs.Text.Blank

/-
  Texts that are a number from start to end, and the number
  at their start.  A literal is scanned in the same way
  whether blanks follow it or not, so the two agree on it.
  They do not agree on a literal in another base, which has
  only its leading zero at the start, nor on blanks, which
  have no number at the start.

  Key definitions include:
    * `NumberLiteral.StartsBlank`
    * `denotedNumber?`

  Main declarations:
    * `NumberLiteral.scan_append`
    * `scan_of_basedLiteral?`
    * `readsAsNumber_iff`
    * `floatPrefix?_of_literal`
    * `floatPrefix?_of_based`
    * `floatPrefix?_of_blank`
-/

------------------------------------------------------------
-- Scanning Up To A Blank
------------------------------------------------------------

namespace Dashboard

namespace NumberLiteral

/- A text that is empty or starts with a blank. -/
def StartsBlank (rest : List Char) : Prop :=
  ∀ c ∈ rest.head?, Text.isBlank c = true

variable {rest : List Char}

theorem StartsBlank.ne
    (hRest : StartsBlank rest)
    {c d : Char}
    {more : List Char}
    (hMore : rest = c :: more)
    (hChar : Text.isBlank d = false) :
    c ≠ d := by
  rintro rfl
  have hBlank := hRest c (by rw [hMore]; rfl)
  rw [hChar] at hBlank
  cases hBlank

theorem StartsBlank.not_isDigit
    (hRest : StartsBlank rest) :
    ∀ c ∈ rest.head?, Text.isDigit c = false := by
  intro c hHead
  rw [← Bool.not_eq_true]
  intro hDigit
  have hBlank := hRest c hHead
  rw [Text.isBlank_of_isDigit hDigit] at hBlank
  cases hBlank

theorem scanSign_append_of_startsBlank
    (hRest : StartsBlank rest)
    (text : List Char) :
    scanSign (text ++ rest) =
      ((scanSign text).1, (scanSign text).2 ++ rest) := by
  cases text with
  | nil =>
      cases rest with
      | nil => rfl
      | cons c more =>
          have hPlus : c ≠ '+' := hRest.ne rfl rfl
          have hMinus : c ≠ '-' := hRest.ne rfl rfl
          simp [scanSign, hPlus, hMinus]
  | cons c text =>
      by_cases hPlus : c = '+'
      · rw [hPlus]
        rfl
      · by_cases hMinus : c = '-'
        · rw [hMinus]
          rfl
        · simp [scanSign, hPlus, hMinus]

theorem scanDigits_append_of_startsBlank
    (hRest : StartsBlank rest)
    (text : List Char) :
    scanDigits (text ++ rest) =
      ((scanDigits text).1, (scanDigits text).2 ++ rest) := by
  induction text with
  | nil =>
      exact
        scanDigits_append (List.forall_mem_nil _)
          hRest.not_isDigit
  | cons c text ih =>
      unfold scanDigits at ih ⊢
      rw [Prod.mk.injEq] at ih
      cases hDigit : Text.isDigit c with
      | false => simp [hDigit]
      | true => simp [hDigit, ih]

theorem scanExponent_append_of_startsBlank
    (hRest : StartsBlank rest)
    (text : List Char) :
    scanExponent (text ++ rest) =
      ((scanExponent text).1,
        (scanExponent text).2 ++ rest) := by
  cases text with
  | nil =>
      cases rest with
      | nil => rfl
      | cons c more =>
          have hSmall : c ≠ 'e' := hRest.ne rfl rfl
          have hCapital : c ≠ 'E' := hRest.ne rfl rfl
          simp [scanExponent, hSmall, hCapital]
  | cons mark text =>
      unfold scanExponent
      rw [List.cons_append]
      dsimp only
      rw [scanSign_append_of_startsBlank hRest]
      dsimp only
      rw [scanDigits_append_of_startsBlank hRest]
      dsimp only
      split
      · split
        · rfl
        · rfl
      · rfl

theorem scanPlaces_append_of_startsBlank
    (hRest : StartsBlank rest)
    (text : List Char) :
    scanPlaces (text ++ rest) =
      (scanPlaces text).map fun found =>
        (found.1, found.2.1, found.2.2 ++ rest) := by
  unfold scanPlaces
  rw [scanDigits_append_of_startsBlank hRest]
  generalize scanDigits text = parts
  rcases parts with ⟨whole, after⟩
  dsimp only
  cases after with
  | nil =>
      cases rest with
      | nil => simp [apply_ite (Option.map _)]
      | cons c more =>
          have hPoint : c ≠ '.' := hRest.ne rfl rfl
          simp [hPoint, apply_ite (Option.map _)]
  | cons c more =>
      by_cases hPoint : c = '.'
      · subst hPoint
        simp [scanDigits_append_of_startsBlank hRest,
          apply_ite (Option.map _)]
      · simp [hPoint, apply_ite (Option.map _)]

/- A word without blanks in it ends before a blank. -/
theorem isPrefixOf_append
    (hRest : StartsBlank rest)
    {word : List Char}
    (hWord : ∀ c ∈ word, Text.isBlank c = false)
    (text : List Char) :
    word.isPrefixOf (text ++ rest) = word.isPrefixOf text := by
  induction word generalizing text with
  | nil => rfl
  | cons c word ih =>
      rw [List.forall_mem_cons] at hWord
      cases text with
      | nil =>
          cases rest with
          | nil => rfl
          | cons d more =>
              have hFirst : d ≠ c := hRest.ne rfl hWord.1
              simp [List.isPrefixOf, hFirst.symm]
      | cons d text =>
          rw [List.cons_append, List.isPrefixOf,
            List.isPrefixOf, ih hWord.2]

theorem scanBody_append_of_startsBlank
    (hRest : StartsBlank rest)
    (text : List Char) :
    scanBody (text ++ rest) =
      (scanBody text).map fun found =>
        (found.1, found.2 ++ rest) := by
  have hWord :
      ∀ c ∈ "Infinity".toList, Text.isBlank c = false := by
    have hAll : "Infinity".toList.all (!Text.isBlank ·) := by
      decide
    simpa using hAll
  unfold scanBody
  dsimp only
  rw [isPrefixOf_append hRest hWord]
  split
  · rename_i hPrefix
    have hLength : "Infinity".toList.length ≤ text.length :=
      (List.isPrefixOf_iff_prefix.mp hPrefix).length_le
    rw [List.drop_append_of_le_length hLength]
    rfl
  · rw [scanPlaces_append_of_startsBlank hRest]
    cases scanPlaces text with
    | none => rfl
    | some found =>
        rw [Option.map_some]
        dsimp only
        rw [scanExponent_append_of_startsBlank hRest]
        rfl

/- What follows a blank changes nothing before it. -/
theorem scan_append
    (hRest : StartsBlank rest)
    (text : List Char) :
    scan (text ++ rest) =
      (scan text).map fun found =>
        (found.1, found.2 ++ rest) := by
  unfold scan
  rw [scanSign_append_of_startsBlank hRest]
  dsimp only
  rw [scanBody_append_of_startsBlank hRest]
  cases scanBody (scanSign text).2 with
  | none => rfl
  | some found => rfl

end NumberLiteral

end Dashboard

------------------------------------------------------------
-- Values Of Literals
------------------------------------------------------------

namespace Dashboard

theorem Binary.ofDecimal_ne_notANumber
    {f : FloatFormat}
    (negative : Bool)
    (d : Decimal) :
    (Binary.ofDecimal negative d : Binary f) ≠
      .notANumber := by
  unfold Binary.ofDecimal
  split
  · exact Binary.ofUnits_ne_notANumber _ _
  · split
    · rintro ⟨⟩
    · exact Binary.ofUnits_ne_notANumber _ _

namespace NumberLiteral

theorem value_ne_notANumber
    {f : FloatFormat}
    (literal : NumberLiteral) :
    (literal.value : Binary f) ≠ .notANumber := by
  unfold value
  split
  · rintro ⟨⟩
  · exact Binary.ofDecimal_ne_notANumber _ _

/- A zero with nothing else. -/
def zero : NumberLiteral :=
  ⟨false, .decimal ['0'] [] 0⟩

theorem value_zero : zero.value = (.zero : Double) := by
  have hZero : Decimal.valueOf ['0'] = 0 := rfl
  simp [value, zero, Binary.ofDecimal, hZero, Binary.zero]

end NumberLiteral

end Dashboard

------------------------------------------------------------
-- Literals In Another Base
------------------------------------------------------------

namespace Dashboard

/- The letters that announce a base. -/
def baseMarks : List Char :=
  ['x', 'X', 'o', 'O', 'b', 'B']

theorem mem_baseMarks_of_baseOfMark?
    {mark : Char}
    {base : Nat}
    (hBase : baseOfMark? mark = some base) :
    mark ∈ baseMarks := by
  unfold baseOfMark? at hBase
  simp only [Bool.or_eq_true, decide_eq_true_eq] at hBase
  unfold baseMarks
  split at hBase
  · rename_i hMark
    rcases hMark with rfl | rfl <;> decide
  · split at hBase
    · rename_i hMark
      rcases hMark with rfl | rfl <;> decide
    · split at hBase
      · rename_i hMark
        rcases hMark with rfl | rfl <;> decide
      · cases hBase

/- A zero with the letter of a base behind it is scanned. -/
theorem scan_of_mem_baseMarks
    {mark : Char}
    (hMark : mark ∈ baseMarks)
    (digits : List Char) :
    NumberLiteral.scan ('0' :: mark :: digits) =
      some (.zero, mark :: digits) := by
  simp only [baseMarks, List.mem_cons, List.not_mem_nil,
    or_false] at hMark
  rcases hMark with rfl | rfl | rfl | rfl | rfl | rfl <;> rfl

/- Of a literal in another base only the zero is scanned. -/
theorem scan_of_basedLiteral?
    {text : List Char}
    {n : Nat}
    (hBased : basedLiteral? text = some n) :
    ∃ c left,
      NumberLiteral.scan text = some (.zero, c :: left) := by
  unfold basedLiteral? at hBased
  split at hBased
  · rename_i mark digits
    split at hBased
    · cases hBased
    · split at hBased
      · cases hBased
      · rename_i base hBase
        exact
          ⟨mark, digits,
            scan_of_mem_baseMarks
              (mem_baseMarks_of_baseOfMark? hBase) digits⟩
  · cases hBased

end Dashboard

------------------------------------------------------------
-- Whole Texts
------------------------------------------------------------

namespace Dashboard

/-
  The number that a text is from start to end, apart from
  blanks around it: nothing but blanks is zero, a literal is
  the number nearest to it, and digits in another base are
  the number nearest to what they count.
-/
def denotedNumber? (text : String) : Option Double :=
  let trimmed := Text.trim text.toList
  if trimmed.isEmpty then
    some .zero
  else
    match NumberLiteral.scan trimmed with
    | some (literal, []) => some literal.value
    | _ => (basedLiteral? trimmed).map .ofNat

variable {text : String}

theorem isLiteral_iff (text : List Char) :
    isLiteral text = true ↔
      ∃ literal,
        NumberLiteral.scan text = some (literal, []) := by
  unfold isLiteral
  split
  · rename_i literal hScan
    simp [hScan]
  · rename_i hOther
    refine iff_of_false Bool.false_ne_true ?_
    rintro ⟨literal, hScan⟩
    exact hOther literal hScan

/- A text reads as a number in one of three ways. -/
theorem readsAsNumber_iff :
    readsAsNumber text = true ↔
      Text.trim text.toList = [] ∨
        (∃ literal,
          NumberLiteral.scan (Text.trim text.toList) =
            some (literal, [])) ∨
        ∃ n, basedLiteral? (Text.trim text.toList) = some n := by
  unfold readsAsNumber
  rw [Bool.or_eq_true, Bool.or_eq_true, List.isEmpty_iff,
    isLiteral_iff, Option.isSome_iff_exists, or_assoc]

section Blank

variable (hBlank : Text.trim text.toList = [])

include hBlank

theorem denotedNumber?_of_blank :
    denotedNumber? text = some .zero := by
  unfold denotedNumber?
  rw [hBlank]
  rfl

/- Blanks have no number at the start. -/
theorem floatPrefix?_of_blank : floatPrefix? text = none := by
  have hNone : Text.trimLeft text.toList = [] := by
    rw [Text.trim_eq_nil_iff] at hBlank
    exact List.dropWhile_eq_nil_iff.mpr hBlank
  unfold floatPrefix?
  rw [hNone]
  rfl

end Blank

/- What is scanned without blanks is scanned among them. -/
theorem floatPrefix?_of_scan
    {literal : NumberLiteral}
    {left : List Char}
    (hScan :
      NumberLiteral.scan (Text.trim text.toList) =
        some (literal, left)) :
    floatPrefix? text = some literal.value := by
  rcases Text.exists_trimLeft_eq_append text.toList with
    ⟨blanks, hText, hBlanks⟩
  have hRest : NumberLiteral.StartsBlank blanks :=
    fun c hHead => hBlanks c (List.mem_of_mem_head? hHead)
  unfold floatPrefix?
  rw [hText, NumberLiteral.scan_append hRest, hScan]
  rfl

section Literal

variable {literal : NumberLiteral}
variable
  (hLiteral :
    NumberLiteral.scan (Text.trim text.toList) =
      some (literal, []))

include hLiteral

theorem denotedNumber?_of_literal :
    denotedNumber? text = some literal.value := by
  have hSome : (Text.trim text.toList).isEmpty = false := by
    rw [List.isEmpty_eq_false_iff]
    intro hBlank
    rw [hBlank] at hLiteral
    cases hLiteral
  unfold denotedNumber?
  dsimp only
  rw [hSome, hLiteral]
  rfl

/- A literal is the number at its start. -/
theorem floatPrefix?_of_literal :
    floatPrefix? text = some literal.value :=
  floatPrefix?_of_scan hLiteral

end Literal

section Based

variable {n : Nat}
variable
  (hBased : basedLiteral? (Text.trim text.toList) = some n)

include hBased

theorem denotedNumber?_of_based :
    denotedNumber? text = some (.ofNat n) := by
  have hSome : (Text.trim text.toList).isEmpty = false := by
    rw [List.isEmpty_eq_false_iff]
    intro hBlank
    rw [hBlank] at hBased
    cases hBased
  rcases scan_of_basedLiteral? hBased with ⟨c, left, hScan⟩
  unfold denotedNumber?
  dsimp only
  rw [hSome, hScan, hBased]
  rfl

/- A literal in another base has zero at the start. -/
theorem floatPrefix?_of_based :
    floatPrefix? text = some .zero := by
  rcases scan_of_basedLiteral? hBased with ⟨c, left, hScan⟩
  rw [floatPrefix?_of_scan hScan, NumberLiteral.value_zero]

end Based

end Dashboard
