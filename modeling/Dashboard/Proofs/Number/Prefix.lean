import Dashboard.Proofs.Filter.Operand
import Dashboard.Proofs.Number.Based
import Dashboard.Proofs.Number.Grammar
import Dashboard.Proofs.Pattern.First

/-
  Numbers at the start of texts and texts that are numbers,
  as the patterns for them find them.  The pattern that takes
  its first way takes the longest literal, and the pattern
  for whole texts takes just the texts that are literals.

  Key definitions include:
    * `NumberPattern.literal`
    * `NumberPattern.leading`
    * `leadingLiteral?`

  Main declarations:
    * `NumberPattern.spells_of_takes`
    * `NumberPattern.exists_takesFirst_of_scan`
    * `NumberPattern.fills_literal`
    * `leadingLiteral?_eq_some_iff`
    * `leadingLiteral?_isLongest`
-/

------------------------------------------------------------
-- The Patterns
------------------------------------------------------------

namespace Dashboard

namespace NumberPattern

open Pattern

def isSign (c : Char) : Bool :=
  c == '+' || c == '-'

def isPoint (c : Char) : Bool :=
  c == '.'

def isExponentMark (c : Char) : Bool :=
  c == 'e' || c == 'E'

def sign : Pattern :=
  (char isSign).optional

/- Digits around a point, or a point and digits. -/
def places : Pattern :=
  either
    (sequence
      [some1 Text.isDigit, (char isPoint).optional,
        run Text.isDigit])
    (sequence [char isPoint, some1 Text.isDigit])

def exponent : Pattern :=
  sequence [char isExponentMark, sign, some1 Text.isDigit]

/- What may follow a sign. -/
def unsigned : Pattern :=
  either (Pattern.text "Infinity")
    (sequence [places, exponent.optional])

/- A literal with its sign. -/
def literal : Pattern :=
  sequence [sign, unsigned]

/- A literal after blanks, as a group. -/
def leading : Pattern :=
  sequence [spacing, group literal]

end NumberPattern

/- The literal that the pattern finds at the start. -/
def leadingLiteral? (text : String) : Option (List Char) := do
  let found ← NumberPattern.leading.matchAt ⟨[], text.toList⟩
  found.group? 0

end Dashboard

------------------------------------------------------------
-- What Is Taken Is Spelled
------------------------------------------------------------

namespace Dashboard

namespace NumberPattern

open NumberLiteral Pattern

variable {taken : List Char}

theorem isDigits_of_takes
    (hTakes : (some1 Text.isDigit).Takes taken) :
    IsDigits taken := by
  rcases hTakes with ⟨_, more, ⟨c, hFirst, rfl⟩, hMore, rfl⟩
  exact
    ⟨List.cons_ne_nil _ _,
      List.forall_mem_cons.mpr ⟨hFirst, hMore⟩⟩

theorem spellsSign_of_takes (hTakes : sign.Takes taken) :
    ∃ negative, SpellsSign taken negative := by
  rcases hTakes with ⟨c, hSign, rfl⟩ | rfl
  · rw [isSign, Bool.or_eq_true, beq_iff_eq, beq_iff_eq]
      at hSign
    rcases hSign with rfl | rfl
    · exact ⟨_, .plus⟩
    · exact ⟨_, .minus⟩
  · exact ⟨_, .none⟩

theorem spellsPlaces_of_takes (hTakes : places.Takes taken) :
    ∃ whole fraction, SpellsPlaces taken whole fraction := by
  rcases hTakes with
    ⟨digits, _, hDigits,
      ⟨point, _, hPoint, ⟨fraction, _, hFraction, rfl, rfl⟩,
        rfl⟩, rfl⟩ |
      ⟨_, _, ⟨c, hPoint, rfl⟩,
        ⟨digits, _, hDigits, rfl, rfl⟩, rfl⟩
  · rw [List.append_nil]
    have hWhole := isDigits_of_takes hDigits
    rcases hPoint with ⟨c, hPoint, rfl⟩ | rfl
    · rw [isPoint, beq_iff_eq] at hPoint
      subst hPoint
      exact ⟨_, _, .point hWhole hFraction⟩
    · refine
        ⟨_, _,
          .whole
            ⟨List.append_ne_nil_of_left_ne_nil
              hWhole.ne_nil _,
              ?_⟩⟩
      exact List.forall_mem_append.mpr
        ⟨hWhole.isDigit, hFraction⟩
  · rw [isPoint, beq_iff_eq] at hPoint
    subst hPoint
    rw [List.append_nil]
    exact ⟨_, _, .fraction (isDigits_of_takes hDigits)⟩

theorem spellsExponent_of_takes
    (hTakes : exponent.Takes taken) :
    ∃ n, SpellsExponent taken n := by
  rcases hTakes with
    ⟨_, _, ⟨mark, hMark, rfl⟩,
      ⟨before, _, hSign, ⟨digits, _, hDigits, rfl, rfl⟩, rfl⟩,
      rfl⟩
  rcases spellsSign_of_takes hSign with ⟨negative, hSign⟩
  rw [isExponentMark, Bool.or_eq_true, beq_iff_eq,
    beq_iff_eq] at hMark
  rw [List.append_nil, List.singleton_append]
  exact ⟨_, .intro hMark hSign (isDigits_of_takes hDigits)⟩

theorem spellsBody_of_takes (hTakes : unsigned.Takes taken) :
    ∃ body, SpellsBody taken body := by
  rcases hTakes with
    hInfinity |
      ⟨digits, _, hPlaces, ⟨scale, _, hScale, rfl, rfl⟩, rfl⟩
  · rw [eq_of_takes_text hInfinity]
    exact ⟨_, .infinity⟩
  · rcases spellsPlaces_of_takes hPlaces with
      ⟨whole, fraction, hPlaces⟩
    rw [List.append_nil]
    rcases hScale with hExponent | rfl
    · rcases spellsExponent_of_takes hExponent with
        ⟨n, hExponent⟩
      exact ⟨_, .scaled hPlaces hExponent⟩
    · rw [List.append_nil]
      exact ⟨_, .plain hPlaces⟩

/- The pattern takes nothing but literals. -/
theorem spells_of_takes (hTakes : literal.Takes taken) :
    ∃ l, Spells taken l := by
  rcases hTakes with
    ⟨before, _, hSign, ⟨written, _, hBody, rfl, rfl⟩, rfl⟩
  rcases spellsSign_of_takes hSign with ⟨negative, hSign⟩
  rcases spellsBody_of_takes hBody with ⟨body, hBody⟩
  rw [List.append_nil]
  exact ⟨_, .intro hSign hBody⟩

end NumberPattern

end Dashboard

------------------------------------------------------------
-- What Is Scanned Is Taken First
------------------------------------------------------------

namespace Dashboard

namespace NumberPattern

open NumberLiteral Pattern

variable {text rest : List Char}

theorem isSign_of_startsBody
    {c : Char}
    (hFirst : startsBody c = true) :
    isSign c = false := by
  rw [isSign, Bool.or_eq_false_iff, beq_eq_false_iff_ne,
    beq_eq_false_iff_ne]
  constructor
  · rintro rfl
    cases hFirst
  · rintro rfl
    cases hFirst

theorem takesFirst_sign
    {written more : List Char}
    {negative : Bool}
    (hSign : SpellsSign written negative)
    {c : Char}
    (hFirst : startsBody c = true) :
    sign.TakesFirst written (c :: more) := by
  cases hSign with
  | none =>
      have hOther :
          ∀ d ∈ (c :: more).head?, isSign d = false := by
        rintro d ⟨⟩
        exact isSign_of_startsBody hFirst
      exact (refuses_char hOther).optional
  | plus => exact (takesFirst_char rfl _).left
  | minus => exact (takesFirst_char rfl _).left

theorem takesFirst_digits
    {digits : List Char}
    (hDigits : IsDigits digits)
    (hRest : ∀ c ∈ rest.head?, Text.isDigit c = false) :
    (some1 Text.isDigit).TakesFirst digits rest :=
  takesFirst_some1 hDigits.ne_nil hDigits.isDigit hRest

/- A sign, if there is one, and all the digits behind it. -/
theorem takesFirst_signed
    {before digits : List Char}
    {negative : Bool}
    (hSign : SpellsSign before negative)
    (hDigits : IsDigits digits)
    (hRest : ∀ c ∈ rest.head?, Text.isDigit c = false) :
    (sequence [sign, some1 Text.isDigit]).TakesFirst
      (before ++ digits) rest := by
  have hSigned : sign.TakesFirst before (digits ++ rest) := by
    rcases hDigits.startsBody with ⟨c, others, rfl, hFirst⟩
    exact takesFirst_sign hSign hFirst
  exact
    hSigned.both (takesFirst_digits hDigits hRest).singleton

theorem takesFirst_exponent
    {written : List Char}
    {n : Int}
    (hText : SpellsExponent written n)
    (hRest : ∀ c ∈ rest.head?, Text.isDigit c = false) :
    exponent.TakesFirst written rest := by
  rcases hText with ⟨hMark, hSign, hDigits⟩
  rename_i mark before digits negative
  have hLetter : isExponentMark mark = true := by
    simpa [isExponentMark] using hMark
  exact
    (takesFirst_char hLetter _).both
      (takesFirst_signed hSign hDigits hRest)

theorem refuses_exponent
    (hNone : scanExponent text = (0, text)) :
    exponent.Refuses text := by
  apply refuses_of_not_takes
  rintro taken ⟨more, rfl⟩ hTakes
  rcases spellsExponent_of_takes hTakes with ⟨n, hExponent⟩
  have hSuffix := (scanExponent_of_spells hExponent more).1
  rw [hNone] at hSuffix
  have hLength := hSuffix.length_le
  rw [List.length_append] at hLength
  rcases hExponent with ⟨_, _, _⟩
  rw [List.length_cons] at hLength
  omega

theorem exists_takesFirst_of_scanPlaces
    {whole fraction : List Char}
    (hScan :
      scanPlaces text = some (whole, fraction, rest)) :
    ∃ taken,
      text = taken ++ rest ∧ places.TakesFirst taken rest := by
  rcases of_scanPlaces_eq_some hScan with
    ⟨hWhole, hFraction, hRest,
      ⟨hSome, rfl, hEnds, hText⟩ | ⟨hSome, hText⟩⟩
  · have hNoPoint :
        ∀ c ∈ rest.head?, isPoint c = false := by
      intro c hHead
      exact beq_false_of_ne (hEnds c hHead).2
    have hRun : (run Text.isDigit).TakesFirst [] rest :=
      takesFirst_run (List.forall_mem_nil _) hRest
    have hPoint :
        (char isPoint).optional.TakesFirst [] rest :=
      (refuses_char hNoPoint).optional
    have hLeft :=
      (takesFirst_digits ⟨hSome, hWhole⟩ hRest).both
        (hPoint.both hRun.singleton)
    refine ⟨whole, hText, ?_⟩
    rw [List.append_nil, List.append_nil] at hLeft
    exact hLeft.left
  · have hPoint :
        (char isPoint).TakesFirst ['.'] (fraction ++ rest) :=
      takesFirst_char rfl _
    by_cases hNone : whole = []
    · subst hNone
      have hDigits : IsDigits fraction :=
        ⟨hSome.resolve_left (not_not_intro rfl), hFraction⟩
      have hRefuses :
          (char Text.isDigit).Refuses
            ('.' :: (fraction ++ rest)) :=
        refuses_char (by rintro c ⟨⟩; rfl)
      exact
        ⟨'.' :: fraction, hText,
          .right hRefuses.both.both
            (hPoint.both
              (takesFirst_digits hDigits hRest).singleton)⟩
    · have hRun : (run Text.isDigit).TakesFirst fraction rest :=
        takesFirst_run hFraction hRest
      have hStop :
          ∀ c ∈ ('.' :: (fraction ++ rest)).head?,
            Text.isDigit c = false := by
        rintro c ⟨⟩
        rfl
      have hDigits :=
        takesFirst_digits ⟨hNone, hWhole⟩ hStop
      have hOptional :
          (char isPoint).optional.TakesFirst ['.']
            (fraction ++ rest) :=
        hPoint.left
      refine
        ⟨whole ++ '.' :: fraction, ?_,
          .left (hDigits.both (hOptional.both hRun.singleton))⟩
      rw [hText, List.append_assoc, List.cons_append]

theorem exists_takesFirst_of_scanBody
    {body : NumberBody}
    (hScan : scanBody text = some (body, rest)) :
    ∃ taken,
      text = taken ++ rest ∧
        unsigned.TakesFirst taken rest := by
  unfold scanBody at hScan
  dsimp only at hScan
  split at hScan
  · rename_i hPrefix
    rcases List.isPrefixOf_iff_prefix.mp hPrefix with
      ⟨more, rfl⟩
    cases hScan
    rw [List.drop_left]
    exact ⟨_, rfl, (takesFirst_text _ more).left⟩
  · rename_i hOther
    rw [Bool.not_eq_true] at hOther
    split at hScan
    · cases hScan
    · rename_i whole fraction after hPlaces
      cases hScan
      rcases exists_takesFirst_of_scanPlaces hPlaces with
        ⟨digits, rfl, hDigits⟩
      rcases spellsExponent_or_of_scanExponent after with
        hNone | ⟨scale, hScale, hAfter, hRest⟩
      · have hScale : exponent.optional.TakesFirst [] after :=
          (refuses_exponent hNone).optional
        have hBoth := hDigits.both hScale.singleton
        rw [List.append_nil] at hBoth
        rw [hNone]
        exact ⟨digits, rfl, .right (refuses_text hOther) hBoth⟩
      · generalize
          (scanExponent after).2 = rest at hAfter hRest ⊢
        subst hAfter
        have hOptional :
            exponent.optional.TakesFirst scale rest :=
          (takesFirst_exponent hScale hRest).left
        have hBoth := hDigits.both hOptional.singleton
        rw [← List.append_assoc] at hOther ⊢
        exact ⟨_, rfl, .right (refuses_text hOther) hBoth⟩

theorem exists_takesFirst_of_scan
    {l : NumberLiteral}
    (hScan : scan text = some (l, rest)) :
    ∃ taken,
      text = taken ++ rest ∧
        literal.TakesFirst taken rest := by
  rcases exists_spellsSign text with ⟨before, hSign, hText⟩
  unfold scan at hScan
  dsimp only at hScan
  split at hScan
  · cases hScan
  · rename_i body after hBody
    cases hScan
    rcases exists_spellsBody hBody with
      ⟨written, hWritten, hUnsigned⟩
    rcases hWritten.exists_cons with ⟨c, others, rfl, hFirst⟩
    rcases exists_takesFirst_of_scanBody hBody with
      ⟨taken, hTaken, hTakesFirst⟩
    have hSigned :
        sign.TakesFirst before (taken ++ rest) := by
      rw [← hTaken, hUnsigned]
      exact takesFirst_sign hSign hFirst
    refine
      ⟨before ++ taken, ?_, hSigned.both hTakesFirst.singleton⟩
    rw [List.append_assoc, ← hTaken, ← hText]

end NumberPattern

end Dashboard

------------------------------------------------------------
-- Literals At The Start
------------------------------------------------------------

namespace Dashboard

namespace NumberLiteral

/- No blank starts a literal. -/
theorem Spells.exists_cons
    {text : List Char}
    {l : NumberLiteral}
    (hText : Spells text l) :
    ∃ c others,
      text = c :: others ∧ Text.isBlank c = false := by
  rcases hText with ⟨hSign, hBody⟩
  rcases hBody.exists_cons with ⟨c, others, rfl, hFirst⟩
  cases hSign with
  | none =>
      refine ⟨c, others, rfl, ?_⟩
      rw [startsBody, Bool.or_eq_true, Bool.or_eq_true,
        beq_iff_eq, beq_iff_eq] at hFirst
      rcases hFirst with (hDigit | rfl) | rfl
      · exact Text.isBlank_of_isDigit hDigit
      · rfl
      · rfl
  | plus => exact ⟨'+', _, rfl, rfl⟩
  | minus => exact ⟨'-', _, rfl, rfl⟩

end NumberLiteral

open Pattern

variable {text : String}

theorem leadingLiteral?_of_isLongest
    {l : NumberLiteral}
    {taken rest : List Char}
    (hLongest :
      NumberLiteral.IsLongest (Text.trimLeft text.toList)
        taken rest l) :
    leadingLiteral? text = some taken := by
  rcases NumberLiteral.isLongest_iff.mp hLongest with
    ⟨hText, hScan⟩
  rcases NumberPattern.exists_takesFirst_of_scan hScan with
    ⟨other, hOther, hFirst⟩
  have hSame : other = taken :=
    List.append_cancel_right (hOther.symm.trans hText)
  subst hSame
  exact hFirst.group?_matchAt_spacing hText

theorem leadingLiteral?_eq_none
    (hNone :
      ∀ taken l, taken <+: Text.trimLeft text.toList →
        ¬ NumberLiteral.Spells taken l) :
    leadingLiteral? text = none := by
  have hMatch :
      NumberPattern.leading.matchAt ⟨[], text.toList⟩ =
        none := by
    apply matchAt_spacing_eq_none
    · intro taken hTakes
      rcases NumberPattern.spells_of_takes hTakes with
        ⟨l, hSpells⟩
      exact hSpells.exists_cons
    · intro taken hPrefix hTakes
      rcases NumberPattern.spells_of_takes hTakes with
        ⟨l, hSpells⟩
      exact hNone taken l hPrefix hSpells
  rw [leadingLiteral?, hMatch]
  rfl

theorem scan_eq_none_of_leadingLiteral?
    (hNone : leadingLiteral? text = none) :
    NumberLiteral.scan (Text.trimLeft text.toList) = none := by
  rw [Option.eq_none_iff_forall_ne_some]
  rintro ⟨l, rest⟩ hScan
  rcases NumberLiteral.exists_spells_of_scan hScan with
    ⟨taken, _, hText⟩
  have hSome :=
    leadingLiteral?_of_isLongest
      (NumberLiteral.isLongest_iff.mpr ⟨hText, hScan⟩)
  rw [hNone] at hSome
  cases hSome

/- The longest literal is found. -/
theorem leadingLiteral?_eq_some_iff
    {taken : List Char} :
    leadingLiteral? text = some taken ↔
      ∃ rest l,
        NumberLiteral.IsLongest (Text.trimLeft text.toList)
          taken rest l := by
  constructor
  · intro hFound
    cases hScan :
        NumberLiteral.scan (Text.trimLeft text.toList) with
    | none =>
        have hNone :=
          leadingLiteral?_eq_none fun other l hPrefix =>
            NumberLiteral.not_spells_of_scan_eq_none hScan
              hPrefix l
        rw [hFound] at hNone
        cases hNone
    | some found =>
        rcases found with ⟨l, rest⟩
        rcases NumberLiteral.exists_spells_of_scan hScan with
          ⟨other, _, hText⟩
        have hLongest :=
          NumberLiteral.isLongest_iff.mpr ⟨hText, hScan⟩
        have hOther := leadingLiteral?_of_isLongest hLongest
        rw [hFound, Option.some.injEq] at hOther
        subst hOther
        exact ⟨rest, l, hLongest⟩
  · rintro ⟨rest, l, hLongest⟩
    exact leadingLiteral?_of_isLongest hLongest

/- An exponent without digits is left out. -/
example :
    leadingLiteral? " -1.5e+ kg" = some "-1.5".toList := by
  decide

end Dashboard

------------------------------------------------------------
-- Reading What Is Found
------------------------------------------------------------

namespace Dashboard

/-
  A literal is read as a number without the plus signs before
  it; its infinities have their own spelling.
-/
def parseLiteral? (literal : List Char) : Option Double :=
  let unmarked := literal.dropWhile (· == '+')
  if unmarked = "Infinity".toList then
    some (.infinite false)
  else if unmarked = "-Infinity".toList then
    some (.infinite true)
  else
    Scalar.double? unmarked

variable {text : String}

/- The infinities would be read in any case. -/
theorem parseLiteral?_eq_double? (literal : List Char) :
    parseLiteral? literal =
      Scalar.double? (literal.dropWhile (· == '+')) := by
  unfold parseLiteral?
  dsimp only
  split
  · rename_i hInfinity
    rw [hInfinity]
    rfl
  · split
    · rename_i hInfinity
      rw [hInfinity]
      rfl
    · rfl

theorem floatPrefix?_of_isLongest
    {taken rest : List Char}
    {l : NumberLiteral}
    (hLongest :
      NumberLiteral.IsLongest (Text.trimLeft text.toList)
        taken rest l) :
    floatPrefix? text = some l.value := by
  rw [floatPrefix?, (NumberLiteral.isLongest_iff.mp hLongest).2]

/- The number at the start is what is found there, read. -/
theorem floatPrefix?_eq_bind :
    floatPrefix? text =
      (leadingLiteral? text).bind parseLiteral? := by
  cases hFound : leadingLiteral? text with
  | some taken =>
      rcases leadingLiteral?_eq_some_iff.mp hFound with
        ⟨rest, l, hLongest⟩
      rw [floatPrefix?_of_isLongest hLongest, Option.bind_some,
        parseLiteral?_eq_double?,
        NumberLiteral.double?_of_spells hLongest.spells]
  | none =>
      rw [floatPrefix?, scan_eq_none_of_leadingLiteral? hFound]
      rfl

/- The pattern for whole texts is filled by literals only. -/
theorem NumberPattern.fills_literal (text : List Char) :
    NumberPattern.literal.fills text = true ↔
      ∃ l, NumberLiteral.Spells text l := by
  constructor
  · intro hFills
    exact spells_of_takes (Pattern.takes_of_fills hFills)
  · rintro ⟨l, hSpells⟩
    rcases exists_takesFirst_of_scan
        (NumberLiteral.scan_of_spells hSpells) with
      ⟨taken, rfl, hFirst⟩
    rw [List.append_nil]
    exact hFirst.fills

/- A literal among blanks is found to its end. -/
theorem leadingLiteral?_of_spells_trim
    {l : NumberLiteral}
    (hSpells :
      NumberLiteral.Spells (Text.trim text.toList) l) :
    leadingLiteral? text = some (Text.trim text.toList) := by
  rcases Text.exists_trimLeft_eq_append text.toList with
    ⟨blanks, hText, hBlanks⟩
  have hRest : NumberLiteral.StartsBlank blanks :=
    fun c hHead => hBlanks c (List.mem_of_mem_head? hHead)
  have hScan :
      NumberLiteral.scan (Text.trimLeft text.toList) =
        some (l, blanks) := by
    rw [hText, NumberLiteral.scan_append hRest,
      NumberLiteral.scan_of_spells hSpells]
    rfl
  exact
    leadingLiteral?_of_isLongest
      (NumberLiteral.isLongest_iff.mpr ⟨hText, hScan⟩)

/- Of texts, only blanks are an undefined number. -/
theorem Operand.asNumber?_eq_notANumber_iff :
    Operand.asNumber? (.text text) = some .notANumber ↔
      Text.trim text.toList = [] := by
  refine ⟨?_, asNumber?_of_blank⟩
  intro hUndefined
  have hReads : readsAsNumber text = true := by
    rw [asNumber?] at hUndefined
    split at hUndefined
    · assumption
    · cases hUndefined
  rcases readsAsNumber_iff.mp hReads with
    hBlank | ⟨l, hLiteral⟩ | ⟨n, hBased⟩
  · exact hBlank
  · rw [asNumber?_of_literal hLiteral, Option.some.injEq]
      at hUndefined
    exact absurd hUndefined l.value_ne_notANumber
  · rw [asNumber?_of_based hBased, Option.some.injEq,
      ← NumberLiteral.value_zero] at hUndefined
    exact
      absurd hUndefined NumberLiteral.zero.value_ne_notANumber

end Dashboard

------------------------------------------------------------
-- Main Result
------------------------------------------------------------

namespace Dashboard

/-
  What the pattern finds at the start of a text, after
  blanks, is the longest literal there; it finds nothing only
  if no literal stands there; and what it finds can be read,
  as the number at the start of the text.  A text reads as a
  number if it is blank, or one literal, or a literal in
  another base that fits in 64 bits, with blanks around it.
  A literal is found at its own start as a whole, so only
  blanks are compared as an undefined number.
-/
theorem numberGrammars_agree (text : String) :
    (∀ taken,
      leadingLiteral? text = some taken ↔
        ∃ rest l,
          NumberLiteral.IsLongest (Text.trimLeft text.toList)
            taken rest l) ∧
      (leadingLiteral? text = none ↔
        ∀ taken l, taken <+: Text.trimLeft text.toList →
          ¬ NumberLiteral.Spells taken l) ∧
      (∀ taken, leadingLiteral? text = some taken →
        ∃ l,
          NumberLiteral.Spells taken l ∧
            Scalar.double? (taken.dropWhile (· == '+')) =
              some l.value ∧
            floatPrefix? text = some l.value) ∧
      floatPrefix? text =
        (leadingLiteral? text).bind parseLiteral? ∧
      (readsAsNumber text = true ↔
        Text.trim text.toList = [] ∨
          (∃ l,
            NumberLiteral.Spells (Text.trim text.toList) l) ∨
          ∃ n, SpellsBased (Text.trim text.toList) n) ∧
      (NumberPattern.literal.fills (Text.trim text.toList) =
          true ↔
        ∃ l,
          NumberLiteral.Spells (Text.trim text.toList) l) ∧
      (∀ l,
        NumberLiteral.Spells (Text.trim text.toList) l →
          leadingLiteral? text =
            some (Text.trim text.toList)) ∧
      (Operand.asNumber? (.text text) = some .notANumber ↔
        Text.trim text.toList = []) := by
  refine
    ⟨fun taken => leadingLiteral?_eq_some_iff,
      ⟨?_, leadingLiteral?_eq_none⟩, ?_, floatPrefix?_eq_bind,
      ?_, NumberPattern.fills_literal _,
      fun l => leadingLiteral?_of_spells_trim,
      Operand.asNumber?_eq_notANumber_iff⟩
  · intro hNone taken l hPrefix
    exact
      NumberLiteral.not_spells_of_scan_eq_none
        (scan_eq_none_of_leadingLiteral? hNone) hPrefix l
  · intro taken hFound
    rcases leadingLiteral?_eq_some_iff.mp hFound with
      ⟨rest, l, hLongest⟩
    exact
      ⟨l, hLongest.spells,
        NumberLiteral.double?_of_spells hLongest.spells,
        floatPrefix?_of_isLongest hLongest⟩
  · rw [readsAsNumber_iff]
    simp only [NumberLiteral.spells_iff, spellsBased_iff]

theorem numberGrammars_agree_amid_blanks :
    leadingLiteral? " .5E-3 " = some ".5E-3".toList ∧
      ∃ l,
        NumberLiteral.Spells ".5E-3".toList l ∧
          floatPrefix? " .5E-3 " = some l.value := by
  have hTrim :
      Text.trim " .5E-3 ".toList = ".5E-3".toList := by
    decide
  have hSpells :
      NumberLiteral.Spells (Text.trim " .5E-3 ".toList)
        ⟨false, .decimal [] ['5'] (-3)⟩ := by
    rw [NumberLiteral.spells_iff, hTrim]
    decide
  rcases numberGrammars_agree " .5E-3 " with
    ⟨_, _, hRead, _, _, _, hWhole, _⟩
  have hFound := hWhole _ hSpells
  rw [hTrim] at hFound
  rcases hRead _ hFound with ⟨l, hLiteral, _, hPrefix⟩
  exact ⟨hFound, l, hLiteral, hPrefix⟩

end Dashboard
