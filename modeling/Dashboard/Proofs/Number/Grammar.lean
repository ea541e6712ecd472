import Dashboard.Proofs.Number.Literal
import Dashboard.Proofs.Text.Lowercase
import Dashboard.Settings.Layers

/-
  The grammar of literals, and the scanner for them.  Scanning
  takes the longest text at the start that the grammar allows,
  and takes nothing only where the grammar allows nothing.

  Key definitions include:
    * `NumberLiteral.SpellsPlaces`
    * `NumberLiteral.SpellsExponent`
    * `NumberLiteral.Spells`
    * `NumberLiteral.IsLongest`

  Main declarations:
    * `NumberLiteral.exists_spells_of_scan`
    * `NumberLiteral.exists_suffix_of_spells`
    * `NumberLiteral.spells_iff`
    * `NumberLiteral.isLongest_iff`
    * `NumberLiteral.not_spells_of_scan_eq_none`
    * `NumberLiteral.double?_of_spells`
-/

------------------------------------------------------------
-- The Grammar
------------------------------------------------------------

namespace Dashboard

namespace NumberLiteral

/- Nothing but digits, and at least one of them. -/
structure IsDigits (text : List Char) : Prop where
  ne_nil : text ≠ []
  isDigit : ∀ c ∈ text, Text.isDigit c = true

/- An optional sign. -/
inductive SpellsSign : List Char → Bool → Prop where
  | none : SpellsSign [] false
  | plus : SpellsSign ['+'] false
  | minus : SpellsSign ['-'] true

/-
  Digits, after which a point and more digits may stand, or a
  point and digits.
-/
inductive SpellsPlaces :
    List Char → List Char → List Char → Prop where
  | whole {digits : List Char} :
      IsDigits digits → SpellsPlaces digits digits []
  | point {digits fraction : List Char} :
      IsDigits digits →
        (∀ c ∈ fraction, Text.isDigit c = true) →
          SpellsPlaces (digits ++ '.' :: fraction) digits
            fraction
  | fraction {digits : List Char} :
      IsDigits digits → SpellsPlaces ('.' :: digits) [] digits

/- The letter `e` in either case, an optional sign, digits. -/
inductive SpellsExponent : List Char → Int → Prop where
  | intro
      {mark : Char}
      {sign digits : List Char}
      {negative : Bool} :
      (mark = 'e' ∨ mark = 'E') →
        SpellsSign sign negative →
          IsDigits digits →
            SpellsExponent (mark :: (sign ++ digits))
              (Binary.signed negative
                (Decimal.valueOf digits))

/-
  `Infinity`, or digits with at most one point and perhaps an
  exponent.
-/
inductive SpellsBody : List Char → NumberBody → Prop where
  | infinity : SpellsBody "Infinity".toList .infinity
  | plain {places whole fraction : List Char} :
      SpellsPlaces places whole fraction →
        SpellsBody places (.decimal whole fraction 0)
  | scaled
      {places exponent whole fraction : List Char}
      {n : Int} :
      SpellsPlaces places whole fraction →
        SpellsExponent exponent n →
          SpellsBody (places ++ exponent)
            (.decimal whole fraction n)

/- A text that is one literal, with its parts. -/
inductive Spells : List Char → NumberLiteral → Prop where
  | intro
      {sign written : List Char}
      {negative : Bool}
      {body : NumberBody} :
      SpellsSign sign negative →
        SpellsBody written body →
          Spells (sign ++ written) ⟨negative, body⟩

/- The longest literal at the start of a text. -/
structure IsLongest
    (text taken rest : List Char)
    (literal : NumberLiteral) : Prop where
  text_eq : text = taken ++ rest
  spells : Spells taken literal
  length_le :
    ∀ other l,
      other <+: text →
        Spells other l → other.length ≤ taken.length

end NumberLiteral

end Dashboard

------------------------------------------------------------
-- First Characters
------------------------------------------------------------

namespace Dashboard

namespace NumberLiteral

variable {text more : List Char}

/- What the body of a literal may start with. -/
def startsBody (c : Char) : Bool :=
  Text.isDigit c || c == '.' || c == 'I'

/- What may follow a literal without changing its places. -/
def EndsPlaces (more : List Char) : Prop :=
  ∀ c ∈ more.head?, Text.isDigit c = false ∧ c ≠ '.'

theorem IsDigits.exists_cons (hText : IsDigits text) :
    ∃ c rest, text = c :: rest ∧ Text.isDigit c = true := by
  rcases List.exists_cons_of_ne_nil hText.ne_nil with
    ⟨c, rest, rfl⟩
  exact ⟨c, rest, rfl, hText.isDigit c List.mem_cons_self⟩

theorem SpellsPlaces.exists_cons
    {whole fraction : List Char}
    (hText : SpellsPlaces text whole fraction) :
    ∃ c rest,
      text = c :: rest ∧
        (Text.isDigit c = true ∨ c = '.') := by
  cases hText with
  | whole hDigits =>
      rcases hDigits.exists_cons with ⟨c, rest, rfl, hDigit⟩
      exact ⟨c, rest, rfl, .inl hDigit⟩
  | point hDigits _ =>
      rcases hDigits.exists_cons with ⟨c, rest, rfl, hDigit⟩
      exact ⟨c, _, rfl, .inl hDigit⟩
  | fraction _ => exact ⟨'.', _, rfl, .inr rfl⟩

theorem SpellsBody.exists_cons
    {body : NumberBody}
    (hText : SpellsBody text body) :
    ∃ c rest, text = c :: rest ∧ startsBody c = true := by
  cases hText with
  | infinity => exact ⟨'I', _, rfl, rfl⟩
  | plain hPlaces =>
      rcases hPlaces.exists_cons with ⟨c, rest, rfl, hFirst⟩
      refine ⟨c, rest, rfl, ?_⟩
      simpa [startsBody] using .inl hFirst
  | scaled hPlaces _ =>
      rcases hPlaces.exists_cons with ⟨c, rest, rfl, hFirst⟩
      refine ⟨c, _, rfl, ?_⟩
      simpa [startsBody] using .inl hFirst

/- A body has no sign before it. -/
theorem scanSign_of_startsBody
    {c : Char}
    (hFirst : startsBody c = true)
    (rest : List Char) :
    scanSign (c :: rest) = (false, c :: rest) := by
  have hPlus : c ≠ '+' := by
    rintro rfl
    cases hFirst
  have hMinus : c ≠ '-' := by
    rintro rfl
    cases hFirst
  simp [scanSign, hPlus, hMinus]

theorem scanSign_append_startsBody
    {sign : List Char}
    {negative : Bool}
    (hSign : SpellsSign sign negative)
    {c : Char}
    (hFirst : startsBody c = true)
    (rest : List Char) :
    scanSign (sign ++ c :: rest) = (negative, c :: rest) := by
  cases hSign with
  | none => exact scanSign_of_startsBody hFirst rest
  | plus => rfl
  | minus => rfl

theorem IsDigits.startsBody (hText : IsDigits text) :
    ∃ c rest, text = c :: rest ∧ startsBody c = true := by
  rcases hText.exists_cons with ⟨c, rest, rfl, hDigit⟩
  refine ⟨c, rest, rfl, ?_⟩
  rw [NumberLiteral.startsBody, hDigit]
  rfl

theorem scanSign_append_digits
    {sign digits : List Char}
    {negative : Bool}
    (hSign : SpellsSign sign negative)
    (hDigits : IsDigits digits)
    (rest : List Char) :
    scanSign (sign ++ (digits ++ rest)) =
      (negative, digits ++ rest) := by
  rcases hDigits.startsBody with ⟨c, others, rfl, hFirst⟩
  exact scanSign_append_startsBody hSign hFirst _

theorem SpellsExponent.endsPlaces
    {n : Int}
    (hText : SpellsExponent text n)
    (more : List Char) :
    EndsPlaces (text ++ more) := by
  rcases hText with ⟨hMark, _, _⟩
  rintro c ⟨⟩
  rcases hMark with rfl | rfl
  · exact ⟨by decide, by decide⟩
  · exact ⟨by decide, by decide⟩

theorem endsPlaces_nil : EndsPlaces [] := by
  rintro c ⟨⟩

theorem not_isPrefixOf_infinity
    {c : Char}
    (hFirst : Text.isDigit c = true ∨ c = '.')
    (rest : List Char) :
    "Infinity".toList.isPrefixOf (c :: rest) = false := by
  have hLetter : 'I' ≠ c := by
    rintro rfl
    rcases hFirst with hDigit | hPoint
    · cases hDigit
    · cases hPoint
  have hWord :
      "Infinity".toList = 'I' :: "nfinity".toList := rfl
  rw [hWord, List.isPrefixOf, beq_false_of_ne hLetter]
  rfl

end NumberLiteral

end Dashboard

------------------------------------------------------------
-- What Is Scanned Is Spelled
------------------------------------------------------------

namespace Dashboard

namespace NumberLiteral

variable {text rest : List Char}

theorem SpellsSign.mem
    {sign : List Char}
    {negative : Bool}
    (hSign : SpellsSign sign negative) :
    sign ∈ [[], ['+'], ['-']] := by
  cases hSign with
  | none => exact .head _
  | plus => exact .tail _ (.head _)
  | minus => exact .tail _ (.tail _ (.head _))

theorem exists_spellsSign (text : List Char) :
    ∃ sign,
      SpellsSign sign (scanSign text).1 ∧
        text = sign ++ (scanSign text).2 := by
  unfold scanSign
  split
  · exact ⟨['+'], .plus, rfl⟩
  · exact ⟨['-'], .minus, rfl⟩
  · exact ⟨[], .none, rfl⟩

theorem isDigit_of_mem_scanDigits (text : List Char) :
    ∀ c ∈ (scanDigits text).1, Text.isDigit c = true :=
  fun _ hMem => List.mem_takeWhile_imp hMem

theorem scanDigits_eq (text : List Char) :
    text = (scanDigits text).1 ++ (scanDigits text).2 :=
  List.takeWhile_append_dropWhile.symm

theorem isDigits_scanDigits
    (hSome : (scanDigits text).1.isEmpty = false) :
    IsDigits (scanDigits text).1 :=
  ⟨List.isEmpty_eq_false_iff.mp hSome,
    isDigit_of_mem_scanDigits text⟩

theorem not_isDigit_of_scanDigits (text : List Char) :
    ∀ c ∈ (scanDigits text).2.head?,
      Text.isDigit c = false := by
  intro c hHead
  have hFirst :
      (text.dropWhile Text.isDigit).head? = some c := hHead
  have hNext := List.head?_dropWhile_not Text.isDigit text
  rw [hFirst] at hNext
  exact hNext

/-
  An exponent with all the digits that stand there is
  scanned, or nothing is.
-/
theorem spellsExponent_or_of_scanExponent (text : List Char) :
    scanExponent text = (0, text) ∨
      ∃ exponent,
        SpellsExponent exponent (scanExponent text).1 ∧
          text = exponent ++ (scanExponent text).2 ∧
          ∀ c ∈ (scanExponent text).2.head?,
            Text.isDigit c = false := by
  cases text with
  | nil => exact .inl rfl
  | cons mark unmarked =>
      unfold scanExponent
      dsimp only
      split
      · rename_i hMark
        rcases exists_spellsSign unmarked with
          ⟨sign, hSign, hUnmarked⟩
        split
        · exact .inl rfl
        · rename_i hDigits
          rw [Bool.not_eq_true] at hDigits
          right
          refine
            ⟨_,
              .intro (by simpa using hMark) hSign
                (isDigits_scanDigits hDigits),
              ?_, not_isDigit_of_scanDigits _⟩
          rw [List.cons_append, List.append_assoc,
            ← scanDigits_eq, ← hUnmarked]
      · exact .inl rfl

/-
  Places are scanned with all the digits that stand there,
  and with the point.
-/
theorem of_scanPlaces_eq_some
    {whole fraction : List Char}
    (hScan :
      scanPlaces text = some (whole, fraction, rest)) :
    (∀ c ∈ whole, Text.isDigit c = true) ∧
      (∀ c ∈ fraction, Text.isDigit c = true) ∧
      (∀ c ∈ rest.head?, Text.isDigit c = false) ∧
      (whole ≠ [] ∧ fraction = [] ∧ EndsPlaces rest ∧
          text = whole ++ rest ∨
        (whole ≠ [] ∨ fraction ≠ []) ∧
          text = whole ++ '.' :: (fraction ++ rest)) := by
  have hText := scanDigits_eq text
  have hStop := not_isDigit_of_scanDigits text
  unfold scanPlaces at hScan
  dsimp only at hScan
  split at hScan
  · rename_i more hAfter
    rw [hAfter, scanDigits_eq more] at hText
    split at hScan
    · cases hScan
    · rename_i hSome
      cases hScan
      rw [Bool.and_eq_true, List.isEmpty_iff,
        List.isEmpty_iff, not_and_or] at hSome
      exact
        ⟨isDigit_of_mem_scanDigits text,
          isDigit_of_mem_scanDigits more,
          not_isDigit_of_scanDigits more, .inr ⟨hSome, hText⟩⟩
  · rename_i hOther
    split at hScan
    · cases hScan
    · rename_i hSome
      cases hScan
      rw [List.isEmpty_iff] at hSome
      refine
        ⟨isDigit_of_mem_scanDigits text,
          List.forall_mem_nil _, hStop,
          .inl ⟨hSome, rfl, ?_, hText⟩⟩
      intro c hHead
      refine ⟨hStop c hHead, ?_⟩
      rintro rfl
      rcases List.head?_eq_some_iff.mp hHead with ⟨more, hMore⟩
      exact hOther more hMore

theorem exists_spellsPlaces
    {whole fraction : List Char}
    (hScan :
      scanPlaces text = some (whole, fraction, rest)) :
    ∃ places,
      SpellsPlaces places whole fraction ∧
        text = places ++ rest := by
  rcases of_scanPlaces_eq_some hScan with
    ⟨hWhole, hFraction, _,
      ⟨hSome, rfl, _, hText⟩ | ⟨hSome, hText⟩⟩
  · exact ⟨whole, .whole ⟨hSome, hWhole⟩, hText⟩
  · by_cases hNone : whole = []
    · subst hNone
      have hDigits : IsDigits fraction :=
        ⟨hSome.resolve_left (not_not_intro rfl), hFraction⟩
      exact ⟨_, .fraction hDigits, hText⟩
    · refine ⟨_, .point ⟨hNone, hWhole⟩ hFraction, ?_⟩
      rw [hText, List.append_assoc, List.cons_append]

theorem exists_spellsBody
    {body : NumberBody}
    (hScan : scanBody text = some (body, rest)) :
    ∃ written,
      SpellsBody written body ∧ text = written ++ rest := by
  unfold scanBody at hScan
  dsimp only at hScan
  split at hScan
  · rename_i hPrefix
    rcases List.isPrefixOf_iff_prefix.mp hPrefix with
      ⟨more, rfl⟩
    cases hScan
    exact ⟨_, .infinity, by rw [List.drop_left]⟩
  · split at hScan
    · cases hScan
    · rename_i whole fraction after hPlaces
      cases hScan
      rcases exists_spellsPlaces hPlaces with
        ⟨places, hSpells, rfl⟩
      rcases spellsExponent_or_of_scanExponent after with
        hNone | ⟨exponent, hExponent, hAfter, _⟩
      · rw [hNone]
        exact ⟨places, .plain hSpells, rfl⟩
      · refine ⟨_, .scaled hSpells hExponent, ?_⟩
        rw [List.append_assoc, ← hAfter]

/- What is scanned is the literal that the text spells. -/
theorem exists_spells_of_scan
    {literal : NumberLiteral}
    (hScan : scan text = some (literal, rest)) :
    ∃ taken, Spells taken literal ∧ text = taken ++ rest := by
  rcases exists_spellsSign text with ⟨sign, hSign, hText⟩
  unfold scan at hScan
  dsimp only at hScan
  split at hScan
  · cases hScan
  · rename_i body after hBody
    cases hScan
    rcases exists_spellsBody hBody with
      ⟨written, hWritten, hUnsigned⟩
    refine ⟨_, .intro hSign hWritten, ?_⟩
    rw [List.append_assoc, ← hUnsigned, ← hText]

end NumberLiteral

end Dashboard

------------------------------------------------------------
-- What Is Spelled Is Scanned
------------------------------------------------------------

namespace Dashboard

namespace NumberLiteral

variable {text : List Char}

theorem scanDigits_of_isDigits
    {digits more : List Char}
    (hDigits : ∀ c ∈ digits, Text.isDigit c = true) :
    scanDigits (digits ++ more) =
      (digits ++ (scanDigits more).1, (scanDigits more).2) := by
  unfold scanDigits
  rw [List.takeWhile_append_of_pos hDigits,
    List.dropWhile_append_of_pos hDigits]

theorem scanDigits_suffix (text : List Char) :
    (scanDigits text).2 <:+ text :=
  List.dropWhile_suffix _

theorem scanExponent_suffix (text : List Char) :
    (scanExponent text).2 <:+ text := by
  rcases spellsExponent_or_of_scanExponent text with
    hNone | ⟨exponent, _, hText, _⟩
  · have hAll : (scanExponent text).2 = text := by
      rw [hNone]
    exact ⟨[], hAll⟩
  · exact ⟨exponent, hText.symm⟩

/- The exponent is scanned, and perhaps more digits. -/
theorem scanExponent_of_spells
    {n : Int}
    (hText : SpellsExponent text n)
    (more : List Char) :
    (scanExponent (text ++ more)).2 <:+ more ∧
      scanExponent text = (n, []) := by
  rcases hText with ⟨hMark, hSign, hDigits⟩
  rename_i mark sign digits negative
  have hTest : (mark = 'e' || mark = 'E') = true := by
    simpa using hMark
  have hScan :
      ∀ tail,
        scanExponent (mark :: (sign ++ (digits ++ tail))) =
          (Binary.signed negative
              (Decimal.valueOf
                (digits ++ (scanDigits tail).1)),
            (scanDigits tail).2) := by
    intro tail
    have hUnsigned :
        scanSign (sign ++ (digits ++ tail)) =
          (negative, digits ++ tail) :=
      scanSign_append_digits hSign hDigits tail
    have hSome :
        (digits ++ (scanDigits tail).1).isEmpty = false :=
      List.isEmpty_eq_false_iff.mpr
        (List.append_ne_nil_of_left_ne_nil hDigits.ne_nil _)
    unfold scanExponent
    dsimp only
    rw [if_pos hTest, hUnsigned]
    dsimp only
    rw [scanDigits_of_isDigits hDigits.isDigit]
    dsimp only
    rw [hSome]
    rfl
  constructor
  · rw [List.cons_append, List.append_assoc, hScan]
    exact scanDigits_suffix more
  · have hAlone := hScan []
    rw [List.append_nil] at hAlone
    rw [hAlone]
    simp [scanDigits]

theorem EndsPlaces.scanDigits
    {more : List Char}
    (hMore : EndsPlaces more) :
    NumberLiteral.scanDigits more = ([], more) :=
  scanDigits_append (List.forall_mem_nil _)
    fun c hHead => (hMore c hHead).1

/- Around a point all digits are taken. -/
theorem scanPlaces_point
    {whole fraction : List Char}
    (hWhole : ∀ c ∈ whole, Text.isDigit c = true)
    (hFraction : ∀ c ∈ fraction, Text.isDigit c = true)
    (hSome : whole ≠ [] ∨ fraction ≠ [])
    (more : List Char) :
    scanPlaces (whole ++ '.' :: (fraction ++ more)) =
      some (whole, fraction ++ (scanDigits more).1,
        (scanDigits more).2) := by
  have hPoint :
      ∀ c ∈ ('.' :: (fraction ++ more)).head?,
        Text.isDigit c = false := by
    rintro c ⟨⟩
    rfl
  have hDigits :
      ¬ (whole.isEmpty &&
          (fraction ++ (scanDigits more).1).isEmpty) =
        true := by
    rw [Bool.and_eq_true, List.isEmpty_iff, List.isEmpty_iff,
      List.append_eq_nil_iff]
    rintro ⟨hNoWhole, hNoFraction, _⟩
    exact hSome.elim (absurd hNoWhole) (absurd hNoFraction)
  unfold scanPlaces
  rw [scanDigits_append hWhole hPoint]
  simp only []
  rw [scanDigits_of_isDigits hFraction]
  dsimp only
  rw [if_neg hDigits]

/- After leading digits something is found. -/
theorem exists_scanPlaces_of_isDigits
    {digits : List Char}
    (hDigits : IsDigits digits)
    (more : List Char) :
    ∃ w f after,
      scanPlaces (digits ++ more) = some (w, f, after) ∧
        after <:+ more := by
  rcases hDigits.exists_cons with ⟨c, others, hCons, _⟩
  have hSome :
      (digits ++ (scanDigits more).1).isEmpty = false := by
    rw [hCons]
    rfl
  have hSuffix := scanDigits_suffix more
  unfold scanPlaces
  rw [scanDigits_of_isDigits hDigits.isDigit]
  dsimp only
  rw [hSome]
  split
  · rename_i beyond hAfter
    rw [hAfter] at hSuffix
    exact
      ⟨_, _, _, rfl,
        (scanDigits_suffix beyond).trans
          ((List.suffix_cons _ _).trans hSuffix)⟩
  · exact ⟨_, _, _, rfl, hSuffix⟩

/- The places are scanned, and perhaps more of the text. -/
theorem exists_suffix_of_spellsPlaces
    {whole fraction : List Char}
    (hText : SpellsPlaces text whole fraction)
    (more : List Char) :
    ∃ w f after,
      scanPlaces (text ++ more) = some (w, f, after) ∧
        after <:+ more := by
  cases hText with
  | whole hDigits =>
      exact exists_scanPlaces_of_isDigits hDigits more
  | point hDigits hFraction =>
      rw [List.append_assoc, List.cons_append]
      exact
        ⟨_, _, _,
          scanPlaces_point hDigits.isDigit hFraction
            (.inl hDigits.ne_nil) more,
          scanDigits_suffix more⟩
  | fraction hDigits =>
      exact
        ⟨_, _, _,
          scanPlaces_point (List.forall_mem_nil _)
            hDigits.isDigit (.inr hDigits.ne_nil) more,
          scanDigits_suffix more⟩

/- No more of it, if neither digit nor point follows. -/
theorem scanPlaces_of_spells
    {whole fraction : List Char}
    (hText : SpellsPlaces text whole fraction)
    {more : List Char}
    (hMore : EndsPlaces more) :
    scanPlaces (text ++ more) =
      some (whole, fraction, more) := by
  cases hText with
  | whole hDigits =>
      have hSome : text.isEmpty = false :=
        List.isEmpty_eq_false_iff.mpr hDigits.ne_nil
      unfold scanPlaces
      rw [scanDigits_append hDigits.isDigit
        fun c hHead => (hMore c hHead).1]
      dsimp only
      rw [hSome]
      split
      · exact absurd rfl (hMore '.' rfl).2
      · rfl
  | point hDigits hFraction =>
      rw [List.append_assoc, List.cons_append,
        scanPlaces_point hDigits.isDigit hFraction
          (.inl hDigits.ne_nil),
        hMore.scanDigits, List.append_nil]
  | fraction hDigits =>
      have hScan :=
        scanPlaces_point (List.forall_mem_nil _)
          hDigits.isDigit (.inr hDigits.ne_nil) more
      rw [hMore.scanDigits, List.append_nil] at hScan
      exact hScan

theorem scanBody_infinity (more : List Char) :
    scanBody ("Infinity".toList ++ more) =
      some (.infinity, more) := by
  have hPrefix :
      "Infinity".toList.isPrefixOf
          ("Infinity".toList ++ more) =
        true :=
    List.isPrefixOf_iff_prefix.mpr (List.prefix_append _ _)
  unfold scanBody
  dsimp only
  rw [if_pos hPrefix, List.drop_left]

theorem scanBody_of_scanPlaces
    {whole fraction after : List Char}
    {c : Char}
    {rest : List Char}
    (hText : text = c :: rest)
    (hFirst : Text.isDigit c = true ∨ c = '.')
    (hPlaces :
      scanPlaces text = some (whole, fraction, after)) :
    scanBody text =
      some
        (.decimal whole fraction (scanExponent after).1,
          (scanExponent after).2) := by
  unfold scanBody
  dsimp only
  rw [hPlaces, hText, not_isPrefixOf_infinity hFirst]
  rfl

theorem exists_suffix_of_spellsBody
    {body : NumberBody}
    (hText : SpellsBody text body)
    (more : List Char) :
    ∃ found rest,
      scanBody (text ++ more) = some (found, rest) ∧
        rest <:+ more := by
  cases hText with
  | infinity =>
      exact
        ⟨_, _, scanBody_infinity more, List.suffix_refl _⟩
  | plain hPlaces =>
      rcases hPlaces.exists_cons with
        ⟨c, others, hCons, hFirst⟩
      rcases exists_suffix_of_spellsPlaces hPlaces more with
        ⟨w, f, after, hScan, hSuffix⟩
      have hStart : text ++ more = c :: (others ++ more) := by
        rw [hCons, List.cons_append]
      exact
        ⟨_, _, scanBody_of_scanPlaces hStart hFirst hScan,
          (scanExponent_suffix after).trans hSuffix⟩
  | @scaled places exponent _ _ _ hPlaces hExponent =>
      rcases hPlaces.exists_cons with
        ⟨c, others, hCons, hFirst⟩
      have hScan :=
        scanPlaces_of_spells hPlaces (hExponent.endsPlaces more)
      have hStart :
          places ++ (exponent ++ more) =
            c :: (others ++ (exponent ++ more)) := by
        rw [hCons, List.cons_append]
      rw [List.append_assoc]
      exact
        ⟨_, _, scanBody_of_scanPlaces hStart hFirst hScan,
          (scanExponent_of_spells hExponent more).1⟩

/- A number without a sign is scanned to its end. -/
theorem exists_scanPlaces_of_spellsBody
    {whole fraction : List Char}
    {n : Int}
    (hText : SpellsBody text (.decimal whole fraction n)) :
    ∃ c others after,
      text = c :: others ∧
        (Text.isDigit c = true ∨ c = '.') ∧
        scanPlaces text = some (whole, fraction, after) ∧
        scanExponent after = (n, []) := by
  cases hText with
  | plain hPlaces =>
      rcases hPlaces.exists_cons with
        ⟨c, others, hCons, hFirst⟩
      have hScan := scanPlaces_of_spells hPlaces endsPlaces_nil
      rw [List.append_nil] at hScan
      exact ⟨c, others, [], hCons, hFirst, hScan, rfl⟩
  | @scaled places exponent _ _ _ hPlaces hExponent =>
      rcases hPlaces.exists_cons with
        ⟨c, others, rfl, hFirst⟩
      have hEnds := hExponent.endsPlaces []
      rw [List.append_nil] at hEnds
      exact
        ⟨c, others ++ exponent, exponent, rfl, hFirst,
          scanPlaces_of_spells hPlaces hEnds,
          (scanExponent_of_spells hExponent []).2⟩

theorem scanBody_of_spells
    {body : NumberBody}
    (hText : SpellsBody text body) :
    scanBody text = some (body, []) := by
  cases body with
  | infinity =>
      cases hText
      exact scanBody_infinity []
  | decimal whole fraction n =>
      rcases exists_scanPlaces_of_spellsBody hText with
        ⟨c, others, after, hCons, hFirst, hScan, hExponent⟩
      rw [scanBody_of_scanPlaces hCons hFirst hScan, hExponent]

/- What is spelled is scanned to its end. -/
theorem scan_of_spells
    {literal : NumberLiteral}
    (hText : Spells text literal) :
    scan text = some (literal, []) := by
  rcases hText with ⟨hSign, hBody⟩
  rcases hBody.exists_cons with ⟨c, others, hCons, hFirst⟩
  unfold scan
  rw [hCons, scanSign_append_startsBody hSign hFirst]
  dsimp only
  rw [← hCons, scanBody_of_spells hBody]

/- Whatever follows it, no less than that is taken. -/
theorem exists_suffix_of_spells
    {literal : NumberLiteral}
    (hText : Spells text literal)
    (more : List Char) :
    ∃ found rest,
      scan (text ++ more) = some (found, rest) ∧
        rest <:+ more := by
  rcases hText with ⟨hSign, hBody⟩
  rename_i sign written negative body
  rcases hBody.exists_cons with ⟨c, others, hCons, hFirst⟩
  rcases exists_suffix_of_spellsBody hBody more with
    ⟨found, rest, hScan, hSuffix⟩
  refine ⟨⟨negative, found⟩, rest, ?_, hSuffix⟩
  unfold scan
  rw [List.append_assoc, hCons, List.cons_append,
    scanSign_append_startsBody hSign hFirst]
  dsimp only
  rw [← List.cons_append, ← hCons, hScan]

end NumberLiteral

end Dashboard

------------------------------------------------------------
-- The Longest Literal
------------------------------------------------------------

namespace Dashboard

namespace NumberLiteral

variable {text : List Char}

/- A text that is one literal spells it, and no other. -/
theorem spells_iff {literal : NumberLiteral} :
    Spells text literal ↔ scan text = some (literal, []) := by
  refine ⟨scan_of_spells, ?_⟩
  intro hScan
  rcases exists_spells_of_scan hScan with
    ⟨taken, hSpells, hText⟩
  rwa [hText, List.append_nil]

/- The longest literal at the start is scanned. -/
theorem isLongest_iff
    {taken rest : List Char}
    {literal : NumberLiteral} :
    IsLongest text taken rest literal ↔
      text = taken ++ rest ∧
        scan text = some (literal, rest) := by
  constructor
  · rintro ⟨hText, hSpells, hLongest⟩
    rcases exists_suffix_of_spells hSpells rest with
      ⟨found, left, hScan, hSuffix⟩
    rw [← hText] at hScan
    rcases exists_spells_of_scan hScan with
      ⟨other, hOther, hAgain⟩
    have hLength :=
      hLongest other found ⟨left, hAgain.symm⟩ hOther
    have hWhole :=
      congrArg List.length (hText.symm.trans hAgain)
    rw [List.length_append, List.length_append] at hWhole
    have hLeft : left = rest :=
      hSuffix.eq_of_length_le (by omega)
    subst hLeft
    have hSame : taken = other :=
      List.append_cancel_right (hText.symm.trans hAgain)
    subst hSame
    have hFound :=
      (scan_of_spells hOther).symm.trans
        (scan_of_spells hSpells)
    rw [Option.some.injEq, Prod.mk.injEq] at hFound
    exact ⟨hText, by rw [hScan, hFound.1]⟩
  · rintro ⟨hText, hScan⟩
    rcases exists_spells_of_scan hScan with
      ⟨spelled, hSpells, hAgain⟩
    have hSame : spelled = taken :=
      List.append_cancel_right (hAgain.symm.trans hText)
    subst hSame
    refine ⟨hText, hSpells, ?_⟩
    rintro other l ⟨more, hOther⟩ hSpelled
    rcases exists_suffix_of_spells hSpelled more with
      ⟨found, left, hFound, hSuffix⟩
    rw [hOther, hScan, Option.some.injEq, Prod.mk.injEq]
      at hFound
    have hLength := hSuffix.length_le
    rw [← hFound.2] at hLength
    have hWhole :=
      congrArg List.length (hText.symm.trans hOther.symm)
    rw [List.length_append, List.length_append] at hWhole
    omega

/- Nothing is scanned only where no literal stands. -/
theorem not_spells_of_scan_eq_none
    (hScan : scan text = none)
    {other : List Char}
    (hPrefix : other <+: text)
    (literal : NumberLiteral) :
    ¬ Spells other literal := by
  rcases hPrefix with ⟨more, rfl⟩
  intro hSpells
  rcases exists_suffix_of_spells hSpells more with
    ⟨found, rest, hFound, _⟩
  rw [hScan] at hFound
  cases hFound

end NumberLiteral

end Dashboard

------------------------------------------------------------
-- Literals As Numbers
------------------------------------------------------------

namespace Dashboard

namespace NumberLiteral

variable {text : List Char}

/- What starts like this is neither `inf` nor `nan`. -/
theorem magnitude?_of_scanPlaces
    {c : Char}
    {others whole fraction after : List Char}
    (hText : text = c :: others)
    (hFirst : Text.isDigit c = true ∨ c = '.')
    (hPlaces :
      scanPlaces text = some (whole, fraction, after))
    (hEnd : (scanExponent after).2 = [])
    (negative : Bool) :
    Scalar.magnitude? negative text =
      some
        (value
          ⟨negative,
            .decimal whole fraction
              (scanExponent after).1⟩) := by
  have hLower : c.toLower = c := by
    rcases hFirst with hDigit | rfl
    · have hAll := Text.isLower_of_isDigit hDigit
      rw [Text.isLower, Bool.and_eq_true, beq_iff_eq] at hAll
      exact hAll.2
    · rfl
  have hName :
      ∀ name : String,
        (∀ d ∈ name.toList.head?,
          Text.isDigit d = false ∧ d ≠ '.') →
        String.ofList (text.map Char.toLower) ≠ name := by
    rintro name hOther rfl
    rw [String.toList_ofList, hText, List.map_cons, hLower]
      at hOther
    rcases hOther c rfl with ⟨hNoDigit, hNoPoint⟩
    rcases hFirst with hDigit | hPoint
    · exact Bool.false_ne_true (hNoDigit.symm.trans hDigit)
    · exact hNoPoint hPoint
  have hInf := hName "inf" (by rintro d ⟨⟩; decide)
  have hInfinity := hName "infinity" (by rintro d ⟨⟩; decide)
  have hNan := hName "nan" (by rintro d ⟨⟩; decide)
  simp [Scalar.magnitude?, hInf, hInfinity, hNan, hPlaces, hEnd]

theorem magnitude?_of_spellsBody
    {body : NumberBody}
    (hText : SpellsBody text body)
    (negative : Bool) :
    Scalar.magnitude? negative text =
      some (value ⟨negative, body⟩) := by
  cases body with
  | infinity =>
      cases hText
      rfl
  | decimal whole fraction n =>
      rcases exists_scanPlaces_of_spellsBody hText with
        ⟨c, others, after, hCons, hFirst, hScan, hExponent⟩
      rw [magnitude?_of_scanPlaces hCons hFirst hScan
          (by rw [hExponent]),
        hExponent]

/-
  A literal without the plus signs before it is read as a
  number, the one nearest to it.
-/
theorem double?_of_spells
    {literal : NumberLiteral}
    (hText : Spells text literal) :
    Scalar.double? (text.dropWhile (· == '+')) =
      some literal.value := by
  rcases hText with ⟨hSign, hBody⟩
  rename_i sign written negative body
  rcases hBody.exists_cons with ⟨c, others, hCons, hFirst⟩
  have hPlus : (c == '+') = false := by
    rw [beq_eq_false_iff_ne]
    rintro rfl
    cases hFirst
  have hScan :
      scanSign ((sign ++ written).dropWhile (· == '+')) =
        (negative, written) := by
    rw [hCons]
    cases hSign with
    | none =>
        simpa [hPlus] using scanSign_of_startsBody hFirst others
    | plus =>
        simpa [hPlus] using scanSign_of_startsBody hFirst others
    | minus => rfl
  unfold Scalar.double?
  rw [hScan]
  exact magnitude?_of_spellsBody hBody negative

end NumberLiteral

end Dashboard
