import Dashboard.Proofs.Text.Lowercase

/-
  Lowercase texts stay as they are.  Nothing that the table of
  lowercase letters maps to lies in one of its ranges, so what
  a character becomes has no other lowercase, and one pass
  settles a whole text.  The case of ASCII letters makes no
  difference to the lowercase form.

  Key definitions include:
    * `Text.changing`
    * `Text.isSettled`
    * `Text.codeSet`

  Main declarations:
    * `Text.isSettled_of_mem_lowercase`
    * `Text.lowercase_lowercase`
    * `Text.lowercase_map_toLower`
-/

------------------------------------------------------------
-- Settled Characters
------------------------------------------------------------

namespace Dashboard.Text

/-
  The ranges of characters that a lowercase text has not:
  the ASCII capitals, capital I with dot above, capital
  sigma, and those of the table.
-/
def changing : List CaseRange :=
  ⟨0x41, 0x5A, 1, 32⟩ :: ⟨0x130, 0x130, 1, 0⟩ ::
    ⟨0x3A3, 0x3A3, 1, 32⟩ :: lowercaseRanges

/- A character in none of these ranges. -/
def isSettled (c : Char) : Bool :=
  changing.all fun r => !r.covers c.toNat

theorem isSettled_iff (c : Char) :
    isSettled c = true ↔
      ∀ r ∈ changing, r.covers c.toNat = false := by
  simp [isSettled]

/- The capitals by their codes. -/
theorem isUpper_iff (c : Char) :
    c.isUpper = true ↔ 65 ≤ c.toNat ∧ c.toNat ≤ 90 := by
  have hUpper :
      c.isUpper =
        decide (c.val ≥ 'A'.val ∧ c.val ≤ 'Z'.val) := rfl
  rw [hUpper, decide_eq_true_iff, ge_iff_le,
    UInt32.le_iff_toNat_le, UInt32.le_iff_toNat_le]
  rfl

theorem not_isUpper_of_isSettled
    {c : Char}
    (hSettled : isSettled c = true) :
    ¬ c.isUpper = true := by
  rw [isSettled_iff] at hSettled
  have hCapitals := hSettled ⟨0x41, 0x5A, 1, 32⟩ (.head _)
  simp [CaseRange.covers, Nat.mod_one] at hCapitals
  rw [isUpper_iff]
  omega

/- Only capitals are changed. -/
theorem toLower_of_not_isUpper
    {c : Char}
    (hCapital : ¬ c.isUpper = true) :
    c.toLower = c := by
  have hRange : ¬ (c.val ≥ 'A'.val ∧ c.val ≤ 'Z'.val) :=
    fun hIn => hCapital (decide_eq_true hIn)
  exact dif_neg hRange

/- A settled character stays as it is. -/
theorem lowercaseAt_of_isSettled
    {c : Char}
    (hSettled : isSettled c = true)
    (before after : List Char) :
    lowercaseAt before c after = [c] := by
  have hCapital := not_isUpper_of_isSettled hSettled
  rw [isSettled_iff] at hSettled
  have hDotted : c ≠ 'İ' := by
    rintro rfl
    have hCode := hSettled ⟨0x130, 0x130, 1, 0⟩
    simp [changing, CaseRange.covers] at hCode
  have hSigma : c ≠ 'Σ' := by
    rintro rfl
    have hCode := hSettled ⟨0x3A3, 0x3A3, 1, 32⟩
    simp [changing, CaseRange.covers] at hCode
  rw [lowercaseAt, if_neg hDotted, if_neg hSigma,
    lowercaseChar]
  split
  · rw [toLower_of_not_isUpper hCapital]
  · have hNone :
        lowercaseRanges.find? (·.covers c.toNat) = none := by
      rw [List.find?_eq_none]
      intro r hMem
      simp [hSettled r (by simp [changing, hMem])]
    rw [hNone]

/- A settled text stays as it is. -/
theorem lowercaseAfter_of_isSettled
    {text : List Char}
    (hSettled : ∀ c ∈ text, isSettled c = true)
    (before : List Char) :
    lowercaseAfter before text = text := by
  induction text generalizing before with
  | nil => rfl
  | cons c rest ih =>
      rw [List.forall_mem_cons] at hSettled
      rw [lowercaseAfter,
        lowercaseAt_of_isSettled hSettled.1,
        ih hSettled.2]
      rfl

end Dashboard.Text

------------------------------------------------------------
-- Sets Of Code Points
------------------------------------------------------------

namespace Dashboard.Text

/- The code points that a range covers. -/
def CaseRange.codes (r : CaseRange) : List Nat :=
  List.range' r.first
    ((r.last - r.first) / r.stride + 1) r.stride

theorem CaseRange.mem_codes_of_covers
    {r : CaseRange}
    {n : Nat}
    (hCovers : r.covers n = true) :
    n ∈ r.codes := by
  simp only [covers, Bool.and_eq_true, decide_eq_true_eq,
    beq_iff_eq] at hCovers
  rcases hCovers with ⟨⟨hFirst, hLast⟩, hStride⟩
  have hSplit :
      r.stride * ((n - r.first) / r.stride) = n - r.first :=
    Nat.mul_div_cancel' (Nat.dvd_of_mod_eq_zero hStride)
  refine
    List.mem_range'.mpr ⟨(n - r.first) / r.stride, ?_, ?_⟩
  · apply Nat.lt_succ_of_le
    exact Nat.div_le_div_right (by omega)
  · omega

/- A set of code points, as the number with these bits. -/
def codeSet (codes : List Nat) : Nat :=
  codes.foldr (fun n set => 1 <<< n ||| set) 0

theorem testBit_codeSet
    {codes : List Nat}
    {n : Nat}
    (hMem : n ∈ codes) :
    (codeSet codes).testBit n = true := by
  induction codes with
  | nil => cases hMem
  | cons first rest ih =>
      rw [codeSet, List.foldr_cons, Nat.testBit_or,
        Bool.or_eq_true]
      rcases List.mem_cons.mp hMem with rfl | hRest
      · simp [Nat.testBit_shiftLeft]
      · exact .inr (ih hRest)

/- The code points of all ranges. -/
def changingCodes : Nat :=
  codeSet (changing.flatMap CaseRange.codes)

/- One bit decides whether any range covers a code point. -/
theorem not_covers_of_testBit
    {n : Nat}
    (hBit : changingCodes.testBit n = false)
    {r : CaseRange}
    (hMem : r ∈ changing) :
    r.covers n = false := by
  rw [← Bool.not_eq_true]
  intro hCovers
  have hCode : n ∈ changing.flatMap CaseRange.codes :=
    List.mem_flatMap.mpr
      ⟨r, hMem, CaseRange.mem_codes_of_covers hCovers⟩
  rw [changingCodes, testBit_codeSet hCode] at hBit
  cases hBit

end Dashboard.Text

------------------------------------------------------------
-- What Characters Become
------------------------------------------------------------

namespace Dashboard.Text

/- What holds of all ASCII characters is checked for each. -/
theorem forall_ascii
    {p : Char → Bool}
    (hAll :
      ((List.range 128).all fun n => p (Char.ofNat n)) =
        true)
    {c : Char}
    (hAscii : c.toNat < 128) :
    p c = true := by
  have hChar := List.all_eq_true.mp hAll c.toNat
    (List.mem_range.mpr hAscii)
  rwa [Char.ofNat_toNat] at hChar

/- The lowercase of an ASCII character is settled. -/
theorem isSettled_toLower
    {c : Char}
    (hAscii : c.toNat < 128) :
    isSettled c.toLower = true := by
  have hBit :=
    forall_ascii
      (p := fun c => !changingCodes.testBit c.toLower.toNat)
      (by decide +kernel) hAscii
  rw [Bool.not_eq_true'] at hBit
  rw [isSettled_iff]
  exact fun r hMem => not_covers_of_testBit hBit hMem

/- No range of the table is mapped into a changing one. -/
theorem testBit_image
    {r : CaseRange}
    (hTable : r ∈ lowercaseRanges)
    {n : Nat}
    (hCovers : r.covers n = true) :
    changingCodes.testBit (r.offset + n).toNat = false := by
  have hAll :
      (lowercaseRanges.all fun r =>
          r.codes.all fun n =>
            !changingCodes.testBit (r.offset + n).toNat) =
        true := by
    decide +kernel
  rw [List.all_eq_true] at hAll
  have hRange := List.all_eq_true.mp (hAll r hTable) n
    (CaseRange.mem_codes_of_covers hCovers)
  simpa using hRange

/- A number is the code of its character, which else is NUL. -/
theorem toNat_ofNat (n : Nat) :
    (Char.ofNat n).toNat = n ∨ (Char.ofNat n).toNat = 0 := by
  by_cases hValid : n.isValidChar
  · have hChar : Char.ofNat n = Char.ofNatAux n hValid :=
      dif_pos hValid
    exact .inl (congrArg Char.toNat hChar)
  · have hNull : Char.ofNat n = Char.ofNat 0 :=
      dif_neg hValid
    exact .inr (congrArg Char.toNat hNull)

/- What a range of the table is mapped to is settled. -/
theorem isSettled_image
    {r : CaseRange}
    (hTable : r ∈ lowercaseRanges)
    {n : Nat}
    (hCovers : r.covers n = true) :
    isSettled (Char.ofNat (r.offset + n).toNat) = true := by
  have hZero : isSettled (Char.ofNat 0).toLower = true :=
    isSettled_toLower (by simp)
  rw [isSettled_iff] at hZero ⊢
  intro s hChanging
  rcases toNat_ofNat (r.offset + n).toNat with hCode | hNull
  · rw [hCode]
    exact
      not_covers_of_testBit (testBit_image hTable hCovers)
        hChanging
  · rw [hNull]
    exact hZero s hChanging

/-
  The lowercase of a character on its own is settled, unless
  it has no fixed one.
-/
theorem isSettled_lowercaseChar
    {c : Char}
    (hDotted : c ≠ 'İ')
    (hSigma : c ≠ 'Σ') :
    isSettled (lowercaseChar c) = true := by
  unfold lowercaseChar
  split
  · rename_i hAscii
    exact isSettled_toLower hAscii
  · rename_i hAscii
    cases hFind :
        lowercaseRanges.find? (·.covers c.toNat) with
    | some r =>
        have hCovers := List.find?_some hFind
        exact
          isSettled_image (List.mem_of_find?_eq_some hFind)
            hCovers
    | none =>
        have hDottedCode : c.toNat ≠ 0x130 := by
          intro hCode
          exact hDotted (Char.toNat_inj.mp hCode)
        have hSigmaCode : c.toNat ≠ 0x3A3 := by
          intro hCode
          exact hSigma (Char.toNat_inj.mp hCode)
        rw [List.find?_eq_none] at hFind
        rw [isSettled_iff]
        intro r hMem
        simp only [changing, List.mem_cons] at hMem
        rcases hMem with rfl | rfl | rfl | hTable
        · simp [CaseRange.covers]
          omega
        · simp [CaseRange.covers]
          omega
        · simp [CaseRange.covers]
          omega
        · simpa using hFind r hTable

theorem isSettled_of_mem_lowercaseAt
    {before after : List Char}
    {c d : Char}
    (hMem : d ∈ lowercaseAt before c after) :
    isSettled d = true := by
  have hDot : ['i', '\u0307'].all isSettled = true := rfl
  have hSigmas : ['ς', 'σ'].all isSettled = true := rfl
  rw [List.all_eq_true] at hDot hSigmas
  unfold lowercaseAt at hMem
  split at hMem
  · exact hDot d hMem
  · rename_i hDotted
    split at hMem
    · apply hSigmas d
      split at hMem
      · exact List.mem_cons.mpr (.inl (by simpa using hMem))
      · exact List.mem_cons_of_mem _ hMem
    · rename_i hSigma
      rw [List.mem_singleton.mp hMem]
      exact isSettled_lowercaseChar hDotted hSigma

theorem isSettled_of_mem_lowercaseAfter
    {before text : List Char}
    {d : Char}
    (hMem : d ∈ lowercaseAfter before text) :
    isSettled d = true := by
  induction text generalizing before with
  | nil => cases hMem
  | cons c rest ih =>
      rcases List.mem_append.mp hMem with hFirst | hRest
      · exact isSettled_of_mem_lowercaseAt hFirst
      · exact ih hRest

/- A lowercase text consists of settled characters. -/
theorem isSettled_of_mem_lowercase
    {text : List Char}
    {d : Char}
    (hMem : d ∈ lowercase text) :
    isSettled d = true :=
  isSettled_of_mem_lowercaseAfter hMem

/- The lowercase form is its own lowercase form. -/
theorem lowercase_lowercase (text : List Char) :
    lowercase (lowercase text) = lowercase text :=
  lowercaseAfter_of_isSettled
    (fun _ hMem => isSettled_of_mem_lowercase hMem) []

theorem lower_lower (text : String) :
    lower (lower text) = lower text := by
  unfold lower
  rw [String.toList_ofList, lowercase_lowercase]

end Dashboard.Text

------------------------------------------------------------
-- The Case Of ASCII Letters
------------------------------------------------------------

namespace Dashboard.Text

theorem toNat_lt_of_isUpper
    {c : Char}
    (hCapital : c.isUpper = true) :
    c.toNat < 128 := by
  rw [isUpper_iff] at hCapital
  omega

/- The case of an ASCII letter leaves its kind as it is. -/
theorem kind_toLower (c : Char) :
    isCased c.toLower = isCased c ∧
      isCaseIgnorable c.toLower = isCaseIgnorable c := by
  by_cases hCapital : c.isUpper = true
  · have hAscii := toNat_lt_of_isUpper hCapital
    have hKinds :=
      forall_ascii
        (p := fun c =>
          isCased c.toLower == isCased c &&
            isCaseIgnorable c.toLower == isCaseIgnorable c)
        rfl hAscii
    simpa using hKinds
  · rw [toLower_of_not_isUpper hCapital]
    exact ⟨rfl, rfl⟩

theorem startsCased_map_toLower (text : List Char) :
    startsCased (text.map Char.toLower) = startsCased text :=
  startsCased_map (fun c => (kind_toLower c).1)
    (fun c => (kind_toLower c).2) text

/- A capital becomes what its small letter stays. -/
theorem lowercaseAt_map_toLower
    (before : List Char)
    (c : Char)
    (after : List Char) :
    lowercaseAt (before.map Char.toLower) c.toLower
        (after.map Char.toLower) =
      lowercaseAt before c after := by
  by_cases hCapital : c.isUpper = true
  · have hAscii := toNat_lt_of_isUpper hCapital
    rw [lowercaseAt_of_isSettled (isSettled_toLower hAscii),
      lowercaseAt_of_ascii hAscii]
  · rw [toLower_of_not_isUpper hCapital]
    unfold lowercaseAt
    rw [startsCased_map_toLower, startsCased_map_toLower]

/- The case of ASCII letters does not matter. -/
theorem lowercase_map_toLower (text : List Char) :
    lowercase (text.map Char.toLower) = lowercase text := by
  have hMap :=
    lowercaseAfter_map (f := Char.toLower) (g := id)
      (fun before c after => by
        rw [List.map_id, lowercaseAt_map_toLower])
      [] text
  rwa [List.map_id] at hMap

end Dashboard.Text
