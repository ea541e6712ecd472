import Dashboard.Json.Printer
import Dashboard.Json.Raw
import Mathlib.Tactic.SplitIfs

/-
  Strings in JSON texts: a string is read as it was written,
  whatever characters it holds and whatever stands behind it.

  Main declarations:
    * `RawJson.UnitOf`
    * `RawJson.exists_unitOf`
    * `RawJson.scanString_writeString`
-/

------------------------------------------------------------
-- Units
------------------------------------------------------------

namespace Dashboard

namespace RawJson

/-
  The unit stands for the character, and the escape of the
  character is read as the unit.
-/
structure UnitOf (c : Char) (unit : Unit) : Prop where
  stands :
    ∀ units,
      textOf? (unit :: units) = (textOf? units).map (c :: ·)
  reads :
    ∀ fuel rest,
      scanUnits (fuel + 1) (Json.escape c ++ rest) =
        (scanUnits fuel rest).map fun r =>
          (unit :: r.1, r.2)

theorem scanUnits_backslash
    (fuel : Nat)
    {text rest : List Char}
    {unit : Unit}
    (hEscape : scanEscape text = some (unit, rest)) :
    scanUnits (fuel + 1) ('\\' :: text) =
      (scanUnits fuel rest).map fun r =>
        (unit :: r.1, r.2) := by
  rw [scanUnits, if_neg (by decide), if_pos rfl, hEscape]
  dsimp only
  cases scanUnits fuel rest with
  | none => rfl
  | some r => rfl

theorem scanUnits_plain
    (fuel : Nat)
    {c : Char}
    (hQuote : c ≠ '"')
    (hSlash : c ≠ '\\')
    (hControl : ¬ c.toNat < 32)
    (rest : List Char) :
    scanUnits (fuel + 1) (c :: rest) =
      (scanUnits fuel rest).map fun r =>
        (.plain c :: r.1, r.2) := by
  rw [scanUnits, if_neg hQuote, if_neg hSlash,
    if_neg hControl]
  cases scanUnits fuel rest with
  | none => rfl
  | some r => rfl

/- A letter after a backslash stands for its character. -/
theorem unitOf_letter
    {c letter : Char}
    (hEscape : Json.escape c = ['\\', letter])
    (hLetter : ∀ rest,
      scanEscape (letter :: rest) = some (.plain c, rest)) :
    UnitOf c (.plain c) := by
  refine ⟨fun _ => rfl, ?_⟩
  intro fuel rest
  rw [hEscape]
  exact scanUnits_backslash fuel (hLetter rest)

theorem digitValue?_hexDigit :
    ∀ n < 16, Text.digitValue? (Json.hexDigit n) = some n := by
  decide

/- A number that is no surrogate stands for itself. -/
theorem textOf?_code
    {n : Nat}
    (hOpens : opensPair n = false)
    (hCloses : closesPair n = false)
    (units : List Unit) :
    textOf? (.code n :: units) =
      (textOf? units).map (Char.ofNat n :: ·) := by
  rcases units with _ | ⟨_ | m, more⟩
  · simp [textOf?, hOpens, hCloses]
  · simp [textOf?, hOpens, hCloses]
  · rw [textOf?, hOpens, hCloses]
    rfl

/- A control character is read from its code. -/
theorem unitOf_code
    {c : Char}
    (hControl : c.toNat < 32)
    (hEscape :
      Json.escape c =
        ['\\', 'u', '0', '0', Json.hexDigit (c.toNat / 16),
          Json.hexDigit (c.toNat % 16)]) :
    UnitOf c (.code c.toNat) := by
  have hCode :
      ∀ rest,
        scanEscape
            ('u' :: '0' :: '0' ::
              Json.hexDigit (c.toNat / 16) ::
              Json.hexDigit (c.toNat % 16) :: rest) =
          some (.code c.toNat, rest) := by
    intro rest
    have hHigh :=
      digitValue?_hexDigit (c.toNat / 16) (by omega)
    have hLow :=
      digitValue?_hexDigit (c.toNat % 16) (by omega)
    have hZero : Text.digitValue? '0' = some 0 := by decide
    have hValue :
        ((0 * 16 + 0) * 16 + c.toNat / 16) * 16 +
            c.toNat % 16 = c.toNat := by
      omega
    simp only [scanEscape, scanCode, hHigh, hLow, hZero,
      hValue]
  constructor
  · intro units
    have hOpens : opensPair c.toNat = false := by
      simp only [opensPair, Bool.and_eq_false_iff,
        decide_eq_false_iff_not]
      omega
    have hCloses : closesPair c.toNat = false := by
      simp only [closesPair, Bool.and_eq_false_iff,
        decide_eq_false_iff_not]
      omega
    rw [textOf?_code hOpens hCloses, Char.ofNat_toNat]
  · intro fuel rest
    rw [hEscape]
    exact scanUnits_backslash fuel (hCode rest)

/- Every character is read from its escape. -/
theorem exists_unitOf (c : Char) : ∃ unit, UnitOf c unit := by
  by_cases hQuote : c = '"'
  · subst hQuote
    exact ⟨_, unitOf_letter rfl fun _ => rfl⟩
  by_cases hSlash : c = '\\'
  · subst hSlash
    exact ⟨_, unitOf_letter rfl fun _ => rfl⟩
  by_cases hLine : c = '\n'
  · subst hLine
    exact ⟨_, unitOf_letter rfl fun _ => rfl⟩
  by_cases hReturn : c = '\r'
  · subst hReturn
    exact ⟨_, unitOf_letter rfl fun _ => rfl⟩
  by_cases hTab : c = '\t'
  · subst hTab
    exact ⟨_, unitOf_letter rfl fun _ => rfl⟩
  by_cases hBack : c.toNat = 8
  · have hChar : c = '\x08' := Char.toNat_inj.mp hBack
    subst hChar
    exact ⟨_, unitOf_letter rfl fun _ => rfl⟩
  by_cases hFeed : c.toNat = 12
  · have hChar : c = '\x0c' := Char.toNat_inj.mp hFeed
    subst hChar
    exact ⟨_, unitOf_letter rfl fun _ => rfl⟩
  by_cases hControl : c.toNat < 32
  · refine ⟨_, unitOf_code hControl ?_⟩
    simp [Json.escape, hQuote, hSlash, hLine, hReturn, hTab,
      hBack, hFeed, hControl]
  · have hEscape : Json.escape c = [c] := by
      simp [Json.escape, hQuote, hSlash, hLine, hReturn,
        hTab, hBack, hFeed, hControl]
    refine ⟨.plain c, fun _ => rfl, ?_⟩
    intro fuel rest
    rw [hEscape]
    exact scanUnits_plain fuel hQuote hSlash hControl rest

end RawJson

end Dashboard

------------------------------------------------------------
-- Whole Strings
------------------------------------------------------------

namespace Dashboard

namespace RawJson

/- Every unit takes at least one character. -/
theorem length_le_flatMap_escape (text : List Char) :
    text.length ≤ (text.flatMap Json.escape).length := by
  induction text with
  | nil => exact Nat.le_refl 0
  | cons c rest ih =>
      have hFirst : 1 ≤ (Json.escape c).length := by
        unfold Json.escape
        split_ifs
        all_goals exact Nat.succ_pos _
      rw [List.flatMap_cons, List.length_append,
        List.length_cons]
      omega

theorem scanUnits_flatMap_escape
    (text rest : List Char)
    {fuel : Nat}
    (hFuel : text.length < fuel) :
    ∃ units,
      textOf? units = some text ∧
        scanUnits fuel
            (text.flatMap Json.escape ++ '"' :: rest) =
          some (units, rest) := by
  induction text generalizing fuel with
  | nil =>
      cases fuel with
      | zero => cases hFuel
      | succ fuel => exact ⟨[], rfl, rfl⟩
  | cons c more ih =>
      cases fuel with
      | zero => cases hFuel
      | succ fuel =>
          rcases exists_unitOf c with ⟨unit, hUnit⟩
          rcases ih (Nat.lt_of_succ_lt_succ hFuel) with
            ⟨units, hText, hScan⟩
          refine ⟨unit :: units, ?_, ?_⟩
          · rw [hUnit.stands, hText]
            rfl
          · rw [List.flatMap_cons, List.append_assoc,
              hUnit.reads, hScan]
            rfl

/- A string is read as it was written. -/
theorem scanString_writeString
    (text rest : List Char) :
    ∃ opened,
      Json.writeString text ++ rest = '"' :: opened ∧
        scanString opened =
          some (some (String.ofList text), rest) := by
  refine
    ⟨text.flatMap Json.escape ++ '"' :: rest, ?_, ?_⟩
  · simp [Json.writeString]
  · have hLength := length_le_flatMap_escape text
    have hFuel :
        text.length <
          (text.flatMap Json.escape ++ '"' :: rest).length
        := by
      simp only [List.length_append, List.length_cons]
      omega
    rcases scanUnits_flatMap_escape text rest hFuel with
      ⟨units, hText, hScan⟩
    rw [scanString, hScan]
    dsimp only
    rw [hText]
    rfl

end RawJson

end Dashboard
