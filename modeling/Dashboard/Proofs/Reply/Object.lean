import Dashboard.Json.Raw
import Dashboard.Proofs.Reply.Span
import Mathlib.Data.List.DropRight
import Mathlib.Data.List.TakeWhile

/-
  The scan for objects agrees with the reader of JSON: it
  passes whatever the reader takes for a value, and what the
  reader takes for an object is exactly one object of the
  scan.

  Main declarations:
    * `RawJson.passes_of_scanString`
    * `RawJson.passes_of_scanNumber`
    * `RawJson.passes_of_scanValue`
    * `Reply.run_outside_of_scanValue`
-/

------------------------------------------------------------
-- Strings
------------------------------------------------------------

namespace Dashboard

namespace RawJson

open Reply Reply.Scan

theorem ne_of_digitValue?_eq_some
    {c : Char}
    {n : Nat}
    (hDigit : Text.digitValue? c = some n) :
    c ≠ '"' ∧ c ≠ '\\' := by
  constructor
  · rintro rfl
    cases hDigit
  · rintro rfl
    cases hDigit

/- A hexadecimal digit is passed inside of a string. -/
theorem passes_of_digitValue?
    {c : Char}
    {n : Nat}
    (hDigit : Text.digitValue? c = some n)
    (rest : List Char) :
    Passes .string (c :: rest) .string rest := by
  rcases ne_of_digitValue?_eq_some hDigit with
    ⟨hQuote, hSlash⟩
  exact (moves_stringChar hQuote hSlash).passes rest

theorem passes_of_scanCode
    {text rest : List Char}
    {n : Nat}
    (hScan : scanCode text = some (n, rest)) :
    Passes .string text .string rest := by
  unfold scanCode at hScan
  split at hScan
  · split at hScan
    · rename_i hA hB hC hD
      cases hScan
      exact (passes_of_digitValue? hA _).trans
        ((passes_of_digitValue? hB _).trans
          ((passes_of_digitValue? hC _).trans
            (passes_of_digitValue? hD _)))
    · cases hScan
  · cases hScan

theorem passes_of_scanEscape
    {text rest : List Char}
    {unit : Unit}
    (hScan : scanEscape text = some (unit, rest)) :
    Passes .escape text .string rest := by
  unfold scanEscape at hScan
  split at hScan
  · split at hScan
    · rename_i hCode
      cases hScan
      exact ((moves_escaped 'u').passes _).trans
        (passes_of_scanCode hCode)
    · cases hScan
  · split at hScan
    · cases hScan
      exact (moves_escaped _).passes _
    · cases hScan
  · cases hScan

theorem passes_of_scanUnits
    {fuel : Nat}
    {text rest : List Char}
    {units : List Unit}
    (hScan : scanUnits fuel text = some (units, rest)) :
    Passes .string text .none rest := by
  induction fuel generalizing text units with
  | zero => cases hScan
  | succ fuel ih =>
      cases text with
      | nil => cases hScan
      | cons c tail =>
          rw [scanUnits] at hScan
          by_cases hQuote : c = '"'
          · rw [if_pos hQuote] at hScan
            cases hScan
            subst hQuote
            exact moves_closingQuote.passes rest
          · rw [if_neg hQuote] at hScan
            by_cases hSlash : c = '\\'
            · rw [if_pos hSlash] at hScan
              subst hSlash
              split at hScan
              · cases hScan
              · rename_i hEscape
                split at hScan
                · cases hScan
                · rename_i hMore
                  cases hScan
                  exact (moves_backslash.passes tail).trans
                    ((passes_of_scanEscape hEscape).trans
                      (ih hMore))
            · rw [if_neg hSlash] at hScan
              split at hScan
              · cases hScan
              · split at hScan
                · cases hScan
                · rename_i hMore
                  cases hScan
                  have hFirst :
                      Passes .string (c :: tail) .string
                        tail :=
                    (moves_stringChar hQuote hSlash).passes
                      tail
                  exact hFirst.trans (ih hMore)

/- A string is passed together with its quotation marks. -/
theorem passes_of_scanString
    {text rest : List Char}
    {content : Option String}
    (hScan : scanString text = some (content, rest)) :
    Passes .none ('"' :: text) .none rest := by
  unfold scanString at hScan
  split at hScan
  · cases hScan
  · rename_i hUnits
    cases hScan
    exact (moves_openingQuote.passes text).trans
      (passes_of_scanUnits hUnits)

end RawJson

end Dashboard

------------------------------------------------------------
-- Fixed Characters
------------------------------------------------------------

namespace Dashboard

namespace RawJson

/-
  What a test says of all characters of a list.  Deciding the
  conclusion itself may go through every character there is.
-/
theorem forall_of_all
    {p : Char → Prop}
    [DecidablePred p]
    {chars : List Char}
    (hAll : (chars.all fun c => decide (p c)) = true) :
    ∀ c ∈ chars, p c := by
  intro c hMem
  exact of_decide_eq_true (List.all_eq_true.mp hAll c hMem)

end RawJson

end Dashboard

------------------------------------------------------------
-- Numbers And Words
------------------------------------------------------------

namespace Dashboard

namespace RawJson

open Reply Reply.Scan

theorem isPlain_of_isDigit
    {c : Char}
    (hDigit : Text.isDigit c = true) :
    IsPlain c := by
  refine ⟨?_, ?_, ?_⟩
  · rintro rfl
    cases hDigit
  · rintro rfl
    cases hDigit
  · rintro rfl
    cases hDigit

theorem isPlain_of_isSpace
    {c : Char}
    (hSpace : isSpace c = true) :
    IsPlain c := by
  refine ⟨?_, ?_, ?_⟩
  · rintro rfl
    cases hSpace
  · rintro rfl
    cases hSpace
  · rintro rfl
    cases hSpace

/- A run of plain characters is passed. -/
theorem passes_dropWhile
    (accepts : Char → Bool)
    (hPlain : ∀ c, accepts c = true → IsPlain c)
    (text : List Char) :
    Passes .none text .none (text.dropWhile accepts) := by
  refine
    ⟨text.takeWhile accepts,
      List.takeWhile_append_dropWhile.symm, ?_⟩
  apply moves_plain
  intro c hMem
  exact hPlain c (List.mem_takeWhile_imp hMem)

theorem passes_skip (text : List Char) :
    Passes .none text .none (skip text) :=
  passes_dropWhile isSpace (fun _ => isPlain_of_isSpace) text

theorem passes_digits (text : List Char) :
    Passes .none text .none (text.dropWhile Text.isDigit) :=
  passes_dropWhile Text.isDigit (fun _ => isPlain_of_isDigit)
    text

theorem passes_of_scanWhole
    {text digits rest : List Char}
    (hScan : scanWhole text = some (digits, rest)) :
    Passes .none text .none rest := by
  unfold scanWhole at hScan
  dsimp only at hScan
  split at hScan
  · cases hScan
  · cases hScan
  · cases hScan
    exact passes_digits text

theorem passes_of_scanFraction
    {text rest : List Char}
    {fraction : Option (List Char)}
    (hScan : scanFraction text = some (fraction, rest)) :
    Passes .none text .none rest := by
  unfold scanFraction at hScan
  split at hScan
  · dsimp only at hScan
    split at hScan
    · cases hScan
    · cases hScan
      have hPoint : IsPlain '.' := by decide
      exact ((moves_plainChar hPoint).passes _).trans
        (passes_digits _)
  · cases hScan
    exact passes_refl .none text

theorem passes_of_scanExponentDigits
    {negative : Bool}
    {text rest : List Char}
    {exponent : Option Int}
    (hScan :
      scanExponentDigits negative text =
        some (exponent, rest)) :
    Passes .none text .none rest := by
  unfold scanExponentDigits at hScan
  dsimp only at hScan
  split at hScan
  · cases hScan
  · cases hScan
    exact passes_digits text

theorem passes_of_scanExponent
    {text rest : List Char}
    {exponent : Option Int}
    (hScan : scanExponent text = some (exponent, rest)) :
    Passes .none text .none rest := by
  unfold scanExponent at hScan
  split at hScan
  · cases hScan
    exact passes_refl .none []
  · rename_i mark tail
    by_cases hMark : (mark = 'e' || mark = 'E') = true
    · rw [if_pos hMark] at hScan
      have hPlain : IsPlain mark := by
        simp only [Bool.or_eq_true, decide_eq_true_eq]
          at hMark
        rcases hMark with rfl | rfl
        · decide
        · decide
      refine ((moves_plainChar hPlain).passes tail).trans ?_
      split at hScan
      · have hPlus : IsPlain '+' := by decide
        exact ((moves_plainChar hPlus).passes _).trans
          (passes_of_scanExponentDigits hScan)
      · have hMinus : IsPlain '-' := by decide
        exact ((moves_plainChar hMinus).passes _).trans
          (passes_of_scanExponentDigits hScan)
      · exact passes_of_scanExponentDigits hScan
    · rw [if_neg hMark] at hScan
      cases hScan
      exact passes_refl .none _

theorem passes_of_scanMagnitude
    {negative : Bool}
    {text rest : List Char}
    {numeral : Numeral}
    (hScan :
      scanMagnitude negative text = some (numeral, rest)) :
    Passes .none text .none rest := by
  unfold scanMagnitude at hScan
  split at hScan
  · cases hScan
  · rename_i hWhole
    split at hScan
    · cases hScan
    · rename_i hFraction
      split at hScan
      · cases hScan
      · rename_i hExponent
        cases hScan
        exact (passes_of_scanWhole hWhole).trans
          ((passes_of_scanFraction hFraction).trans
            (passes_of_scanExponent hExponent))

theorem passes_of_scanNumber
    {text rest : List Char}
    {numeral : Numeral}
    (hScan : scanNumber text = some (numeral, rest)) :
    Passes .none text .none rest := by
  unfold scanNumber at hScan
  split at hScan
  · have hMinus : IsPlain '-' := by decide
    exact ((moves_plainChar hMinus).passes _).trans
      (passes_of_scanMagnitude hScan)
  · exact passes_of_scanMagnitude hScan

theorem passes_of_scanWord
    {word : String}
    {value raw : RawJson}
    {text rest : List Char}
    (hPlain : ∀ c ∈ word.toList, IsPlain c)
    (hScan : scanWord word value text = some (raw, rest)) :
    Passes .none text .none rest := by
  unfold scanWord afterWord? at hScan
  by_cases hPrefix : word.toList.isPrefixOf text = true
  · rw [if_pos hPrefix] at hScan
    cases hScan
    rcases List.isPrefixOf_iff_prefix.mp hPrefix with
      ⟨tail, rfl⟩
    have hTail :
        (word.toList ++ tail).drop word.length = tail := by
      rw [← String.length_toList, List.drop_left]
    rw [hTail]
    exact (moves_plain hPlain).passes tail
  · rw [if_neg hPrefix] at hScan
    cases hScan

end RawJson

end Dashboard

------------------------------------------------------------
-- Values
------------------------------------------------------------

namespace Dashboard

namespace RawJson

open Reply Reply.Scan

/-
  What the three readers take is passed: a value, the items
  of an array with the closing bracket, and the members of an
  object up to the closing brace.
-/
structure ReadersPass (fuel : Nat) : Prop where
  value :
    ∀ text raw rest,
      scanValue fuel text = some (raw, rest) →
        Passes .none text .none rest
  items :
    ∀ text raws rest,
      scanItems fuel text = some (raws, rest) →
        Passes .none text .none rest
  members :
    ∀ text raws rest,
      scanMembers fuel text = some (raws, rest) →
        Passes .none text .none (closeBrace :: rest)

theorem passes_skip_cons
    {text rest : List Char}
    {c : Char}
    (hSkip : skip text = c :: rest) :
    Passes .none text .none (c :: rest) := by
  rw [← hSkip]
  exact passes_skip text

theorem passes_skip_plain
    {text rest : List Char}
    {c : Char}
    (hSkip : skip text = c :: rest)
    (hPlain : IsPlain c) :
    Passes .none text .none rest :=
  (passes_skip_cons hSkip).trans
    ((moves_plainChar hPlain).passes rest)

theorem scanValue_skip
    (fuel : Nat)
    (text : List Char) :
    scanValue (fuel + 1) (skip text) =
      scanValue (fuel + 1) text := by
  have hTwice : skip (skip text) = skip text :=
    List.dropWhile_idempotent isSpace text
  rw [scanValue, scanValue, hTwice]

theorem scanValue_openBrace
    (fuel : Nat)
    (text : List Char) :
    scanValue (fuel + 1) (openBrace :: text) =
      match skip text with
      | '\x7d' :: after => some (object [], after)
      | _ =>
          (scanMembers fuel text).map fun r =>
            (object r.1, r.2) := rfl

/- What follows the opening brace of an object is passed. -/
theorem ReadersPass.object
    {fuel : Nat}
    (hPass : ReadersPass fuel)
    {text rest : List Char}
    {raw : RawJson}
    (hScan :
      scanValue (fuel + 1) (openBrace :: text) =
        some (raw, rest)) :
    Passes .none text .none (closeBrace :: rest) := by
  rw [scanValue_openBrace] at hScan
  split at hScan
  · rename_i hClose
    cases hScan
    exact passes_skip_cons hClose
  · rcases Option.map_eq_some_iff.mp hScan with
      ⟨⟨raws, after⟩, hMembers, hResult⟩
    cases hResult
    exact hPass.members text raws after hMembers

theorem ReadersPass.scanValue
    {fuel : Nat}
    (hPass : ReadersPass fuel)
    {text rest : List Char}
    {raw : RawJson}
    (hScan :
      scanValue (fuel + 1) text = some (raw, rest)) :
    Passes .none text .none rest := by
  have hSkipped := hScan
  rw [← scanValue_skip] at hSkipped
  rw [RawJson.scanValue] at hScan
  split at hScan
  · rename_i tail hSkip
    have hBracket : IsPlain '[' := by decide
    refine (passes_skip_plain hSkip hBracket).trans ?_
    split at hScan
    · rename_i hClose
      cases hScan
      exact passes_skip_plain hClose (by decide)
    · rcases Option.map_eq_some_iff.mp hScan with
        ⟨⟨raws, after⟩, hItems, hResult⟩
      cases hResult
      exact hPass.items tail raws after hItems
  · rename_i tail hSkip
    rw [hSkip] at hSkipped
    exact (passes_skip_cons hSkip).trans
      (hPass.object hSkipped).braces
  · rename_i tail hSkip
    refine (passes_skip_cons hSkip).trans ?_
    rcases Option.map_eq_some_iff.mp hScan with
      ⟨⟨content, after⟩, hString, hResult⟩
    cases hResult
    exact passes_of_scanString hString
  · rename_i hSkip
    refine (passes_skip_cons hSkip).trans ?_
    exact passes_of_scanWord (forall_of_all rfl) hScan
  · rename_i hSkip
    refine (passes_skip_cons hSkip).trans ?_
    exact passes_of_scanWord (forall_of_all rfl) hScan
  · rename_i hSkip
    refine (passes_skip_cons hSkip).trans ?_
    exact passes_of_scanWord (forall_of_all rfl) hScan
  · rcases Option.map_eq_some_iff.mp hScan with
      ⟨⟨numeral, after⟩, hNumber, hResult⟩
    cases hResult
    exact (passes_skip text).trans
      (passes_of_scanNumber hNumber)

theorem ReadersPass.scanItems
    {fuel : Nat}
    (hPass : ReadersPass fuel)
    {text rest : List Char}
    {raws : List RawJson}
    (hScan :
      scanItems (fuel + 1) text = some (raws, rest)) :
    Passes .none text .none rest := by
  rw [RawJson.scanItems] at hScan
  split at hScan
  · cases hScan
  · rename_i raw middle hValue
    refine (hPass.value text raw middle hValue).trans ?_
    split at hScan
    · rename_i hClose
      cases hScan
      exact passes_skip_plain hClose (by decide)
    · rename_i more hComma
      rcases Option.map_eq_some_iff.mp hScan with
        ⟨⟨others, after⟩, hItems, hResult⟩
      cases hResult
      exact (passes_skip_plain hComma (by decide)).trans
        (hPass.items more others after hItems)
    · cases hScan

theorem ReadersPass.scanMembers
    {fuel : Nat}
    (hPass : ReadersPass fuel)
    {text rest : List Char}
    {raws : List (Option String × RawJson)}
    (hScan :
      scanMembers (fuel + 1) text = some (raws, rest)) :
    Passes .none text .none (closeBrace :: rest) := by
  rw [RawJson.scanMembers] at hScan
  split at hScan
  · rename_i opened hQuote
    refine (passes_skip_cons hQuote).trans ?_
    split at hScan
    · cases hScan
    · rename_i name afterName hName
      refine (passes_of_scanString hName).trans ?_
      split at hScan
      · rename_i afterColon hColon
        refine
          (passes_skip_plain hColon (by decide)).trans ?_
        split at hScan
        · cases hScan
        · rename_i raw middle hValue
          refine
            (hPass.value afterColon raw middle
              hValue).trans ?_
          split at hScan
          · rename_i hClose
            cases hScan
            exact passes_skip_cons hClose
          · rename_i more hComma
            rcases Option.map_eq_some_iff.mp hScan with
              ⟨⟨others, after⟩, hMembers, hResult⟩
            cases hResult
            exact
              (passes_skip_plain hComma (by decide)).trans
                (hPass.members more others after hMembers)
          · cases hScan
      · cases hScan
  · cases hScan

/- The readers pass what they take, whatever their fuel. -/
theorem readersPass (fuel : Nat) : ReadersPass fuel := by
  induction fuel with
  | zero =>
      refine ⟨?_, ?_, ?_⟩
      · intro text raw rest hScan
        cases hScan
      · intro text raws rest hScan
        cases hScan
      · intro text raws rest hScan
        cases hScan
  | succ fuel ih =>
      refine ⟨?_, ?_, ?_⟩
      · intro text raw rest hScan
        exact ih.scanValue hScan
      · intro text raws rest hScan
        exact ih.scanItems hScan
      · intro text raws rest hScan
        exact ih.scanMembers hScan

end RawJson

end Dashboard

------------------------------------------------------------
-- Objects
------------------------------------------------------------

namespace Dashboard

namespace Reply

/-
  What the reader takes for an object, from its opening brace
  to the end, is exactly one object of the scan.
-/
theorem run_outside_of_scanValue
    {fuel : Nat}
    {text : List Char}
    {raw : RawJson}
    (hScan :
      RawJson.scanValue fuel (openBrace :: text) =
        some (raw, [])) :
    Scan.outside.run (openBrace :: text) =
      ([openBrace :: text], .outside) := by
  cases fuel with
  | zero => cases hScan
  | succ fuel =>
      rcases (RawJson.readersPass fuel).object hScan with
        ⟨inner, rfl, hInner⟩
      exact Scan.run_outside_braces hInner

end Reply

end Dashboard
