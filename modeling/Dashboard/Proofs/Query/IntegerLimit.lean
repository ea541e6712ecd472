import Dashboard.Proofs.Number.Integer
import Dashboard.Proofs.Number.Prefix
import Dashboard.Query.Parameters
import Mathlib.Algebra.Order.Ring.Int

/-
  Limits that are written as an integer, of any size.  The
  pattern for integers finds all the digits, what is read of
  them never turns around, and so a limit is positive exactly
  if the written integer is.

  Key definitions include:
    * `NumberPattern.leadingInteger`
    * `leadingInteger?`

  Main declarations:
    * `leadingInteger?_of_leadsWith`
    * `integerPrefix?_pos_iff`
    * `integerPrefix?_saturates`
-/

------------------------------------------------------------
-- Integers That Are Found
------------------------------------------------------------

namespace Dashboard

namespace NumberPattern

open NumberLiteral Pattern

variable {literal rest : List Char} {n : Int}

/- A sign, if there is one, and digits. -/
def integer : Pattern :=
  sequence [sign, some1 Text.isDigit]

/- An integer after blanks, as a group. -/
def leadingInteger : Pattern :=
  sequence [spacing, group integer]

theorem spellsInteger_of_takes
    (hTakes : integer.Takes literal) :
    ∃ n, SpellsInteger literal n := by
  rcases hTakes with
    ⟨before, _, hSign, ⟨digits, _, hDigits, rfl, rfl⟩, rfl⟩
  rcases spellsSign_of_takes hSign with ⟨negative, hSign⟩
  rw [List.append_nil]
  exact ⟨_, .intro hSign (isDigits_of_takes hDigits)⟩

/- All the digits that stand there are taken first. -/
theorem takesFirst_integer
    (hSpells : SpellsInteger literal n)
    (hRest : ∀ c ∈ rest.head?, Text.isDigit c = false) :
    integer.TakesFirst literal rest := by
  rcases hSpells with ⟨hSign, hDigits⟩
  exact takesFirst_signed hSign hDigits hRest

end NumberPattern

/- The integer that the pattern finds at the start. -/
def leadingInteger? (text : String) : Option (List Char) := do
  let found ←
    NumberPattern.leadingInteger.matchAt ⟨[], text.toList⟩
  found.group? 0

variable {text : String} {literal : List Char} {n : Int}

theorem leadingInteger?_of_leadsWith
    (hLeads : Text.LeadsWith text.toList literal n) :
    leadingInteger? text = some literal := by
  rcases hLeads.exists_trimLeft with ⟨rest, hText, hRest⟩
  exact
    (NumberPattern.takesFirst_integer hLeads.spells
      hRest).group?_matchAt_spacing hText

theorem leadingInteger?_eq_none
    (hNone :
      ∀ literal n, ¬ Text.LeadsWith text.toList literal n) :
    leadingInteger? text = none := by
  have hMatch :
      NumberPattern.leadingInteger.matchAt ⟨[], text.toList⟩ =
        none := by
    apply Pattern.matchAt_spacing_eq_none
    · intro taken hTakes
      rcases NumberPattern.spellsInteger_of_takes hTakes with
        ⟨m, hSpells⟩
      exact hSpells.exists_cons
    · intro taken hPrefix hTakes
      rcases NumberPattern.spellsInteger_of_takes hTakes with
        ⟨m, hSpells⟩
      rcases Text.exists_leadsWith_of_isPrefix hPrefix hSpells
        with ⟨whole, k, hLeads⟩
      exact hNone whole k hLeads
  rw [leadingInteger?, hMatch]
  rfl

end Dashboard

------------------------------------------------------------
-- Limits
------------------------------------------------------------

namespace Dashboard

/- The limit of a query is what its parameter starts with. -/
theorem Query.limit_of_ofParameters
    {parameters : QueryParameters}
    {query : Query}
    (hQuery : ofParameters parameters = .ok query) :
    query.limit = parameters.limit.bind integerPrefix? := by
  unfold ofParameters at hQuery
  dsimp only at hQuery
  split at hQuery
  · cases hQuery
  · cases hQuery
    rfl

theorem clampInteger_pos_iff {n : Int} :
    0 < clampInteger n ↔ 0 < n := by
  unfold clampInteger leastInteger greatestInteger
  omega

theorem clampInteger_eq_max_min (n : Int) :
    clampInteger n = max (-2 ^ 63) (min n (2 ^ 63 - 1)) :=
  rfl

/- Only a positive integer reads as a positive one. -/
theorem integerPrefix?_pos_iff (text : String) :
    (∃ limit ∈ integerPrefix? text, 0 < limit) ↔
      ∃ literal n,
        Text.LeadsWith text.toList literal n ∧ 0 < n := by
  constructor
  · rintro ⟨limit, hRead, hPositive⟩
    rcases exists_leadsWith_of_integerPrefix?_eq_some hRead
      with ⟨literal, n, hLeads, rfl⟩
    exact
      ⟨literal, n, hLeads, clampInteger_pos_iff.mp hPositive⟩
  · rintro ⟨literal, n, hLeads, hPositive⟩
    exact
      ⟨clampInteger n, integerPrefix?_of_leadsWith hLeads,
        clampInteger_pos_iff.mpr hPositive⟩

end Dashboard

------------------------------------------------------------
-- Main Result
------------------------------------------------------------

namespace Dashboard

/-
  Where a text starts with blanks, a sign if there is one and
  digits, the pattern finds the sign and all the digits, and
  what is read is the integer that they are, or the nearest
  one that 64 bits can hold.  Any other text has no integer
  at its start.  The limit of a query is positive exactly if
  the integer at the start of its parameter is.
-/
theorem integerPrefix?_saturates :
    (∀ text : String,
      (∀ literal n,
        Text.LeadsWith text.toList literal n →
          leadingInteger? text = some literal ∧
            integerPrefix? text =
              some (max (-2 ^ 63) (min n (2 ^ 63 - 1)))) ∧
        ((∀ literal n,
            ¬ Text.LeadsWith text.toList literal n) →
          leadingInteger? text = none ∧
            integerPrefix? text = none)) ∧
      ∀ parameters query,
        Query.ofParameters parameters = .ok query →
          ((∃ limit ∈ query.limit, 0 < limit) ↔
            ∃ text ∈ parameters.limit,
              ∃ literal n,
                Text.LeadsWith text.toList literal n ∧
                  0 < n) := by
  refine ⟨fun text => ⟨?_, ?_⟩, ?_⟩
  · intro literal n hLeads
    rw [← clampInteger_eq_max_min]
    exact
      ⟨leadingInteger?_of_leadsWith hLeads,
        integerPrefix?_of_leadsWith hLeads⟩
  · intro hNone
    exact
      ⟨leadingInteger?_eq_none hNone,
        integerPrefix?_eq_none hNone⟩
  · intro parameters query hQuery
    rw [Query.limit_of_ofParameters hQuery]
    cases parameters.limit with
    | none => simp
    | some text =>
        rw [Option.bind_some, integerPrefix?_pos_iff]
        simp

/- Parameters with a limit that is too large for 64 bits. -/
def hugeLimit : QueryParameters where
  dataset := some "sales"
  filters := none
  sort := none
  limit := some "+9223372036854775808 rows"

/- One below the least integer, none, and one too many. -/
theorem integerPrefix?_saturates_past_bounds :
    integerPrefix? " -0009223372036854775809." =
        some (-2 ^ 63) ∧
      integerPrefix? "- 1" = none ∧
      ∃ query,
        Query.ofParameters hugeLimit = .ok query ∧
          ∃ limit ∈ query.limit, 0 < limit := by
  have hBelow :
      Text.LeadsWith " -0009223372036854775809.".toList
        "-0009223372036854775809".toList
        (-9223372036854775809) :=
    ⟨[' '], ['.'], by decide, List.all_eq_true.mp rfl,
      .intro .minus
        ⟨List.cons_ne_nil _ _, List.all_eq_true.mp rfl⟩,
      by rintro c ⟨⟩; rfl⟩
  have hNowhere :
      ∀ literal n,
        ¬ Text.LeadsWith "- 1".toList literal n := by
    intro literal n hLeads
    have hFound := leadingInteger?_of_leadsWith hLeads
    have hNone : leadingInteger? "- 1" = none := by decide
    rw [hNone] at hFound
    cases hFound
  have hAbove :
      Text.LeadsWith "+9223372036854775808 rows".toList
        "+9223372036854775808".toList 9223372036854775808 :=
    ⟨[], " rows".toList, by decide, List.forall_mem_nil _,
      .intro .plus
        ⟨List.cons_ne_nil _ _, List.all_eq_true.mp rfl⟩,
      by rintro c ⟨⟩; rfl⟩
  rcases integerPrefix?_saturates with ⟨hTexts, hQueries⟩
  refine
    ⟨((hTexts _).1 _ _ hBelow).2, ((hTexts _).2 hNowhere).2,
      _, rfl, (hQueries hugeLimit _ rfl).mpr ?_⟩
  exact ⟨_, rfl, _, _, hAbove, by decide⟩

end Dashboard
