import Dashboard.Proofs.Pattern.Taken
import Mathlib.Data.List.TakeWhile

/-
  The first way through a pattern.  A pattern may take a text
  in several ways; which of them is tried first follows from
  the first ways through its parts, as long as it is known
  which parts do not fit at all.

  Key definitions include:
    * `Pattern.TakesFirst`
    * `Pattern.Refuses`
    * `Pattern.fills`

  Main declarations:
    * `Pattern.TakesFirst.both`
    * `Pattern.refuses_of_not_takes`
    * `Pattern.TakesFirst.group?_matchAt`
    * `Pattern.TakesFirst.group?_matchAt_spacing`
    * `Pattern.TakesFirst.fills`
    * `Pattern.takes_of_fills`
-/

------------------------------------------------------------
-- First Ways
------------------------------------------------------------

namespace Dashboard

namespace Pattern

/-
  Where `taken` stands before `rest`, the pattern takes it
  before anything else: if what comes next succeeds after it,
  that is the result.
-/
def TakesFirst
    (pattern : Pattern)
    (taken rest : List Char) : Prop :=
  ∀ (α : Type) (before : List Char) (groups : List Span)
    (next : Place → List Span → Option α) (result : α),
    next ⟨taken.reverse ++ before, rest⟩ groups =
        some result →
      pattern.follow ⟨before, taken ++ rest⟩ groups next =
        some result

/- The pattern takes nothing at the start of the text. -/
def Refuses (pattern : Pattern) (text : List Char) : Prop :=
  ∀ (α : Type) (before : List Char) (groups : List Span)
    (next : Place → List Span → Option α),
    pattern.follow ⟨before, text⟩ groups next = none

end Pattern

end Dashboard

------------------------------------------------------------
-- First Ways Through Parts
------------------------------------------------------------

namespace Dashboard

namespace Pattern

variable {pattern first second : Pattern}
variable {accepts : Char → Bool}
variable {taken more rest text : List Char}

theorem takesFirst_nothing (rest : List Char) :
    nothing.TakesFirst [] rest := by
  intro α before groups next result hNext
  exact hNext

theorem takesFirst_char
    {c : Char}
    (hAccepts : accepts c = true)
    (rest : List Char) :
    (char accepts).TakesFirst [c] rest := by
  intro α before groups next result hNext
  rw [List.cons_append, follow_char_cons, if_pos hAccepts]
  exact hNext

theorem takesFirst_run
    (hTaken : ∀ c ∈ taken, accepts c = true)
    (hRest : ∀ c ∈ rest.head?, accepts c = false) :
    (run accepts).TakesFirst taken rest := by
  intro α before groups next result hNext
  exact followRun_eq_some hTaken hRest hNext

theorem takesFirst_some1
    (hSome : taken ≠ [])
    (hTaken : ∀ c ∈ taken, accepts c = true)
    (hRest : ∀ c ∈ rest.head?, accepts c = false) :
    (some1 accepts).TakesFirst taken rest := by
  intro α before groups next result hNext
  exact follow_some1 hSome hTaken hRest hNext

theorem takesFirst_text
    (wanted : String)
    (rest : List Char) :
    (Pattern.text wanted).TakesFirst wanted.toList rest := by
  intro α before groups next result hNext
  rw [follow_text, hNext]

theorem TakesFirst.both
    (hFirst : first.TakesFirst taken (more ++ rest))
    (hSecond : second.TakesFirst more rest) :
    (both first second).TakesFirst (taken ++ more) rest := by
  intro α before groups next result hNext
  rw [follow_both, List.append_assoc]
  apply hFirst
  apply hSecond
  rwa [List.reverse_append, List.append_assoc] at hNext

/- The last pattern of a sequence. -/
theorem TakesFirst.singleton
    (hFirst : pattern.TakesFirst taken rest) :
    (sequence [pattern]).TakesFirst taken rest := by
  have hBoth := hFirst.both (takesFirst_nothing rest)
  rwa [List.append_nil] at hBoth

theorem TakesFirst.left
    (hFirst : first.TakesFirst taken rest) :
    (either first second).TakesFirst taken rest := by
  intro α before groups next result hNext
  rw [follow_either, hFirst α before groups next result hNext,
    Option.some_or]

theorem TakesFirst.right
    (hFirst : first.Refuses (taken ++ rest))
    (hSecond : second.TakesFirst taken rest) :
    (either first second).TakesFirst taken rest := by
  intro α before groups next result hNext
  rw [follow_either, hFirst, Option.none_or]
  exact hSecond α before groups next result hNext

theorem Refuses.both
    (hFirst : first.Refuses text) :
    (Pattern.both first second).Refuses text := by
  intro α before groups next
  exact hFirst α before groups _

theorem Refuses.optional
    (hRefuses : pattern.Refuses rest) :
    pattern.optional.TakesFirst [] rest :=
  TakesFirst.right hRefuses (takesFirst_nothing rest)

/- Nothing is taken where no way leads. -/
theorem refuses_of_not_takes
    (hTakes :
      ∀ taken, taken <+: text → ¬ pattern.Takes taken) :
    pattern.Refuses text := by
  intro α before groups next
  rw [Option.eq_none_iff_forall_ne_some]
  intro result hFollow
  rcases pattern.exists_of_follow_eq_some hFollow with
    ⟨taken, stop, _, hPasses, hTaken, _⟩
  exact hTakes taken ⟨stop.after, hPasses.1.symm⟩ hTaken

/- A fixed text takes nothing but itself. -/
theorem eq_of_takes_text
    {wanted : String}
    (hTakes : (Pattern.text wanted).Takes taken) :
    taken = wanted.toList := by
  unfold Pattern.text at hTakes
  generalize wanted.toList = chars at hTakes ⊢
  induction chars generalizing taken with
  | nil => exact hTakes
  | cons c others ih =>
      rcases hTakes with
        ⟨init, last, ⟨d, hAccepts, rfl⟩, hLast, rfl⟩
      rw [beq_iff_eq] at hAccepts
      rw [hAccepts, ih hLast]
      rfl

/- It takes nothing where it does not stand. -/
theorem refuses_text
    {wanted : String}
    (hOther : wanted.toList.isPrefixOf text = false) :
    (Pattern.text wanted).Refuses text := by
  apply refuses_of_not_takes
  intro taken hPrefix hTakes
  rw [eq_of_takes_text hTakes, ← List.isPrefixOf_iff_prefix,
    hOther] at hPrefix
  cases hPrefix

theorem refuses_char
    (hText : ∀ c ∈ text.head?, accepts c = false) :
    (char accepts).Refuses text := by
  intro α before groups next
  cases text with
  | nil => rfl
  | cons c rest =>
      have hRefuses : accepts c = false := hText c rfl
      rw [follow_char_cons, hRefuses]
      rfl

end Pattern

end Dashboard

------------------------------------------------------------
-- A Group Behind A Lead
------------------------------------------------------------

namespace Dashboard

namespace Pattern

/- The group holds what its body takes first. -/
theorem TakesFirst.group?_matchAt
    {lead body : Pattern}
    {init taken rest : List Char}
    (hLead : lead.TakesFirst init (taken ++ rest))
    (hBody : body.TakesFirst taken rest)
    (before : List Char) :
    ((sequence [lead, group body]).matchAt
          ⟨before, init ++ (taken ++ rest)⟩).bind
        (·.group? 0) =
      some taken := by
  have hPasses :
      Place.Passes ⟨init.reverse ++ before, taken ++ rest⟩
        taken
        ⟨taken.reverse ++ (init.reverse ++ before), rest⟩ :=
    ⟨rfl, rfl⟩
  have hMatch :
      (sequence [lead, group body]).matchAt
          ⟨before, init ++ (taken ++ rest)⟩ =
        some
          ⟨⟨⟨before, init ++ (taken ++ rest)⟩,
              ⟨taken.reverse ++ (init.reverse ++ before),
                rest⟩⟩,
            [⟨⟨init.reverse ++ before, taken ++ rest⟩,
              ⟨taken.reverse ++ (init.reverse ++ before),
                rest⟩⟩]⟩ := by
    unfold matchAt Pattern.sequence
    rw [List.foldr_cons, follow_both]
    apply hLead
    rw [List.foldr_cons, follow_both, follow_group]
    apply hBody
    rfl
  rw [hMatch]
  exact congrArg some (Span.text_of_passes hPasses)

end Pattern

end Dashboard

------------------------------------------------------------
-- A Group Behind Blanks
------------------------------------------------------------

namespace Dashboard

namespace Pattern

variable {body : Pattern} {text : List Char}

/- Blanks are passed, and the first way is taken. -/
theorem TakesFirst.group?_matchAt_spacing
    {taken rest : List Char}
    (hText : Text.trimLeft text = taken ++ rest)
    (hBody : body.TakesFirst taken rest) :
    ((sequence [spacing, group body]).matchAt
          ⟨[], text⟩).bind
        (·.group? 0) =
      some taken := by
  have hWhole :
      text =
        text.takeWhile Text.isBlank ++ (taken ++ rest) := by
    rw [← hText]
    exact List.takeWhile_append_dropWhile.symm
  have hBlank :
      ∀ c ∈ (taken ++ rest).head?, Text.isBlank c = false := by
    intro c hHead
    have hNext := List.head?_dropWhile_not Text.isBlank text
    rw [← hText, Text.trimLeft] at hHead
    rw [Option.mem_def.mp hHead] at hNext
    exact hNext
  have hSpacing :
      spacing.TakesFirst (text.takeWhile Text.isBlank)
        (taken ++ rest) :=
    takesFirst_run (fun _ hMem => List.mem_takeWhile_imp hMem)
      hBlank
  have hGroup := hSpacing.group?_matchAt hBody []
  rw [← hWhole] at hGroup
  exact hGroup

/-
  Nothing is taken if none of what stands behind the blanks
  is.  What starts with a blank could be taken from the
  middle of them.
-/
theorem matchAt_spacing_eq_none
    (hStart :
      ∀ taken, body.Takes taken →
        ∃ c others,
          taken = c :: others ∧ Text.isBlank c = false)
    (hNone :
      ∀ taken, taken <+: Text.trimLeft text →
        ¬ body.Takes taken) :
    (sequence [spacing, group body]).matchAt ⟨[], text⟩ =
      none := by
  have hRefuses :
      (sequence [spacing, group body]).Refuses text := by
    apply refuses_of_not_takes
    rintro taken ⟨more, hText⟩
      ⟨blanks, _, hBlanks, ⟨written, _, hTakes, rfl, rfl⟩,
        rfl⟩
    refine hNone written ⟨more, ?_⟩ hTakes
    rcases hStart written hTakes with
      ⟨c, others, rfl, hBlank⟩
    rw [← hText, Text.trimLeft, List.append_nil,
      List.append_assoc, List.dropWhile_append_of_pos hBlanks]
    simp [hBlank]
  rw [matchAt, hRefuses]

end Pattern

end Dashboard

------------------------------------------------------------
-- Whole Texts
------------------------------------------------------------

namespace Dashboard

namespace Pattern

variable {pattern : Pattern} {text : List Char}

/- Whether some way through a pattern takes a whole text. -/
def fills (pattern : Pattern) (text : List Char) : Bool :=
  (pattern.follow ⟨[], text⟩ [] fun stop _ =>
    if stop.after.isEmpty then some () else none).isSome

theorem TakesFirst.fills
    (hFirst : pattern.TakesFirst text []) :
    pattern.fills text = true := by
  have hFollow :=
    hFirst Unit [] []
      (fun stop _ =>
        if stop.after.isEmpty then some () else none)
      () rfl
  rw [List.append_nil] at hFollow
  rw [Pattern.fills, hFollow]
  rfl

theorem takes_of_fills
    (hFills : pattern.fills text = true) :
    pattern.Takes text := by
  rcases Option.isSome_iff_exists.mp hFills with
    ⟨result, hFollow⟩
  rcases pattern.exists_of_follow_eq_some hFollow with
    ⟨taken, stop, _, hPasses, hTakes, _, _, hEnd⟩
  split at hEnd
  · rename_i hEmpty
    have hText := hPasses.1
    rw [List.isEmpty_iff.mp hEmpty, List.append_nil] at hText
    rwa [← hText] at hTakes
  · cases hEnd

end Pattern

end Dashboard
