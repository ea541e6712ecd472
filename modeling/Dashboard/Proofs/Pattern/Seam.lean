import Dashboard.Proofs.Pattern.Search
import Dashboard.Proofs.Pattern.Taken

/-
  Searches that pass a part of a text.  A pattern of two parts
  is found neither inside a text in which the second part
  cannot start, nor at its end, unless the first part stands
  there and the second part fits behind it.

  Key definitions include:
    * `Pattern.refuses`
    * `Pattern.startsOther`
    * `Pattern.endsIn`

  Main declarations:
    * `Pattern.walk_ne_none_of_takes`
    * `Pattern.findAfter_pass`
    * `Pattern.findAfter_pass_chars`
-/

------------------------------------------------------------
-- What Is Taken
------------------------------------------------------------

namespace Dashboard

namespace Pattern

variable {α : Type}

/- A pattern that nowhere accepts the character. -/
def refuses (pattern : Pattern) (c : Char) : Bool :=
  match pattern with
  | nothing => true
  | char accepts => !accepts c
  | run accepts => !accepts c
  | edge => true
  | both first second => first.refuses c && second.refuses c
  | either first second =>
      first.refuses c && second.refuses c
  | group body => body.refuses c

theorem not_mem_of_takes
    {pattern : Pattern}
    {c : Char}
    (hRefuses : pattern.refuses c = true)
    {taken : List Char}
    (hTakes : pattern.Takes taken) :
    c ∉ taken := by
  induction pattern generalizing taken with
  | nothing =>
      rw [show taken = [] from hTakes]
      exact List.not_mem_nil
  | char accepts =>
      rcases hTakes with ⟨d, hAccepts, rfl⟩
      rw [List.mem_singleton]
      rintro rfl
      simp [refuses, hAccepts] at hRefuses
  | run accepts =>
      intro hMem
      have hAccepts := hTakes c hMem
      simp [refuses, hAccepts] at hRefuses
  | edge =>
      rw [show taken = [] from hTakes]
      exact List.not_mem_nil
  | both first second ihFirst ihSecond =>
      rw [refuses, Bool.and_eq_true] at hRefuses
      rcases hTakes with ⟨init, rest, hInit, hRest, rfl⟩
      rw [List.mem_append, not_or]
      exact
        ⟨ihFirst hRefuses.1 hInit, ihSecond hRefuses.2 hRest⟩
  | either first second ihFirst ihSecond =>
      rw [refuses, Bool.and_eq_true] at hRefuses
      rcases hTakes with hFirst | hSecond
      · exact ihFirst hRefuses.1 hFirst
      · exact ihSecond hRefuses.2 hSecond
  | group body ih => exact ih hRefuses hTakes

theorem ne_nil_of_takes
    {pattern : Pattern}
    (hSome : pattern.takesSome = true)
    {taken : List Char}
    (hTakes : pattern.Takes taken) :
    taken ≠ [] := by
  induction pattern generalizing taken with
  | nothing => cases hSome
  | char accepts =>
      rcases hTakes with ⟨c, _, rfl⟩
      exact List.cons_ne_nil _ _
  | run accepts => cases hSome
  | edge => cases hSome
  | both first second ihFirst ihSecond =>
      rw [takesSome, Bool.or_eq_true] at hSome
      rcases hTakes with ⟨init, rest, hInit, hRest, rfl⟩
      rcases hSome with hFirst | hSecond
      · exact
          List.append_ne_nil_of_left_ne_nil
            (ihFirst hFirst hInit) _
      · exact
          List.append_ne_nil_of_right_ne_nil _
            (ihSecond hSecond hRest)
  | either first second ihFirst ihSecond =>
      rw [takesSome, Bool.and_eq_true] at hSome
      rcases hTakes with hFirst | hSecond
      · exact ihFirst hSome.1 hFirst
      · exact ihSecond hSome.2 hSecond
  | group body ih => exact ih hSome hTakes

/- A pattern that starts, with another character than this. -/
def startsOther (pattern : Pattern) (c : Char) : Bool :=
  match pattern with
  | nothing => false
  | char accepts => !accepts c
  | run _ => false
  | edge => false
  | both first second =>
      first.startsOther c ||
        first.refuses c && second.startsOther c
  | either first second =>
      first.startsOther c && second.startsOther c
  | group body => body.startsOther c

theorem head?_of_takes
    {pattern : Pattern}
    {c : Char}
    (hOther : pattern.startsOther c = true)
    {taken : List Char}
    (hTakes : pattern.Takes taken) :
    ∃ d ∈ taken.head?, d ≠ c := by
  induction pattern generalizing taken with
  | nothing => cases hOther
  | char accepts =>
      rcases hTakes with ⟨d, hAccepts, rfl⟩
      refine ⟨d, rfl, ?_⟩
      rintro rfl
      simp [startsOther, hAccepts] at hOther
  | run accepts => cases hOther
  | edge => cases hOther
  | both first second ihFirst ihSecond =>
      rw [startsOther, Bool.or_eq_true, Bool.and_eq_true]
        at hOther
      rcases hTakes with ⟨init, rest, hInit, hRest, rfl⟩
      rcases hOther with hFirst | ⟨hRefuses, hSecond⟩
      · rcases ihFirst hFirst hInit with ⟨d, hHead, hNot⟩
        refine ⟨d, ?_, hNot⟩
        rw [Option.mem_def] at hHead ⊢
        rw [List.head?_append, hHead, Option.some_or]
      · -- The first part may take nothing.
        cases init with
        | nil => exact ihSecond hSecond hRest
        | cons d more =>
            refine ⟨d, rfl, ?_⟩
            rintro rfl
            exact
              not_mem_of_takes hRefuses hInit
                List.mem_cons_self
  | either first second ihFirst ihSecond =>
      rw [startsOther, Bool.and_eq_true] at hOther
      rcases hTakes with hFirst | hSecond
      · exact ihFirst hOther.1 hFirst
      · exact ihSecond hOther.2 hSecond
  | group body ih => exact ih hOther hTakes

/-
  Blanks and a pattern are not taken where a blank stands
  before a character that the pattern does not start with.
-/
theorem not_isPrefix_blanks
    {pattern : Pattern}
    {c : Char}
    (hSolid : Text.isBlank c = false)
    (hOther : pattern.startsOther c = true)
    {taken : List Char}
    (hTakes : (both blanks pattern).Takes taken)
    (rest : List Char) :
    ¬ taken <+: ' ' :: c :: rest := by
  rcases hTakes with
    ⟨_, last, ⟨_, more, ⟨d, _, rfl⟩, hMore, rfl⟩, hLast, rfl⟩
  rcases head?_of_takes hOther hLast with ⟨e, hHead, hNot⟩
  rw [Option.mem_def, List.head?_eq_some_iff] at hHead
  rcases hHead with ⟨others, rfl⟩
  rw [List.singleton_append, List.cons_append,
    List.cons_prefix_cons]
  rintro ⟨-, hPrefix⟩
  cases more with
  | nil =>
      rw [List.nil_append, List.cons_prefix_cons] at hPrefix
      exact hNot hPrefix.1
  | cons f inner =>
      rw [List.cons_append, List.cons_prefix_cons] at hPrefix
      have hBlank := hMore f List.mem_cons_self
      rw [hPrefix.1, hSolid] at hBlank
      cases hBlank

theorem walkRun_ne_none
    {accepts : Char → Bool}
    {next : List Char → Option α}
    {taken rest : List Char}
    (hTaken : ∀ c ∈ taken, accepts c = true)
    (hNext : next rest ≠ none) :
    walkRun accepts next (taken ++ rest) ≠ none := by
  induction taken with
  | nil =>
      cases rest with
      | nil => exact hNext
      | cons c more =>
          rw [List.nil_append, walkRun]
          split
          · rw [Ne, Option.or_eq_none_iff, not_and]
            exact fun _ => hNext
          · exact hNext
  | cons c more ih =>
      rw [List.forall_mem_cons] at hTaken
      rw [List.cons_append, walkRun, if_pos hTaken.1, Ne,
        Option.or_eq_none_iff, not_and]
      exact fun hNone => absurd hNone (ih hTaken.2)

/- A walk goes every way on which the pattern takes a text. -/
theorem walk_ne_none_of_takes
    {pattern : Pattern}
    {taken rest : List Char}
    (hTakes : pattern.Takes taken)
    {next : List Char → Option α}
    (hNext : next rest ≠ none) :
    pattern.walk next (taken ++ rest) ≠ none := by
  induction pattern generalizing taken rest next with
  | nothing =>
      rw [show taken = [] from hTakes]
      exact hNext
  | char accepts =>
      rcases hTakes with ⟨c, hAccepts, rfl⟩
      rw [List.singleton_append, walk]
      rwa [if_pos hAccepts]
  | run accepts => exact walkRun_ne_none hTakes hNext
  | edge =>
      rw [show taken = [] from hTakes]
      exact hNext
  | both first second ihFirst ihSecond =>
      rcases hTakes with ⟨init, more, hInit, hMore, rfl⟩
      rw [walk, List.append_assoc]
      exact ihFirst hInit (ihSecond hMore hNext)
  | either first second ihFirst ihSecond =>
      rw [walk, Ne, Option.or_eq_none_iff, not_and]
      rcases hTakes with hFirst | hSecond
      · exact fun hNone =>
          absurd hNone (ihFirst hFirst hNext)
      · exact fun _ => ihSecond hSecond hNext
  | group body ih => exact ih hTakes hNext

/- Where no walk leads, nothing is taken. -/
theorem not_isPrefix_of_takes
    {pattern : Pattern}
    {text : List Char}
    (hNone : pattern.walk (fun _ => some ()) text = none)
    {taken : List Char}
    (hTakes : pattern.Takes taken) :
    ¬ taken <+: text := by
  rintro ⟨rest, rfl⟩
  exact
    walk_ne_none_of_takes hTakes (Option.some_ne_none ())
      hNone

/- The pattern fits somewhere up to the end of a text. -/
def endsIn (pattern : Pattern) (text : List Char) : Bool :=
  (pattern.scout?
      (fun after => if after.isEmpty then some () else none)
      text).isSome

theorem not_isSuffix_of_takes
    {pattern : Pattern}
    {text : List Char}
    (hEnds : pattern.endsIn text = false)
    {taken : List Char}
    (hSome : taken ≠ [])
    (hTakes : pattern.Takes taken) :
    ¬ taken <:+ text := by
  rw [endsIn, Option.isSome_eq_false_iff,
    Option.isNone_iff_eq_none] at hEnds
  rintro ⟨init, rfl⟩
  induction init with
  | nil =>
      rcases List.exists_cons_of_ne_nil hSome with
        ⟨c, more, rfl⟩
      rw [List.nil_append, scout?_cons_eq_none_iff] at hEnds
      have hWalk :
          pattern.walk
              (fun after =>
                if after.isEmpty then some () else none)
              (c :: more ++ []) ≠
            none :=
        walk_ne_none_of_takes hTakes (Option.some_ne_none ())
      rw [List.append_nil] at hWalk
      exact hWalk hEnds.1
  | cons c more ih =>
      rw [List.cons_append, scout?_cons_eq_none_iff] at hEnds
      exact ih hEnds.2

end Pattern

end Dashboard

------------------------------------------------------------
-- Searches
------------------------------------------------------------

namespace Dashboard

namespace Pattern

variable {pattern first second : Pattern}

/- A pattern fits nowhere where it takes no text. -/
theorem matchAt_eq_none_of_takes
    {before after : List Char}
    (hNot : ∀ taken, pattern.Takes taken → ¬ taken <+: after) :
    pattern.matchAt ⟨before, after⟩ = none := by
  cases hMatch : pattern.matchAt ⟨before, after⟩ with
  | none => rfl
  | some found =>
      rcases pattern.exists_of_follow_eq_some hMatch with
        ⟨taken, stop, _, hPasses, hTakes, _⟩
      exact absurd ⟨stop.after, hPasses.1.symm⟩
        (hNot taken hTakes)

theorem matchAt_of_splits
    (hSplits : pattern.Splits first second)
    (place : Place) :
    pattern.matchAt place =
      (both first second).matchAt place := by
  rw [matchAt, hSplits, matchAt, follow_both]

/- A search goes on where nothing fits. -/
theorem findAfter_cons
    {before rest : List Char}
    {c : Char}
    (hHere : pattern.matchAt ⟨before, c :: rest⟩ = none) :
    pattern.findAfter before (c :: rest) =
      pattern.findAfter (c :: before) rest := by
  rw [findAfter, hHere]

/- A search passes a text at no place of which it succeeds. -/
theorem findAfter_append_of_matchAt
    {text rest : List Char}
    (hNone :
      ∀ before after, after <:+ text → after ≠ [] →
        pattern.matchAt ⟨before, after ++ rest⟩ = none)
    (before : List Char) :
    pattern.findAfter before (text ++ rest) =
      pattern.findAfter (text.reverse ++ before) rest := by
  induction text generalizing before with
  | nil => rfl
  | cons c more ih =>
      have hHere :=
        hNone before (c :: more) List.suffix_rfl
          (List.cons_ne_nil _ _)
      rw [List.cons_append] at hHere ⊢
      rw [findAfter_cons hHere, ih, List.reverse_cons,
        List.append_assoc, List.singleton_append]
      exact fun before after hSuffix =>
        hNone before after
          (hSuffix.trans (List.suffix_cons c more))

/-
  A search for two parts passes a text in which the second
  part does not start, unless the first part ends there and
  the second part comes next.
-/
theorem findAfter_pass
    (hSplits : pattern.Splits first second)
    {text rest : List Char}
    (hFirst :
      ∀ taken, first.Takes taken →
        ∀ c ∈ rest.head?, c ∉ taken)
    (hSecond :
      ∀ taken, second.Takes taken →
        ∃ c ∈ taken.head?, c ∉ text)
    (hEnd :
      ∀ init last, first.Takes init → second.Takes last →
        init <:+ text → ¬ last <+: rest)
    (before : List Char) :
    pattern.findAfter before (text ++ rest) =
      pattern.findAfter (text.reverse ++ before) rest := by
  apply findAfter_append_of_matchAt
  intro before after hSuffix hSome
  rw [matchAt_of_splits hSplits]
  apply matchAt_eq_none_of_takes
  rintro taken ⟨init, last, hInit, hLast, rfl⟩ ⟨more, hTaken⟩
  rcases hSecond last hLast with ⟨c, hHead, hNot⟩
  rw [Option.mem_def, List.head?_eq_some_iff] at hHead
  rcases hHead with ⟨others, rfl⟩
  rw [List.append_assoc, List.append_eq_append_iff] at hTaken
  rcases hTaken with
    ⟨between, rfl, hRest⟩ | ⟨between, rfl, hRest⟩
  · -- The first part stops inside the text or at its end.
    cases between with
    | nil =>
        rw [List.append_nil] at hSuffix
        exact hEnd init _ hInit hLast hSuffix ⟨more, hRest⟩
    | cons d inner =>
        obtain ⟨rfl, -⟩ := List.cons.inj hRest
        apply hNot
        apply hSuffix.subset
        simp
  · -- The first part goes on behind the text.
    cases between with
    | nil =>
        rw [List.append_nil] at hInit
        exact
          hEnd after _ hInit hLast hSuffix
            ⟨more, hRest.symm⟩
    | cons d inner =>
        have hMem : d ∈ rest.head? := by
          rw [hRest]
          rfl
        exact hFirst _ hInit d hMem (by simp)

/-
  A search passes a text without the first character that its
  pattern takes.
-/
theorem findAfter_pass_chars
    {text : List Char}
    (hFirst :
      ∀ taken, pattern.Takes taken →
        ∃ c ∈ taken.head?, c ∉ text)
    (before rest : List Char) :
    pattern.findAfter before (text ++ rest) =
      pattern.findAfter (text.reverse ++ before) rest := by
  apply findAfter_append_of_matchAt
  intro before after hSuffix hSome
  apply matchAt_eq_none_of_takes
  rintro taken hTakes ⟨more, hTaken⟩
  rcases hFirst taken hTakes with ⟨c, hHead, hNot⟩
  rw [Option.mem_def, List.head?_eq_some_iff] at hHead
  rcases hHead with ⟨others, rfl⟩
  rcases List.exists_cons_of_ne_nil hSome with ⟨d, inner, rfl⟩
  obtain ⟨rfl, -⟩ := List.cons.inj hTaken
  exact hNot (hSuffix.subset List.mem_cons_self)

end Pattern

end Dashboard
