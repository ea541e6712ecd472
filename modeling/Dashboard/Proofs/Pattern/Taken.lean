import Dashboard.Proofs.Pattern.Follow

/-
  What a pattern takes.  Whatever way leads through a
  pattern, the text on that way is one that the pattern
  takes, and each of its groups took a part of it.

  Key definitions include:
    * `Place.Passes`
    * `Pattern.Takes`
    * `Pattern.bodies`
    * `Pattern.groupsAlways`

  Main declarations:
    * `Pattern.exists_of_follow_eq_some`
    * `Pattern.head_isPrefix_of_find`
    * `Pattern.takes_of_group?`
    * `Pattern.isSome_group?_of_find`
-/

------------------------------------------------------------
-- Texts Between Places
------------------------------------------------------------

namespace Dashboard

namespace Place

/- A text stands between a place and one ahead of it. -/
def Passes
    (place : Place)
    (taken : List Char)
    (stop : Place) : Prop :=
  place.after = taken ++ stop.after ∧
    stop.before = taken.reverse ++ place.before

theorem passes_nil (place : Place) : place.Passes [] place :=
  ⟨rfl, rfl⟩

theorem Passes.append
    {first second third : Place}
    {taken more : List Char}
    (hFirst : first.Passes taken second)
    (hSecond : second.Passes more third) :
    first.Passes (taken ++ more) third := by
  rcases hFirst with ⟨hAfter, hBefore⟩
  rcases hSecond with ⟨hMore, hLater⟩
  constructor
  · rw [hAfter, hMore, List.append_assoc]
  · rw [hLater, hBefore, List.reverse_append,
      List.append_assoc]

theorem passes_char
    (before : List Char)
    (c : Char)
    (rest : List Char) :
    Passes ⟨before, c :: rest⟩ [c] ⟨c :: before, rest⟩ :=
  ⟨rfl, rfl⟩

theorem Passes.reaches
    {place stop : Place}
    {taken : List Char}
    (hPasses : place.Passes taken stop) :
    place.Reaches stop :=
  ⟨taken, hPasses⟩

end Place

theorem Span.text_of_passes
    {span : Span}
    {taken : List Char}
    (hPasses : span.start.Passes taken span.stop) :
    span.text = taken := by
  simp [text, hPasses.2]

end Dashboard

------------------------------------------------------------
-- What Patterns Take
------------------------------------------------------------

namespace Dashboard

namespace Pattern

/- The texts that a pattern may take, edges aside. -/
def Takes : Pattern → List Char → Prop
  | nothing, taken => taken = []
  | char accepts, taken =>
      ∃ c, accepts c = true ∧ taken = [c]
  | run accepts, taken => ∀ c ∈ taken, accepts c = true
  | edge, taken => taken = []
  | both first second, taken =>
      ∃ init rest,
        first.Takes init ∧ second.Takes rest ∧
          taken = init ++ rest
  | either first second, taken =>
      first.Takes taken ∨ second.Takes taken
  | group body, taken => body.Takes taken

/- The bodies of the groups of a pattern. -/
def bodies : Pattern → List Pattern
  | nothing => []
  | char _ => []
  | run _ => []
  | edge => []
  | both first second => first.bodies ++ second.bodies
  | either first second => first.bodies ++ second.bodies
  | group body => body.bodies ++ [body]

/- A pattern that has a group on every way through it. -/
def groupsAlways : Pattern → Bool
  | nothing => false
  | char _ => false
  | run _ => false
  | edge => false
  | both first second =>
      first.groupsAlways || second.groupsAlways
  | either first second =>
      first.groupsAlways && second.groupsAlways
  | group _ => true

/-
  A part of a text that a group of the pattern may take, at
  a place or further on.
-/
def MayGroup
    (pattern : Pattern)
    (place : Place)
    (span : Span) : Prop :=
  ∃ body ∈ pattern.bodies, ∃ taken,
    place.Reaches span.start ∧
      span.start.Passes taken span.stop ∧ body.Takes taken

theorem MayGroup.mono
    {pattern other : Pattern}
    {place earlier : Place}
    {span : Span}
    (hBodies : pattern.bodies ⊆ other.bodies)
    (hReaches : earlier.Reaches place)
    (hGroup : pattern.MayGroup place span) :
    other.MayGroup earlier span := by
  rcases hGroup with
    ⟨body, hBody, taken, hStart, hPasses, hTakes⟩
  exact
    ⟨body, hBodies hBody, taken, hReaches.trans hStart,
      hPasses, hTakes⟩

variable {α : Type}

/- A run that leads on takes accepted characters only. -/
theorem exists_of_followRun_eq_some
    {accepts : Char → Bool}
    {next : Place → Option α}
    {before after : List Char}
    {result : α}
    (hFollow :
      followRun accepts next before after = some result) :
    ∃ taken stop,
      Place.Passes ⟨before, after⟩ taken stop ∧
        (∀ c ∈ taken, accepts c = true) ∧
        next stop = some result := by
  have hHere :
      ∀ before after : List Char,
        next ⟨before, after⟩ = some result →
          ∃ taken stop,
            Place.Passes ⟨before, after⟩ taken stop ∧
              (∀ c ∈ taken, accepts c = true) ∧
              next stop = some result := by
    intro before after hNext
    exact ⟨[], _, Place.passes_nil _, by simp, hNext⟩
  induction after generalizing before with
  | nil => exact hHere before [] hFollow
  | cons c rest ih =>
      rw [followRun_cons] at hFollow
      by_cases hAccepts : accepts c = true
      · rw [if_pos hAccepts, Option.or_eq_some_iff]
          at hFollow
        rcases hFollow with hMore | ⟨_, hNext⟩
        · rcases ih hMore with
            ⟨taken, stop, hPasses, hTaken, hNext⟩
          refine ⟨c :: taken, stop, ?_, ?_, hNext⟩
          · exact (Place.passes_char before c rest).append
              hPasses
          · simpa [hAccepts] using hTaken
        · exact hHere _ _ hNext
      · rw [if_neg hAccepts] at hFollow
        exact hHere _ _ hFollow

/-
  Where following a pattern succeeds, there is a way through
  it: a text that it takes, and groups, after which what
  comes next succeeds.
-/
theorem exists_of_follow_eq_some
    (pattern : Pattern)
    {place : Place}
    {groups : List Span}
    {next : Place → List Span → Option α}
    {result : α}
    (hFollow :
      pattern.follow place groups next = some result) :
    ∃ taken stop inner,
      place.Passes taken stop ∧ pattern.Takes taken ∧
        (∀ span ∈ inner, pattern.MayGroup place span) ∧
        (pattern.groupsAlways = true → inner ≠ []) ∧
        next stop (groups ++ inner) = some result := by
  induction pattern generalizing place groups next with
  | nothing =>
      refine
        ⟨[], place, [], Place.passes_nil _, rfl, ?_, ?_, ?_⟩
      · simp
      · rintro ⟨⟩
      · simpa [follow] using hFollow
  | char accepts =>
      rcases place with ⟨before, after⟩
      cases after with
      | nil => cases hFollow
      | cons c rest =>
          rw [follow_char_cons] at hFollow
          by_cases hAccepts : accepts c = true
          · rw [if_pos hAccepts] at hFollow
            refine
              ⟨[c], _, [], Place.passes_char before c rest,
                ⟨c, hAccepts, rfl⟩, ?_, ?_, ?_⟩
            · simp
            · rintro ⟨⟩
            · simpa using hFollow
          · rw [if_neg hAccepts] at hFollow
            cases hFollow
  | run accepts =>
      rcases exists_of_followRun_eq_some hFollow with
        ⟨taken, stop, hPasses, hTaken, hNext⟩
      refine ⟨taken, stop, [], hPasses, hTaken, ?_, ?_, ?_⟩
      · simp
      · rintro ⟨⟩
      · simpa using hNext
  | edge =>
      rw [follow_edge] at hFollow
      split at hFollow
      · refine
          ⟨[], place, [], Place.passes_nil _, rfl, ?_, ?_, ?_⟩
        · simp
        · rintro ⟨⟩
        · simpa using hFollow
      · cases hFollow
  | both first second ihFirst ihSecond =>
      rw [follow_both] at hFollow
      rcases ihFirst hFollow with
        ⟨taken, stop, inner, hPasses, hTakes, hInner,
          hFirstGroup, hRest⟩
      rcases ihSecond hRest with
        ⟨more, last, others, hMore, hSecond, hOthers,
          hSecondGroup, hNext⟩
      refine
        ⟨taken ++ more, last, inner ++ others,
          hPasses.append hMore,
          ⟨taken, more, hTakes, hSecond, rfl⟩, ?_, ?_, ?_⟩
      · intro span hMem
        rcases List.mem_append.mp hMem with hOld | hNew
        · exact
            (hInner span hOld).mono
              (List.subset_append_left _ _) (.refl _)
        · exact
            (hOthers span hNew).mono
              (List.subset_append_right _ _)
              hPasses.reaches
      · intro hAlways
        rw [groupsAlways, Bool.or_eq_true] at hAlways
        rcases hAlways with hFirst | hSecond
        · exact
            List.append_ne_nil_of_left_ne_nil
              (hFirstGroup hFirst) _
        · exact
            List.append_ne_nil_of_right_ne_nil _
              (hSecondGroup hSecond)
      · rwa [← List.append_assoc]
  | either first second ihFirst ihSecond =>
      rw [follow_either, Option.or_eq_some_iff] at hFollow
      rcases hFollow with hFirst | ⟨_, hSecond⟩
      · rcases ihFirst hFirst with
          ⟨taken, stop, inner, hPasses, hTakes, hInner,
            hGroup, hNext⟩
        refine
          ⟨taken, stop, inner, hPasses, .inl hTakes, ?_, ?_,
            hNext⟩
        · intro span hMem
          exact
            (hInner span hMem).mono
              (List.subset_append_left _ _) (.refl _)
        · intro hAlways
          rw [groupsAlways, Bool.and_eq_true] at hAlways
          exact hGroup hAlways.1
      · rcases ihSecond hSecond with
          ⟨taken, stop, inner, hPasses, hTakes, hInner,
            hGroup, hNext⟩
        refine
          ⟨taken, stop, inner, hPasses, .inr hTakes, ?_, ?_,
            hNext⟩
        · intro span hMem
          exact
            (hInner span hMem).mono
              (List.subset_append_right _ _) (.refl _)
        · intro hAlways
          rw [groupsAlways, Bool.and_eq_true] at hAlways
          exact hGroup hAlways.2
  | group body ih =>
      rw [follow_group] at hFollow
      rcases ih hFollow with
        ⟨taken, stop, inner, hPasses, hTakes, hInner, _,
          hNext⟩
      refine
        ⟨taken, stop, inner ++ [⟨place, stop⟩], hPasses,
          hTakes, ?_, ?_, ?_⟩
      · intro span hMem
        rcases List.mem_append.mp hMem with hOld | hNew
        · exact
            (hInner span hOld).mono
              (List.subset_append_left _ _) (.refl _)
        · rw [List.mem_singleton.mp hNew]
          refine ⟨body, ?_, taken, .refl _, hPasses, hTakes⟩
          simp [bodies]
      · intro _
        exact
          List.append_ne_nil_of_right_ne_nil _
            (List.cons_ne_nil _ _)
      · rwa [← List.append_assoc]

end Pattern

end Dashboard

------------------------------------------------------------
-- What Searches Find
------------------------------------------------------------

namespace Dashboard

namespace Pattern

variable {pattern : Pattern}

/- A match starts at a place that lies ahead. -/
theorem exists_of_findAfter_eq_some
    {before text : List Char}
    {found : Match}
    (hFind : pattern.findAfter before text = some found) :
    ∃ place,
      Place.Reaches ⟨before, text⟩ place ∧
        pattern.matchAt place = some found := by
  induction text generalizing before with
  | nil => exact ⟨_, .refl _, hFind⟩
  | cons c rest ih =>
      rw [findAfter] at hFind
      cases hHere :
          pattern.matchAt ⟨before, c :: rest⟩ with
      | some here =>
          rw [hHere] at hFind
          refine ⟨_, .refl _, ?_⟩
          rw [hHere]
          exact hFind
      | none =>
          rw [hHere] at hFind
          rcases ih hFind with ⟨place, hReaches, hPlace⟩
          exact
            ⟨place,
              (Place.reaches_next before c rest).trans
                hReaches,
              hPlace⟩

/- What a match at a place consists of. -/
theorem of_matchAt_eq_some
    {place : Place}
    {found : Match}
    (hMatch : pattern.matchAt place = some found) :
    found.whole.start = place ∧
      (∀ span ∈ found.groups, pattern.MayGroup place span) ∧
      (pattern.groupsAlways = true → found.groups ≠ []) := by
  rw [matchAt] at hMatch
  rcases pattern.exists_of_follow_eq_some hMatch with
    ⟨taken, stop, inner, _, _, hInner, hGroup, hFound⟩
  rw [List.nil_append, Option.some.injEq] at hFound
  subst hFound
  exact ⟨rfl, hInner, hGroup⟩

/- What stands before a match starts the text. -/
theorem head_isPrefix_of_find
    {text : List Char}
    {found : Match}
    (hFind : pattern.find text = some found) :
    found.head <+: text := by
  rcases exists_of_findAfter_eq_some hFind with
    ⟨place, ⟨taken, hAfter, hBefore⟩, hMatch⟩
  refine ⟨place.after, ?_⟩
  rw [Match.head, (of_matchAt_eq_some hMatch).1, hBefore]
  simpa using hAfter.symm

/-
  What a group of a match holds is a part of the text, and
  one that the body of a group takes.
-/
theorem takes_of_group?
    {text word : List Char}
    {found : Match}
    {index : Nat}
    (hFind : pattern.find text = some found)
    (hGroup : found.group? index = some word) :
    word <:+: text ∧
      ∃ body ∈ pattern.bodies, body.Takes word := by
  rcases exists_of_findAfter_eq_some hFind with
    ⟨place, hReaches, hMatch⟩
  rcases Option.map_eq_some_iff.mp hGroup with
    ⟨span, hSpan, hWord⟩
  rcases (of_matchAt_eq_some hMatch).2.1 span
      (List.mem_of_getElem? hSpan) with
    ⟨body, hBody, taken, hStart, hPasses, hTakes⟩
  have hTaken : taken = word := by
    rw [← hWord, Span.text_of_passes hPasses]
  subst hTaken
  refine ⟨?_, body, hBody, hTakes⟩
  have hInfix : taken <:+: span.start.after :=
    ⟨[], span.stop.after, hPasses.1.symm⟩
  exact
    hInfix.trans
      (hReaches.trans hStart).suffix.isInfix

/- A pattern with a group on every way finds one. -/
theorem isSome_group?_of_find
    (hAlways : pattern.groupsAlways = true)
    {text : List Char}
    {found : Match}
    (hFind : pattern.find text = some found) :
    (found.group? 0).isSome = true := by
  rcases exists_of_findAfter_eq_some hFind with
    ⟨place, _, hMatch⟩
  have hSome := (of_matchAt_eq_some hMatch).2.2 hAlways
  rcases List.exists_cons_of_ne_nil hSome with
    ⟨span, rest, hGroups⟩
  rw [Match.group?, hGroups]
  rfl

end Pattern

end Dashboard
