import Dashboard.Pattern
import Mathlib.Data.List.Basic

/-
  How patterns are followed.  A pattern only goes forward, so
  what comes after it need only be known at the places that
  lie ahead; and a pattern that does not accept the first
  character of a text stops before that text at the latest.

  Key definitions include:
    * `Place.Reaches`
    * `Pattern.avoids`
    * `Pattern.takesSome`
    * `Pattern.walk`
    * `Pattern.Splits`

  Main declarations:
    * `Pattern.follow_congr`
    * `Pattern.follow_map`
    * `Pattern.follow_append`
    * `Pattern.follow_text`
    * `Pattern.follow_eq_walk`
-/

------------------------------------------------------------
-- Places Ahead
------------------------------------------------------------

namespace Dashboard

namespace Place

/- The second place lies ahead of the first, or is it. -/
def Reaches (place stop : Place) : Prop :=
  ∃ taken,
    place.after = taken ++ stop.after ∧
      stop.before = taken.reverse ++ place.before

theorem Reaches.refl (place : Place) : place.Reaches place :=
  ⟨[], rfl, rfl⟩

theorem Reaches.trans
    {first second third : Place}
    (hFirst : first.Reaches second)
    (hSecond : second.Reaches third) :
    first.Reaches third := by
  rcases hFirst with ⟨taken, hAfter, hBefore⟩
  rcases hSecond with ⟨more, hMore, hLater⟩
  refine ⟨taken ++ more, ?_, ?_⟩
  · rw [hAfter, hMore, List.append_assoc]
  · rw [hLater, hBefore, List.reverse_append,
      List.append_assoc]

theorem reaches_next
    (before : List Char)
    (c : Char)
    (rest : List Char) :
    Reaches ⟨before, c :: rest⟩ ⟨c :: before, rest⟩ :=
  ⟨[c], rfl, rfl⟩

theorem Reaches.suffix
    {place stop : Place}
    (hReaches : place.Reaches stop) :
    stop.after <:+ place.after := by
  rcases hReaches with ⟨taken, hAfter, _⟩
  exact ⟨taken, hAfter.symm⟩

end Place

end Dashboard

------------------------------------------------------------
-- Runs
------------------------------------------------------------

namespace Dashboard

namespace Pattern

variable {α β : Type}
variable {accepts : Char → Bool}

theorem followRun_cons
    (next : Place → Option α)
    (before : List Char)
    (c : Char)
    (rest : List Char) :
    followRun accepts next before (c :: rest) =
      if accepts c then
        (followRun accepts next (c :: before) rest).or
          (next ⟨before, c :: rest⟩)
      else
        next ⟨before, c :: rest⟩ :=
  rfl

theorem followRun_congr
    {next other : Place → Option α}
    {before after : List Char}
    (hNext :
      ∀ stop, Place.Reaches ⟨before, after⟩ stop →
        next stop = other stop) :
    followRun accepts next before after =
      followRun accepts other before after := by
  induction after generalizing before with
  | nil => exact hNext _ (.refl _)
  | cons c rest ih =>
      rw [followRun_cons, followRun_cons, hNext _ (.refl _)]
      rw [ih fun stop hReaches =>
        hNext stop
          ((Place.reaches_next before c rest).trans hReaches)]

theorem followRun_none (before after : List Char) :
    followRun accepts (fun _ => (none : Option α)) before
        after =
      none := by
  induction after generalizing before with
  | nil => rfl
  | cons c rest ih =>
      rw [followRun_cons, ih]
      split
      · rfl
      · rfl

theorem followRun_map
    (f : α → β)
    (next : Place → Option α)
    (before after : List Char) :
    followRun accepts (fun stop => (next stop).map f) before
        after =
      (followRun accepts next before after).map f := by
  induction after generalizing before with
  | nil => rfl
  | cons c rest ih =>
      rw [followRun_cons, followRun_cons, ih]
      split
      · rw [Option.map_or]
      · rfl

theorem followRun_append
    {c : Char}
    (hAvoids : accepts c = false)
    (next : Place → Option α)
    (before after rest : List Char) :
    followRun accepts next before (after ++ c :: rest) =
      followRun accepts
        (fun stop =>
          next ⟨stop.before, stop.after ++ c :: rest⟩)
        before after := by
  induction after generalizing before with
  | nil =>
      rw [List.nil_append, followRun_cons, hAvoids]
      rfl
  | cons d more ih =>
      rw [List.cons_append, followRun_cons, followRun_cons, ih]
      rfl

theorem followRun_eq_none_of_imp
    {next : Place → Option α}
    {other : Place → Option β}
    {before after : List Char}
    (hNext : ∀ stop, next stop = none → other stop = none)
    (hNone : followRun accepts next before after = none) :
    followRun accepts other before after = none := by
  induction after generalizing before with
  | nil => exact hNext _ hNone
  | cons c rest ih =>
      rw [followRun_cons] at hNone ⊢
      split
      · rename_i hAccepts
        rw [if_pos hAccepts, Option.or_eq_none_iff] at hNone
        rw [ih hNone.1, hNext _ hNone.2]
        rfl
      · rename_i hRefuses
        rw [if_neg hRefuses] at hNone
        exact hNext _ hNone

/- A run takes all it can if that leads on. -/
theorem followRun_eq_some
    {next : Place → Option α}
    {taken rest : List Char}
    {before : List Char}
    {result : α}
    (hTaken : ∀ c ∈ taken, accepts c = true)
    (hRest : ∀ c ∈ rest.head?, accepts c = false)
    (hNext :
      next ⟨taken.reverse ++ before, rest⟩ = some result) :
    followRun accepts next before (taken ++ rest) =
      some result := by
  induction taken generalizing before with
  | nil =>
      cases rest with
      | nil => exact hNext
      | cons c more =>
          have hFirst := hRest c rfl
          simpa [followRun_cons, hFirst] using hNext
  | cons c more ih =>
      rw [List.forall_mem_cons] at hTaken
      have hMore :
          followRun accepts next (c :: before) (more ++ rest) =
            some result := by
        apply ih hTaken.2
        simpa using hNext
      rw [List.cons_append, followRun_cons, if_pos hTaken.1,
        hMore]
      rfl

end Pattern

end Dashboard

------------------------------------------------------------
-- One Step For Each Kind Of Pattern
------------------------------------------------------------

namespace Dashboard

namespace Pattern

variable {α : Type}
variable {place : Place} {groups : List Span}
variable {next : Place → List Span → Option α}

theorem follow_char_cons
    {accepts : Char → Bool}
    {before rest : List Char}
    {c : Char} :
    (char accepts).follow ⟨before, c :: rest⟩ groups next =
      if accepts c then
        next ⟨c :: before, rest⟩ groups
      else
        none :=
  rfl

theorem follow_edge :
    edge.follow place groups next =
      if Text.isEdge place.before.head? place.after.head? then
        next place groups
      else
        none :=
  rfl

theorem follow_both {first second : Pattern} :
    (both first second).follow place groups next =
      first.follow place groups fun stop found =>
        second.follow stop found next :=
  rfl

theorem follow_either {first second : Pattern} :
    (either first second).follow place groups next =
      (first.follow place groups next).or
        (second.follow place groups next) := by
  rw [follow]
  cases first.follow place groups next with
  | none => rfl
  | some result => rfl

theorem follow_group {body : Pattern} :
    (group body).follow place groups next =
      body.follow place groups fun stop found =>
        next stop (found ++ [⟨place, stop⟩]) :=
  rfl

end Pattern

end Dashboard

------------------------------------------------------------
-- What Comes After A Pattern
------------------------------------------------------------

namespace Dashboard

namespace Pattern

variable {α β : Type}

/- Only the places ahead matter to what comes after. -/
theorem follow_congr
    (pattern : Pattern)
    {place : Place}
    {groups : List Span}
    {next other : Place → List Span → Option α}
    (hNext :
      ∀ stop found, place.Reaches stop →
        next stop found = other stop found) :
    pattern.follow place groups next =
      pattern.follow place groups other := by
  induction pattern generalizing place groups next other with
  | nothing => exact hNext _ _ (.refl _)
  | char accepts =>
      rcases place with ⟨before, after⟩
      cases after with
      | nil => rfl
      | cons c rest =>
          rw [follow_char_cons, follow_char_cons,
            hNext _ _ (Place.reaches_next before c rest)]
  | run accepts =>
      exact followRun_congr fun stop hReaches =>
        hNext stop groups hReaches
  | edge =>
      rw [follow_edge, follow_edge, hNext _ _ (.refl _)]
  | both first second ihFirst ihSecond =>
      rw [follow_both, follow_both]
      apply ihFirst
      intro stop found hReaches
      apply ihSecond
      intro last all hLast
      exact hNext last all (hReaches.trans hLast)
  | either first second ihFirst ihSecond =>
      rw [follow_either, follow_either, ihFirst hNext,
        ihSecond hNext]
  | group body ih =>
      rw [follow_group, follow_group]
      apply ih
      intro stop found hReaches
      exact hNext stop _ hReaches

theorem follow_none
    (pattern : Pattern)
    (place : Place)
    (groups : List Span) :
    pattern.follow place groups
        (fun _ _ => (none : Option α)) =
      none := by
  induction pattern generalizing place groups with
  | nothing => rfl
  | char accepts =>
      rcases place with ⟨before, after⟩
      cases after with
      | nil => rfl
      | cons c rest => rw [follow_char_cons, ite_self]
  | run accepts => exact followRun_none _ _
  | edge => rw [follow_edge, ite_self]
  | both first second ihFirst ihSecond =>
      simp only [follow_both, ihSecond, ihFirst]
  | either first second ihFirst ihSecond =>
      rw [follow_either, ihFirst, ihSecond, Option.none_or]
  | group body ih =>
      rw [follow_group]
      exact ih _ _

/- A pattern leads nowhere if no place ahead does. -/
theorem follow_eq_none
    (pattern : Pattern)
    {place : Place}
    {groups : List Span}
    {next : Place → List Span → Option α}
    (hNext :
      ∀ stop found, place.Reaches stop →
        next stop found = none) :
    pattern.follow place groups next = none := by
  rw [pattern.follow_congr hNext, follow_none]

/- What leads nowhere does so whatever is made of it. -/
theorem follow_eq_none_of_imp
    (pattern : Pattern)
    {place : Place}
    {groups : List Span}
    {next : Place → List Span → Option α}
    {other : Place → List Span → Option β}
    (hNext :
      ∀ stop found,
        next stop found = none → other stop found = none)
    (hNone : pattern.follow place groups next = none) :
    pattern.follow place groups other = none := by
  induction pattern generalizing place groups next other with
  | nothing => exact hNext _ _ hNone
  | char accepts =>
      rcases place with ⟨before, after⟩
      cases after with
      | nil => rfl
      | cons c rest =>
          rw [follow_char_cons] at hNone ⊢
          split
          · rename_i hAccepts
            rw [if_pos hAccepts] at hNone
            exact hNext _ _ hNone
          · rfl
  | run accepts =>
      exact
        followRun_eq_none_of_imp (fun stop => hNext stop groups)
          hNone
  | edge =>
      rw [follow_edge] at hNone ⊢
      split
      · rename_i hEdge
        rw [if_pos hEdge] at hNone
        exact hNext _ _ hNone
      · rfl
  | both first second ihFirst ihSecond =>
      rw [follow_both] at hNone ⊢
      exact ihFirst (fun _ _ => ihSecond hNext) hNone
  | either first second ihFirst ihSecond =>
      rw [follow_either, Option.or_eq_none_iff] at hNone
      rw [follow_either, ihFirst hNext hNone.1,
        ihSecond hNext hNone.2, Option.none_or]
  | group body ih =>
      rw [follow_group] at hNone ⊢
      exact ih (fun stop found => hNext stop _) hNone

/- What comes after may be changed afterwards. -/
theorem follow_map
    (pattern : Pattern)
    (f : α → β)
    (place : Place)
    (groups : List Span)
    (next : Place → List Span → Option α) :
    pattern.follow place groups
        (fun stop found => (next stop found).map f) =
      (pattern.follow place groups next).map f := by
  induction pattern generalizing place groups next with
  | nothing => rfl
  | char accepts =>
      rcases place with ⟨before, after⟩
      cases after with
      | nil => rfl
      | cons c rest =>
          rw [follow_char_cons, follow_char_cons,
            apply_ite (Option.map f), Option.map_none]
  | run accepts =>
      exact followRun_map f (fun stop => next stop groups) _ _
  | edge =>
      rw [follow_edge, follow_edge, apply_ite (Option.map f),
        Option.map_none]
  | both first second ihFirst ihSecond =>
      simp only [follow_both, ihSecond, ihFirst]
  | either first second ihFirst ihSecond =>
      rw [follow_either, follow_either, ihFirst, ihSecond,
        Option.map_or]
  | group body ih =>
      rw [follow_group, follow_group]
      exact ih _ _ _

end Pattern

end Dashboard

------------------------------------------------------------
-- Patterns That Stop In Time
------------------------------------------------------------

namespace Dashboard

namespace Pattern

variable {α : Type}

/-
  A pattern without groups and edges that nowhere accepts the
  character.
-/
def avoids (pattern : Pattern) (c : Char) : Bool :=
  match pattern with
  | nothing => true
  | char accepts => !accepts c
  | run accepts => !accepts c
  | edge => false
  | both first second => first.avoids c && second.avoids c
  | either first second => first.avoids c && second.avoids c
  | group _ => false

/- A pattern that takes at least one character. -/
def takesSome : Pattern → Bool
  | nothing => false
  | char _ => true
  | run _ => false
  | edge => false
  | both first second => first.takesSome || second.takesSome
  | either first second =>
      first.takesSome && second.takesSome
  | group body => body.takesSome

/-
  Before a text that starts with a character that it avoids,
  a pattern goes the ways that it goes without that text.
-/
theorem follow_append
    {pattern : Pattern}
    {c : Char}
    (hAvoids : pattern.avoids c = true)
    (before after rest : List Char)
    (groups : List Span)
    (next : Place → List Span → Option α) :
    pattern.follow ⟨before, after ++ c :: rest⟩ groups next =
      pattern.follow ⟨before, after⟩ groups
        fun stop found =>
          next ⟨stop.before, stop.after ++ c :: rest⟩ found := by
  induction pattern
    generalizing before after groups next with
  | nothing => rfl
  | char accepts =>
      cases after with
      | nil =>
          have hRefuses : accepts c = false := by
            simpa [avoids] using hAvoids
          rw [List.nil_append, follow_char_cons, hRefuses]
          rfl
      | cons d more => rfl
  | run accepts =>
      have hRefuses : accepts c = false := by
        simpa [avoids] using hAvoids
      exact followRun_append hRefuses _ before after rest
  | edge => cases hAvoids
  | both first second ihFirst ihSecond =>
      rw [avoids, Bool.and_eq_true] at hAvoids
      rw [follow_both, follow_both, ihFirst hAvoids.1]
      simp only [ihSecond hAvoids.2]
  | either first second ihFirst ihSecond =>
      rw [avoids, Bool.and_eq_true] at hAvoids
      rw [follow_either, follow_either, ihFirst hAvoids.1,
        ihSecond hAvoids.2]
  | group body => cases hAvoids

/- A pattern without groups leaves the groups as they are. -/
theorem follow_of_avoids
    {pattern : Pattern}
    {c : Char}
    (hAvoids : pattern.avoids c = true)
    (place : Place)
    (groups : List Span)
    (next : Place → List Span → Option α) :
    pattern.follow place groups next =
      pattern.follow place [] fun stop _ => next stop groups := by
  induction pattern generalizing place groups next with
  | nothing => rfl
  | char accepts => rfl
  | run accepts => rfl
  | edge => cases hAvoids
  | both first second ihFirst ihSecond =>
      rw [avoids, Bool.and_eq_true] at hAvoids
      rw [follow_both, follow_both, ihFirst hAvoids.1]
      apply follow_congr
      intro stop found _
      rw [ihSecond hAvoids.2, ihSecond hAvoids.2 stop found]
  | either first second ihFirst ihSecond =>
      rw [avoids, Bool.and_eq_true] at hAvoids
      rw [follow_either, follow_either, ihFirst hAvoids.1,
        ihSecond hAvoids.2]
  | group body => cases hAvoids

theorem follow_takesSome
    {pattern : Pattern}
    (hTakes : pattern.takesSome = true)
    (before : List Char)
    (groups : List Span)
    (next : Place → List Span → Option α) :
    pattern.follow ⟨before, []⟩ groups next = none := by
  induction pattern generalizing before groups next with
  | nothing => cases hTakes
  | char accepts => rfl
  | run accepts => cases hTakes
  | edge => cases hTakes
  | both first second ihFirst ihSecond =>
      rw [takesSome, Bool.or_eq_true] at hTakes
      rw [follow_both]
      rcases hTakes with hFirst | hSecond
      · exact ihFirst hFirst _ _ _
      · apply follow_eq_none
        rintro ⟨stopBefore, stopAfter⟩ found hReaches
        obtain rfl : stopAfter = [] :=
          List.eq_nil_of_suffix_nil hReaches.suffix
        exact ihSecond hSecond _ _ _
  | either first second ihFirst ihSecond =>
      rw [takesSome, Bool.and_eq_true] at hTakes
      rw [follow_either, ihFirst hTakes.1, ihSecond hTakes.2,
        Option.none_or]
  | group body ih =>
      rw [follow_group]
      exact ih hTakes _ _ _

/- Such a pattern cannot start with what it avoids. -/
theorem follow_cons_eq_none
    {pattern : Pattern}
    {c : Char}
    (hAvoids : pattern.avoids c = true)
    (hTakes : pattern.takesSome = true)
    (before rest : List Char)
    (groups : List Span)
    (next : Place → List Span → Option α) :
    pattern.follow ⟨before, c :: rest⟩ groups next = none := by
  have hAppend :=
    follow_append hAvoids before [] rest groups next
  rw [List.nil_append] at hAppend
  rw [hAppend]
  exact follow_takesSome hTakes _ _ _

end Pattern

end Dashboard

------------------------------------------------------------
-- Patterns In Sequence
------------------------------------------------------------

namespace Dashboard

namespace Pattern

variable {α : Type}

/- At least one character is taken, and all that can be. -/
theorem follow_some1
    {accepts : Char → Bool}
    {taken rest before : List Char}
    {groups : List Span}
    {next : Place → List Span → Option α}
    {result : α}
    (hSome : taken ≠ [])
    (hTaken : ∀ c ∈ taken, accepts c = true)
    (hRest : ∀ c ∈ rest.head?, accepts c = false)
    (hNext :
      next ⟨taken.reverse ++ before, rest⟩ groups =
        some result) :
    (some1 accepts).follow ⟨before, taken ++ rest⟩ groups
        next =
      some result := by
  cases taken with
  | nil => exact absurd rfl hSome
  | cons c more =>
      rw [List.forall_mem_cons] at hTaken
      have hMore :
          followRun accepts (fun stop => next stop groups)
              (c :: before) (more ++ rest) =
            some result := by
        apply followRun_eq_some hTaken.2 hRest
        simpa using hNext
      rw [some1, follow_both, List.cons_append,
        follow_char_cons, if_pos hTaken.1]
      exact hMore

theorem follow_some1_eq_none
    {accepts : Char → Bool}
    {c : Char}
    (hRefuses : accepts c = false)
    (before rest : List Char)
    (groups : List Span)
    (next : Place → List Span → Option α) :
    (some1 accepts).follow ⟨before, c :: rest⟩ groups next =
      none := by
  rw [some1, follow_both, follow_char_cons, hRefuses]
  rfl

/- A single blank is taken where some are wanted. -/
theorem follow_blanks
    {rest before : List Char}
    {groups : List Span}
    {next : Place → List Span → Option α}
    {result : α}
    (hRest : ∀ c ∈ rest.head?, Text.isBlank c = false)
    (hNext : next ⟨' ' :: before, rest⟩ groups = some result) :
    blanks.follow ⟨before, ' ' :: rest⟩ groups next =
      some result := by
  have hBlank : ∀ c ∈ [' '], Text.isBlank c = true :=
    List.forall_mem_singleton.mpr rfl
  have hSome : [' '] ≠ [] := List.cons_ne_nil _ _
  exact follow_some1 hSome hBlank hRest hNext

/- So it is where any number of them may stand. -/
theorem follow_spacing
    {rest before : List Char}
    {groups : List Span}
    {next : Place → List Span → Option α}
    {result : α}
    (hRest : ∀ c ∈ rest.head?, Text.isBlank c = false)
    (hNext : next ⟨' ' :: before, rest⟩ groups = some result) :
    spacing.follow ⟨before, ' ' :: rest⟩ groups next =
      some result := by
  have hBlank : ∀ c ∈ [' '], Text.isBlank c = true :=
    List.forall_mem_singleton.mpr rfl
  exact followRun_eq_some hBlank hRest hNext

/- A fixed text is taken where it stands. -/
theorem follow_text
    (wanted : String)
    (before rest : List Char)
    (groups : List Span)
    (next : Place → List Span → Option α) :
    (text wanted).follow ⟨before, wanted.toList ++ rest⟩
        groups next =
      next ⟨wanted.toList.reverse ++ before, rest⟩ groups := by
  unfold text
  induction wanted.toList generalizing before with
  | nil => rfl
  | cons c more ih =>
      have hHere : (c == c) = true := beq_self_eq_true c
      rw [List.map_cons, sequence, List.foldr_cons, ← sequence,
        follow_both, List.cons_append, follow_char_cons,
        if_pos hHere, ih]
      simp

/- The pattern is the first part followed by the second. -/
def Splits (pattern lead tail : Pattern) : Prop :=
  ∀ {α : Type} (place : Place) (groups : List Span)
    (next : Place → List Span → Option α),
    pattern.follow place groups next =
      lead.follow place groups fun stop found =>
        tail.follow stop found next

end Pattern

end Dashboard

------------------------------------------------------------
-- Walks
------------------------------------------------------------

namespace Dashboard

namespace Pattern

variable {α : Type}

/- Take a run of accepted characters, the longest first. -/
def walkRun
    (accepts : Char → Bool)
    (next : List Char → Option α) :
    List Char → Option α
  | [] => next []
  | c :: rest =>
      if accepts c then
        (walkRun accepts next rest).or (next (c :: rest))
      else
        next (c :: rest)

/-
  Match a pattern without groups and edges where only the
  text after it matters.
-/
def walk
    (pattern : Pattern)
    (next : List Char → Option α)
    (text : List Char) : Option α :=
  match pattern with
  | nothing => next text
  | char accepts =>
      match text with
      | [] => none
      | c :: rest => if accepts c then next rest else none
  | run accepts => walkRun accepts next text
  | edge => next text
  | both first second => first.walk (second.walk next) text
  | either first second =>
      (first.walk next text).or (second.walk next text)
  | group body => body.walk next text

theorem followRun_eq_walkRun
    (accepts : Char → Bool)
    (next : List Char → Option α)
    (before after : List Char) :
    followRun accepts (fun stop => next stop.after) before
        after =
      walkRun accepts next after := by
  induction after generalizing before with
  | nil => rfl
  | cons c rest ih => rw [followRun_cons, walkRun, ih]

/- Following such a pattern is a walk. -/
theorem follow_eq_walk
    {pattern : Pattern}
    {c : Char}
    (hAvoids : pattern.avoids c = true)
    (place : Place)
    (groups : List Span)
    (next : List Char → Option α) :
    pattern.follow place groups
        (fun stop _ => next stop.after) =
      pattern.walk next place.after := by
  induction pattern generalizing place groups next with
  | nothing => rfl
  | char accepts => rfl
  | run accepts => exact followRun_eq_walkRun _ _ _ _
  | edge => cases hAvoids
  | both first second ihFirst ihSecond =>
      rw [avoids, Bool.and_eq_true] at hAvoids
      rw [follow_both, walk]
      simp only [ihSecond hAvoids.2, ihFirst hAvoids.1]
  | either first second ihFirst ihSecond =>
      rw [avoids, Bool.and_eq_true] at hAvoids
      rw [follow_either, walk, ihFirst hAvoids.1,
        ihSecond hAvoids.2]
  | group body => cases hAvoids

/- A walk stops before a character that is avoided. -/
theorem walk_append
    {pattern : Pattern}
    {c : Char}
    (hAvoids : pattern.avoids c = true)
    (text rest : List Char)
    (next : List Char → Option α) :
    pattern.walk next (text ++ c :: rest) =
      pattern.walk (fun after => next (after ++ c :: rest))
        text := by
  have hPlace :=
    follow_append hAvoids [] text rest [] fun stop _ =>
      next stop.after
  rw [follow_eq_walk hAvoids] at hPlace
  rw [hPlace]
  exact
    follow_eq_walk hAvoids ⟨[], text⟩ [] fun after =>
      next (after ++ c :: rest)

theorem walk_none
    {pattern : Pattern}
    {c : Char}
    (hAvoids : pattern.avoids c = true)
    (text : List Char) :
    pattern.walk (fun _ => (none : Option α)) text = none := by
  rw [← follow_eq_walk hAvoids ⟨[], text⟩ []]
  exact follow_none _ _ _

/- Where no walk leads, nothing does. -/
theorem follow_eq_none_of_walk
    {pattern : Pattern}
    {c : Char}
    (hAvoids : pattern.avoids c = true)
    {place : Place}
    (hNone :
      pattern.walk (fun _ => some ()) place.after = none)
    (groups : List Span)
    (next : Place → List Span → Option α) :
    pattern.follow place groups next = none := by
  rw [← follow_eq_walk hAvoids place groups] at hNone
  exact
    pattern.follow_eq_none_of_imp
      (fun _ _ hImpossible => by cases hImpossible) hNone

end Pattern

end Dashboard
