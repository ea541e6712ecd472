import Dashboard.Text.Search
import Mathlib.Data.List.Infix

/-
  Occurrences of a phrase as contiguous parts of a text, and
  the byte at which the last one starts.  Two parts at the
  front of one text are as long in characters as they are in
  bytes, so places may be compared in either.

  Key definitions include:
    * `Text.byteSize`
    * `Text.LastStart`

  Main declarations:
    * `Text.occurs_iff_isInfix`
    * `Text.lastOccurrence_eq_none_iff`
    * `Text.lastOccurrence_append`
    * `Text.lastStart_iff`
    * `Text.byteSize_take_lt_iff`
-/

------------------------------------------------------------
-- Occurrences
------------------------------------------------------------

namespace Dashboard.Text

/- A phrase occurs in a text when it is a part of it. -/
theorem occurs_iff_isInfix
    (phrase text : List Char) :
    occurs phrase text = true ↔ phrase <:+: text := by
  induction text with
  | nil =>
      simp [occurs]
  | cons c rest ih =>
      have hHere :
          phrase.isPrefixOf (c :: rest) = true ↔
            phrase <+: c :: rest :=
        List.isPrefixOf_iff_prefix
      rw [List.infix_cons_iff, ← ih, ← hHere]
      simp [occurs]

/- A phrase has a last place unless it has none at all. -/
theorem lastOccurrence_eq_none_iff
    (phrase text : List Char) :
    lastOccurrence phrase text = none ↔
      ¬ phrase <:+: text := by
  induction text with
  | nil =>
      by_cases hPhrase : phrase = []
      · simp [lastOccurrence, hPhrase]
      · simp [lastOccurrence, hPhrase]
  | cons c rest ih =>
      rw [List.infix_cons_iff, not_or, ← ih,
        ← List.isPrefixOf_iff_prefix]
      cases hRest : lastOccurrence phrase rest with
      | some place => simp [lastOccurrence, hRest]
      | none => simp [lastOccurrence, hRest]

end Dashboard.Text

------------------------------------------------------------
-- Last Places
------------------------------------------------------------

namespace Dashboard.Text

/- A phrase stands at its last place, and nowhere behind. -/
theorem lastOccurrence_eq_some
    {phrase text : List Char}
    {place : Nat}
    (hLast : lastOccurrence phrase text = some place) :
    (∃ before after,
      text = before ++ phrase ++ after ∧
        before.length = place) ∧
      ∀ before after,
        text = before ++ phrase ++ after →
          before.length ≤ place := by
  induction text generalizing place with
  | nil =>
      rw [lastOccurrence] at hLast
      split at hLast
      · rename_i hEmpty
        cases hLast
        refine ⟨⟨[], [], ?_, rfl⟩, ?_⟩
        · simp [List.isEmpty_iff.mp hEmpty]
        · intro before after hText
          rw [List.append_assoc] at hText
          rw [(List.append_eq_nil_iff.mp hText.symm).1]
          exact Nat.le_refl 0
      · cases hLast
  | cons c rest ih =>
      rw [lastOccurrence] at hLast
      cases hRest : lastOccurrence phrase rest with
      | some further =>
          rw [hRest] at hLast
          cases hLast
          rcases ih hRest with
            ⟨⟨before, after, hText, hLength⟩, hLatest⟩
          refine ⟨⟨c :: before, after, ?_, ?_⟩, ?_⟩
          · rw [hText]
            rfl
          · rw [List.length_cons, hLength]
          · intro other behind hOther
            cases other with
            | nil => exact Nat.zero_le _
            | cons d more =>
                apply Nat.succ_le_succ
                apply hLatest more behind
                exact (List.cons.inj hOther).2
      | none =>
          rw [hRest] at hLast
          dsimp only at hLast
          split at hLast
          · rename_i hPrefix
            cases hLast
            rcases List.isPrefixOf_iff_prefix.mp hPrefix with
              ⟨after, hText⟩
            refine ⟨⟨[], after, hText.symm, rfl⟩, ?_⟩
            intro other behind hOther
            cases other with
            | nil => exact Nat.le_refl 0
            | cons d more =>
                rw [lastOccurrence_eq_none_iff] at hRest
                apply absurd _ hRest
                exact
                  ⟨more, behind, (List.cons.inj hOther).2.symm⟩
          · cases hLast

/- The last place in the last part is the last one of all. -/
theorem lastOccurrence_append
    {phrase text : List Char}
    {place : Nat}
    (hLast : lastOccurrence phrase text = some place)
    (before : List Char) :
    lastOccurrence phrase (before ++ text) =
      some (before.length + place) := by
  induction before with
  | nil => simpa using hLast
  | cons c more ih =>
      rw [List.cons_append, lastOccurrence, ih]
      simp only [List.length_cons, Option.some.injEq]
      omega

/- A phrase that is not in the last part starts before it. -/
theorem lt_length_of_lastOccurrence_append
    {phrase before text : List Char}
    {place : Nat}
    (hNone : lastOccurrence phrase text = none)
    (hLast :
      lastOccurrence phrase (before ++ text) = some place) :
    place < before.length := by
  rcases (lastOccurrence_eq_some hLast).1 with
    ⟨front, behind, hText, rfl⟩
  by_contra hNot
  rw [lastOccurrence_eq_none_iff] at hNone
  apply hNone
  have hFront : before <+: front :=
    List.prefix_of_prefix_length_le ⟨text, rfl⟩
      ⟨phrase ++ behind, by rw [hText, List.append_assoc]⟩
      (by omega)
  rcases hFront with ⟨between, rfl⟩
  refine ⟨between, behind, ?_⟩
  have hSame :
      before ++ (between ++ phrase ++ behind) =
        before ++ text := by
    rw [hText]
    simp
  exact List.append_cancel_left hSame

end Dashboard.Text

------------------------------------------------------------
-- Places In Bytes
------------------------------------------------------------

namespace Dashboard.Text

/- The number of bytes of a text in UTF-8. -/
def byteSize (text : List Char) : Nat :=
  (String.ofList text).utf8ByteSize

theorem byteSize_append (first second : List Char) :
    byteSize (first ++ second) =
      byteSize first + byteSize second := by
  unfold byteSize
  rw [String.ofList_append, String.utf8ByteSize_append]

theorem byteSize_pos
    {text : List Char}
    (hSome : text ≠ []) :
    0 < byteSize text := by
  unfold byteSize
  rw [Nat.pos_iff_ne_zero, Ne, String.utf8ByteSize_eq_zero_iff]
  simpa using hSome

theorem byteSize_le_of_prefix
    {first second : List Char}
    (hPrefix : first <+: second) :
    byteSize first ≤ byteSize second := by
  rcases hPrefix with ⟨between, rfl⟩
  rw [byteSize_append]
  exact Nat.le_add_right _ _

/- Of two fronts of a text the longer one has more bytes. -/
theorem byteSize_take_lt_iff
    {text : List Char}
    {place other : Nat}
    (hOther : other ≤ text.length) :
    byteSize (text.take place) < byteSize (text.take other) ↔
      place < other := by
  constructor
  · intro hLess
    by_contra hNot
    apply hLess.not_ge
    apply byteSize_le_of_prefix
    exact List.take_prefix_take_left (not_lt.mp hNot)
  · intro hLess
    have hFront : text.take place <+: text.take other :=
      List.take_prefix_take_left hLess.le
    rcases hFront with ⟨between, hBetween⟩
    have hSome : between ≠ [] := by
      rintro rfl
      have hLength := congrArg List.length hBetween
      simp only [List.append_nil, List.length_take] at hLength
      omega
    rw [← hBetween, byteSize_append]
    exact Nat.lt_add_of_pos_right (byteSize_pos hSome)

/-
  The byte of a text at which a phrase starts that stands
  there, and does not start at any later one.
-/
structure LastStart
    (phrase text : List Char)
    (start : Nat) : Prop where
  stands :
    ∃ before after,
      text = before ++ phrase ++ after ∧
        byteSize before = start
  latest :
    ∀ before after,
      text = before ++ phrase ++ after →
        byteSize before ≤ start

theorem LastStart.eq
    {phrase text : List Char}
    {start other : Nat}
    (hStart : LastStart phrase text start)
    (hOther : LastStart phrase text other) :
    start = other := by
  rcases hStart.stands with ⟨before, after, hText, rfl⟩
  rcases hOther.stands with ⟨front, behind, hSame, rfl⟩
  exact
    Nat.le_antisymm (hOther.latest before after hText)
      (hStart.latest front behind hSame)

/- What is before the last place ends where it starts. -/
theorem lastStart_of_lastOccurrence
    {phrase text : List Char}
    {place : Nat}
    (hLast : lastOccurrence phrase text = some place) :
    place ≤ text.length ∧
      LastStart phrase text (byteSize (text.take place)) := by
  rcases lastOccurrence_eq_some hLast with
    ⟨⟨before, after, hText, rfl⟩, hLatest⟩
  have hBefore : text.take before.length = before := by
    rw [hText, List.append_assoc, List.take_left]
  have hLength : before.length ≤ text.length := by
    rw [hText]
    simp
  refine ⟨hLength, ⟨before, after, hText, ?_⟩, ?_⟩
  · rw [hBefore]
  · intro front behind hFront
    have hFrontText : front <+: text :=
      ⟨phrase ++ behind, by rw [hFront, List.append_assoc]⟩
    rw [hBefore]
    apply byteSize_le_of_prefix
    exact
      List.prefix_of_prefix_length_le hFrontText
        ⟨phrase ++ after, by rw [hText, List.append_assoc]⟩
        (hLatest front behind hFront)

theorem lastStart_iff
    {phrase text : List Char}
    {start : Nat} :
    LastStart phrase text start ↔
      ∃ place,
        lastOccurrence phrase text = some place ∧
          byteSize (text.take place) = start := by
  constructor
  · intro hStart
    cases hLast : lastOccurrence phrase text with
    | none =>
        rcases hStart.stands with ⟨before, after, hText, _⟩
        rw [lastOccurrence_eq_none_iff] at hLast
        exact absurd ⟨before, after, hText.symm⟩ hLast
    | some place =>
        exact
          ⟨place, rfl,
            (lastStart_of_lastOccurrence hLast).2.eq hStart⟩
  · rintro ⟨place, hLast, rfl⟩
    exact (lastStart_of_lastOccurrence hLast).2

end Dashboard.Text
