import Dashboard.Proofs.Pattern.Follow

/-
  Searching a text whose last part is only known by the kind
  of its characters.  A pattern whose first part avoids these
  characters is found where that part stops in the known text
  or at its end, so the search is settled by the known text.

  Key definitions include:
    * `Match.reading`
    * `Pattern.scout?`
    * `Pattern.absentFrom`
    * `Pattern.spaced`

  Main declarations:
    * `Pattern.absentFrom_text`
    * `Pattern.findAfter_append_cons`
    * `Pattern.find_append`
    * `Pattern.find_append_eq_none`
    * `Pattern.scout?_append`
-/

------------------------------------------------------------
-- Parts Of Texts
------------------------------------------------------------

namespace Dashboard

/- What is read of a match: the text before, and a group. -/
def Match.reading
    (found : Match) :
    List Char × Option (List Char) :=
  (found.head, found.group? 0)

theorem Span.text_of_taken
    (before after taken rest : List Char) :
    Span.text ⟨⟨before, after⟩,
        ⟨taken.reverse ++ before, rest⟩⟩ =
      taken := by
  simp [text]

end Dashboard

------------------------------------------------------------
-- Scouting
------------------------------------------------------------

namespace Dashboard

namespace Pattern

variable {α : Type}

/-
  The earliest place from which a pattern leads to something:
  the text before it, and what is made of the text after the
  pattern.
-/
def scout?
    (pattern : Pattern)
    (mark? : List Char → Option α) :
    List Char → Option (List Char × α)
  | [] => none
  | c :: rest =>
      ((pattern.walk mark? (c :: rest)).map ([], ·)).or
        ((pattern.scout? mark? rest).map fun found =>
          (c :: found.1, found.2))

/- A pattern that fits nowhere in a text. -/
def absentFrom (pattern : Pattern) (text : List Char) : Bool :=
  (pattern.scout? (fun _ => some ()) text).isNone

theorem scout?_cons_eq_none_iff
    {pattern : Pattern}
    {mark? : List Char → Option α}
    {c : Char}
    {rest : List Char} :
    pattern.scout? mark? (c :: rest) = none ↔
      pattern.walk mark? (c :: rest) = none ∧
        pattern.scout? mark? rest = none := by
  rw [scout?, Option.or_eq_none_iff, Option.map_eq_none_iff,
    Option.map_eq_none_iff]

theorem absentFrom_cons
    (pattern : Pattern)
    (c : Char)
    (rest : List Char) :
    pattern.absentFrom (c :: rest) = true ↔
      pattern.walk (fun _ => some ()) (c :: rest) = none ∧
        pattern.absentFrom rest = true := by
  unfold absentFrom
  rw [Option.isNone_iff_eq_none, Option.isNone_iff_eq_none,
    scout?_cons_eq_none_iff]

/- What fits neither before nor after an avoided character. -/
theorem absentFrom_append
    {pattern : Pattern}
    {c : Char}
    (hAvoids : pattern.avoids c = true)
    (hTakes : pattern.takesSome = true)
    {text rest : List Char}
    (hText : pattern.absentFrom text = true)
    (hRest : pattern.absentFrom rest = true) :
    pattern.absentFrom (text ++ c :: rest) = true := by
  induction text with
  | nil =>
      rw [List.nil_append, absentFrom_cons]
      refine ⟨?_, hRest⟩
      rw [← follow_eq_walk hAvoids ⟨[], c :: rest⟩ []]
      exact follow_cons_eq_none hAvoids hTakes _ _ _ _
  | cons d more ih =>
      rw [absentFrom_cons] at hText
      rw [List.cons_append, absentFrom_cons]
      refine ⟨?_, ih hText.2⟩
      rw [← List.cons_append, walk_append hAvoids]
      exact hText.1

/- Words with a blank after each. -/
def spaced (words : List String) : List Char :=
  words.flatMap fun word => word.toList ++ [' ']

theorem spaced_cons (word : String) (rest : List String) :
    spaced (word :: rest) =
      word.toList ++ ' ' :: spaced rest := by
  simp [spaced]

theorem spaced_append (first second : List String) :
    spaced (first ++ second) =
      spaced first ++ spaced second :=
  List.flatMap_append

/- What has no blanks has to fit in one of the words. -/
theorem absentFrom_spaced
    {pattern : Pattern}
    (hAvoids : pattern.avoids ' ' = true)
    (hTakes : pattern.takesSome = true)
    {words : List String}
    (hWords :
      ∀ word ∈ words,
        pattern.absentFrom word.toList = true) :
    pattern.absentFrom (spaced words) = true := by
  induction words with
  | nil => rfl
  | cons word rest ih =>
      rw [List.forall_mem_cons] at hWords
      rw [spaced_cons]
      exact
        absentFrom_append hAvoids hTakes hWords.1
          (ih hWords.2)

/- A fixed text leads nowhere unless it stands in front. -/
theorem walk_text_eq_none
    {wanted : String}
    {mark? : List Char → Option α}
    {after : List Char}
    (hNot : ¬ wanted.toList <+: after) :
    (text wanted).walk mark? after = none := by
  unfold text
  revert hNot
  induction wanted.toList generalizing after with
  | nil => exact fun hNot => absurd List.nil_prefix hNot
  | cons c more ih =>
      intro hNot
      cases after with
      | nil => rfl
      | cons d rest =>
          by_cases hSame : d = c
          · subst hSame
            rw [List.cons_prefix_cons, not_and] at hNot
            have hRest := ih (hNot rfl)
            simpa [sequence, walk] using hRest
          · simp [sequence, walk, hSame]

theorem absentFrom_text
    {wanted : String}
    {searched : List Char}
    (hNot : ¬ wanted.toList <:+: searched) :
    (text wanted).absentFrom searched = true := by
  induction searched with
  | nil => rfl
  | cons c rest ih =>
      rw [List.infix_cons_iff, not_or] at hNot
      rw [absentFrom_cons]
      exact ⟨walk_text_eq_none hNot.1, ih hNot.2⟩

/- What is absent leads nowhere, whatever comes after it. -/
theorem scout?_both_eq_none
    {first second : Pattern}
    {c : Char}
    (hAvoids : (both first second).avoids c = true)
    {text : List Char}
    (hAbsent : first.absentFrom text = true)
    (mark? : List Char → Option α) :
    (both first second).scout? mark? text = none := by
  induction text with
  | nil => rfl
  | cons d rest ih =>
      rw [absentFrom_cons] at hAbsent
      rw [scout?_cons_eq_none_iff]
      refine ⟨?_, ih hAbsent.2⟩
      rw [avoids, Bool.and_eq_true] at hAvoids
      let place : Place := ⟨[], d :: rest⟩
      rw [walk, ← follow_eq_walk hAvoids.1 place []]
      exact follow_eq_none_of_walk hAvoids.1 hAbsent.1 _ _

/-
  A scout that has to pass a character that its pattern
  avoids may start behind that character.
-/
theorem scout?_append
    {pattern : Pattern}
    {c : Char}
    (hAvoids : pattern.avoids c = true)
    {mark? : List Char → Option α}
    {rest : List Char}
    (hMark : ∀ text, mark? (text ++ c :: rest) = none)
    (text : List Char) :
    pattern.scout? mark? (text ++ c :: rest) =
      (pattern.scout? mark? rest).map fun found =>
        (text ++ c :: found.1, found.2) := by
  have hWalk :
      ∀ text,
        pattern.walk mark? (text ++ c :: rest) = none := by
    intro text
    rw [walk_append hAvoids]
    simp only [hMark]
    exact walk_none hAvoids text
  induction text with
  | nil =>
      have hHere := hWalk []
      rw [List.nil_append] at hHere ⊢
      rw [scout?, hHere]
      rfl
  | cons d more ih =>
      have hHere := hWalk (d :: more)
      rw [List.cons_append] at hHere ⊢
      rw [scout?, hHere, ih, Option.map_map]
      rfl

end Pattern

end Dashboard

------------------------------------------------------------
-- Searches
------------------------------------------------------------

namespace Dashboard

namespace Pattern

variable {α : Type}
variable {pattern lead tail : Pattern}

/- A pattern is not found in a text that it avoids. -/
theorem findAfter_eq_none
    (hSplits : pattern.Splits lead tail)
    (hTakes : lead.takesSome = true)
    {text : List Char}
    (hAvoids : ∀ c ∈ text, lead.avoids c = true)
    (before : List Char) :
    pattern.findAfter before text = none := by
  induction text generalizing before with
  | nil =>
      rw [findAfter, matchAt, hSplits]
      exact follow_takesSome hTakes _ _ _
  | cons c rest ih =>
      rw [List.forall_mem_cons] at hAvoids
      have hHere :
          pattern.matchAt ⟨before, c :: rest⟩ = none := by
        rw [matchAt, hSplits]
        exact follow_cons_eq_none hAvoids.1 hTakes _ _ _ _
      rw [findAfter, hHere]
      exact ih hAvoids.2 _

/- A match where the search starts is the one found. -/
theorem findAfter_of_matchAt
    {before after : List Char}
    {found : Match}
    (hHere : pattern.matchAt ⟨before, after⟩ = some found) :
    pattern.findAfter before after = some found := by
  cases after with
  | nil => exact hHere
  | cons c rest => rw [findAfter, hHere]

/-
  A search passes a text in which the first part of the
  pattern fits nowhere, with a character behind it that this
  part avoids.
-/
theorem findAfter_append_cons
    (hSplits : pattern.Splits lead tail)
    (hTakes : lead.takesSome = true)
    {c : Char}
    (hAvoids : lead.avoids c = true)
    {text : List Char}
    (hAbsent : lead.absentFrom text = true)
    (before rest : List Char) :
    pattern.findAfter before (text ++ c :: rest) =
      pattern.findAfter (c :: (text.reverse ++ before))
        rest := by
  induction text generalizing before with
  | nil =>
      have hHere :
          pattern.matchAt ⟨before, c :: rest⟩ = none := by
        rw [matchAt, hSplits]
        exact follow_cons_eq_none hAvoids hTakes _ _ _ _
      rw [List.nil_append, findAfter, hHere]
      rfl
  | cons d more ih =>
      rw [absentFrom_cons] at hAbsent
      have hHere :
          pattern.matchAt ⟨before, d :: more ++ c :: rest⟩ =
            none := by
        rw [matchAt, hSplits, follow_append hAvoids]
        exact follow_eq_none_of_walk hAvoids hAbsent.1 _ _
      rw [List.cons_append] at hHere ⊢
      rw [findAfter, hHere]
      dsimp only
      rw [ih hAbsent.2, List.reverse_cons, List.append_assoc,
        List.singleton_append]

theorem findAfter_append_eq_none
    (hSplits : pattern.Splits lead tail)
    (hTakes : lead.takesSome = true)
    {text rest : List Char}
    (hSome : rest ≠ [])
    (hAvoids : ∀ c ∈ rest, lead.avoids c = true)
    (hAbsent : lead.absentFrom text = true)
    (before : List Char) :
    pattern.findAfter before (text ++ rest) = none := by
  induction text generalizing before with
  | nil => exact findAfter_eq_none hSplits hTakes hAvoids _
  | cons c more ih =>
      rw [absentFrom_cons] at hAbsent
      rcases List.exists_cons_of_ne_nil hSome with
        ⟨d, others, rfl⟩
      have hFirst := hAvoids d List.mem_cons_self
      have hHere :
          pattern.matchAt
              ⟨before, c :: more ++ d :: others⟩ =
            none := by
        rw [matchAt, hSplits, follow_append hFirst]
        exact follow_eq_none_of_walk hFirst hAbsent.1 _ _
      rw [List.cons_append] at hHere ⊢
      rw [findAfter, hHere]
      exact ih hAbsent.2 _

/-
  A pattern is not found if its first part fits nowhere in
  the known text and avoids the other one.
-/
theorem find_append_eq_none
    (hSplits : pattern.Splits lead tail)
    (hTakes : lead.takesSome = true)
    {text rest : List Char}
    (hSome : rest ≠ [])
    (hAvoids : ∀ c ∈ rest, lead.avoids c = true)
    (hAbsent : lead.absentFrom text = true) :
    pattern.find (text ++ rest) = none :=
  findAfter_append_eq_none hSplits hTakes hSome hAvoids
    hAbsent []

/- What is read of a match that starts in the known text. -/
theorem matchAt_append
    (hSplits : pattern.Splits lead tail)
    {text rest : List Char}
    (hSome : rest ≠ [])
    (hAvoids : ∀ c ∈ rest, lead.avoids c = true)
    {mark? : List Char → Option α}
    {fill : α → List Char}
    (hTail :
      ∀ before after, after <:+ text →
        tail.follow ⟨before, after ++ rest⟩ []
            (fun _ groups =>
              some (groups[0]?.map Span.text)) =
          (mark? after).map fun mark => some (fill mark))
    (before : List Char) :
    (pattern.matchAt ⟨before, text ++ rest⟩).map
        Match.reading =
      (lead.walk mark? text).map fun mark =>
        (before.reverse, some (fill mark)) := by
  rcases List.exists_cons_of_ne_nil hSome with
    ⟨d, others, rfl⟩
  have hFirst := hAvoids d List.mem_cons_self
  rw [matchAt, hSplits, follow_append hFirst, ← follow_map,
    ← follow_eq_walk hFirst ⟨before, text⟩ [], ← follow_map,
    follow_of_avoids hFirst]
  apply follow_congr
  intro stop _ hReaches
  have hWord := hTail stop.before stop.after hReaches.suffix
  calc
    ((tail.follow ⟨stop.before, stop.after ++ d :: others⟩ []
        fun last groups =>
          some
            (Match.mk ⟨⟨before, text ++ d :: others⟩, last⟩
              groups)).map Match.reading) =
      (tail.follow ⟨stop.before, stop.after ++ d :: others⟩ []
        fun _ groups =>
          some (groups[0]?.map Span.text)).map
        (before.reverse, ·) := by
      rw [← follow_map, ← follow_map]
      rfl
    _ =
      (mark? stop.after).map fun mark =>
        (before.reverse, some (fill mark)) := by
      rw [hWord, Option.map_map]
      rfl

/-
  What is read of a match is what the first part leads to, if
  the second part makes of the rest what `mark?` makes of the
  known text.
-/
theorem findAfter_append
    (hSplits : pattern.Splits lead tail)
    (hTakes : lead.takesSome = true)
    {text rest : List Char}
    (hSome : rest ≠ [])
    (hAvoids : ∀ c ∈ rest, lead.avoids c = true)
    {mark? : List Char → Option α}
    {fill : α → List Char}
    (hTail :
      ∀ before after, after <:+ text →
        tail.follow ⟨before, after ++ rest⟩ []
            (fun _ groups =>
              some (groups[0]?.map Span.text)) =
          (mark? after).map fun mark => some (fill mark))
    (before : List Char) :
    (pattern.findAfter before (text ++ rest)).map
        Match.reading =
      (lead.scout? mark? text).map fun found =>
        (before.reverse ++ found.1,
          some (fill found.2)) := by
  induction text generalizing before with
  | nil =>
      rw [List.nil_append,
        findAfter_eq_none hSplits hTakes hAvoids]
      rfl
  | cons c more ih =>
      have hHere :=
        matchAt_append hSplits hSome hAvoids hTail before
      have hMore :=
        ih
          (fun before after hSuffix =>
            hTail before after
              (hSuffix.trans (List.suffix_cons c more)))
          (c :: before)
      rw [List.cons_append] at hHere ⊢
      rw [findAfter, scout?]
      cases hWalk : lead.walk mark? (c :: more) with
      | some mark =>
          rw [hWalk] at hHere
          rcases Option.map_eq_some_iff.mp hHere with
            ⟨found, hFound, hReading⟩
          rw [hFound]
          simpa using hReading
      | none =>
          rw [hWalk] at hHere
          rw [Option.map_eq_none_iff.mp hHere]
          dsimp only
          rw [hMore, Option.map_none, Option.none_or,
            Option.map_map]
          simp [Function.comp_def]

theorem find_append
    (hSplits : pattern.Splits lead tail)
    (hTakes : lead.takesSome = true)
    {text rest : List Char}
    (hSome : rest ≠ [])
    (hAvoids : ∀ c ∈ rest, lead.avoids c = true)
    {mark? : List Char → Option α}
    {fill : α → List Char}
    (hTail :
      ∀ before after, after <:+ text →
        tail.follow ⟨before, after ++ rest⟩ []
            (fun _ groups =>
              some (groups[0]?.map Span.text)) =
          (mark? after).map fun mark => some (fill mark)) :
    (pattern.find (text ++ rest)).map Match.reading =
      (lead.scout? mark? text).map fun found =>
        (found.1, some (fill found.2)) :=
  findAfter_append hSplits hTakes hSome hAvoids hTail []

end Pattern

end Dashboard
