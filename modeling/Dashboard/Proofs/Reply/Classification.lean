import Dashboard.Proofs.Reply.Acceptance

/-
  What is reported about a reply with several objects: that
  there is none, what the accepted ones say, or else what is
  wrong with one of them, which is the last one that is JSON
  if any is, and the last one at all otherwise.

  Key definitions include:
    * `Reply.IsJson` and `Reply.IsAccepted`
    * `Reply.Verdict`

  Main declarations:
    * `Reply.lastCounted_append_cons`
    * `Reply.readMulti_of_verdict`
    * `Reply.readMulti_eq_iff_verdict`
-/

------------------------------------------------------------
-- The Last Error
------------------------------------------------------------

namespace Dashboard

namespace Reply

/- The last error of a kind among results. -/
def lastCounted
    (counts : ReplyError → Bool)
    (results : List (Except ReplyError Interpretation)) :
    Option ReplyError :=
  results.foldl (laterError counts) none

/- An error of a kind. -/
def IsCounted
    (counts : ReplyError → Bool)
    (result : Except ReplyError Interpretation) : Prop :=
  ∃ e, result = .error e ∧ counts e = true

/- An error that is about a shape rather than about JSON. -/
def isOther (e : ReplyError) : Bool :=
  !isInvalidJson e

theorem lastError_eq
    (results : List (Except ReplyError Interpretation)) :
    lastError results =
      ((lastCounted isOther results).or
        (lastCounted isInvalidJson results)).getD .noJson :=
  rfl

variable {counts : ReplyError → Bool}

theorem laterError_of_not_isCounted
    {result : Except ReplyError Interpretation}
    (hOther : ¬ IsCounted counts result)
    (last : Option ReplyError) :
    laterError counts last result = last := by
  cases result with
  | ok i => rfl
  | error e =>
      apply if_neg
      exact fun hCounts => hOther ⟨e, rfl, hCounts⟩

/- Results of another kind do not change the last error. -/
theorem foldl_laterError_of_not_isCounted
    {results : List (Except ReplyError Interpretation)}
    (hOther : ∀ r ∈ results, ¬ IsCounted counts r)
    (last : Option ReplyError) :
    results.foldl (laterError counts) last = last := by
  induction results generalizing last with
  | nil => rfl
  | cons r rest ih =>
      rw [List.forall_mem_cons] at hOther
      rw [List.foldl_cons,
        laterError_of_not_isCounted hOther.1, ih hOther.2]

/- An error of the kind that no other one follows is last. -/
theorem lastCounted_append_cons
    {after : List (Except ReplyError Interpretation)}
    {e : ReplyError}
    (hCounts : counts e = true)
    (hAfter : ∀ r ∈ after, ¬ IsCounted counts r)
    (before : List (Except ReplyError Interpretation)) :
    lastCounted counts (before ++ .error e :: after) =
      some e := by
  rw [lastCounted, List.foldl_append, List.foldl_cons,
    foldl_laterError_of_not_isCounted hAfter]
  exact if_pos hCounts

/- Without an error of the kind there is no last one. -/
theorem lastCounted_of_not_isCounted
    {results : List (Except ReplyError Interpretation)}
    (hOther : ∀ r ∈ results, ¬ IsCounted counts r) :
    lastCounted counts results = none :=
  foldl_laterError_of_not_isCounted hOther none

end Reply

end Dashboard

------------------------------------------------------------
-- Verdicts
------------------------------------------------------------

namespace Dashboard

namespace Reply

/- A candidate that is JSON, of whatever shape. -/
def IsJson (candidate : List Char) : Prop :=
  ∃ json, Json.parse? (String.ofList candidate) = some json

/- A candidate that an interpretation is read from. -/
def IsAccepted (candidate : List Char) : Prop :=
  ∃ i, readObject candidate = .ok i

/-
  What there is to say about the candidates of a reply, by
  the first of these rules that applies: there is none, some
  are accepted, some are JSON, or none is.
-/
inductive Verdict
    (candidates : List (List Char)) :
    Except ReplyError (List Interpretation) → Prop where
  | nothing
      (hNone : candidates = []) :
      Verdict candidates (.error .noJson)
  | accepted
      (hSome : ∃ c ∈ candidates, IsAccepted c) :
      Verdict candidates
        (.ok
          (candidates.filterMap fun c =>
            (readObject c).toOption))
  | mismatched
      (before after : List (List Char))
      (last : List Char)
      (json : Json)
      (hSplit : candidates = before ++ last :: after)
      (hRefused : ∀ c ∈ candidates, ¬ IsAccepted c)
      (hJson :
        Json.parse? (String.ofList last) = some json)
      (hAfter : ∀ c ∈ after, ¬ IsJson c) :
      Verdict candidates
        (.error
          (.mismatch (Shape.interpretation.issues json)))
  | garbled
      (before : List (List Char))
      (last : List Char)
      (hSplit : candidates = before ++ [last])
      (hNone : ∀ c ∈ candidates, ¬ IsJson c) :
      Verdict candidates
        (.error (.invalidJson (String.ofList last)))

theorem readObject_of_not_isJson
    {candidate : List Char}
    (hJson : ¬ IsJson candidate) :
    readObject candidate =
      .error (.invalidJson (String.ofList candidate)) := by
  apply readObject_of_parse?_eq_none
  rw [Option.eq_none_iff_forall_ne_some]
  exact fun json hParse => hJson ⟨json, hParse⟩

theorem not_isAccepted_of_not_isJson
    {candidate : List Char}
    (hJson : ¬ IsJson candidate) :
    ¬ IsAccepted candidate := by
  rintro ⟨i, hRead⟩
  rw [readObject_of_not_isJson hJson] at hRead
  cases hRead

theorem readObject_of_not_isAccepted
    {candidate : List Char}
    {json : Json}
    (hParse :
      Json.parse? (String.ofList candidate) = some json)
    (hRefused : ¬ IsAccepted candidate) :
    readObject candidate =
      .error (.mismatch (Shape.interpretation.issues json)) := by
  apply readObject_of_not_conforms hParse
  intro hConforms
  rcases readObject_of_conforms hParse hConforms with
    ⟨i, hRead, _⟩
  exact hRefused ⟨i, hRead⟩

/- A candidate that is no JSON has no error about a shape. -/
theorem not_isCounted_of_not_isJson
    {candidate : List Char}
    (hJson : ¬ IsJson candidate) :
    ¬ IsCounted isOther (readObject candidate) := by
  rintro ⟨e, hError, hCounts⟩
  rw [readObject_of_not_isJson hJson] at hError
  cases hError
  cases hCounts

end Reply

end Dashboard

------------------------------------------------------------
-- Every Reply Has A Verdict
------------------------------------------------------------

namespace Dashboard

/- Some member is the last with a property, or none has it. -/
theorem exists_last_or_forall_not
    {α : Type}
    (P : α → Prop)
    (members : List α) :
    (∃ before last after,
        members = before ++ last :: after ∧
          P last ∧ ∀ a ∈ after, ¬ P a) ∨
      ∀ a ∈ members, ¬ P a := by
  induction members with
  | nil => exact .inr (List.forall_mem_nil _)
  | cons first rest ih =>
      rcases ih with
        ⟨before, last, after, rfl, hLast, hAfter⟩ | hNone
      · exact
          .inl ⟨first :: before, last, after, rfl, hLast,
            hAfter⟩
      · by_cases hFirst : P first
        · exact .inl ⟨[], first, rest, rfl, hFirst, hNone⟩
        · exact
            .inr (List.forall_mem_cons.mpr ⟨hFirst, hNone⟩)

namespace Reply

theorem exists_verdict (candidates : List (List Char)) :
    ∃ result, Verdict candidates result := by
  by_cases hSome : ∃ c ∈ candidates, IsAccepted c
  · exact ⟨_, .accepted hSome⟩
  · have hRefused : ∀ c ∈ candidates, ¬ IsAccepted c :=
      fun c hMem hRead => hSome ⟨c, hMem, hRead⟩
    rcases exists_last_or_forall_not IsJson candidates with
      ⟨before, last, after, hSplit, ⟨json, hJson⟩, hAfter⟩ |
        hNone
    · exact
        ⟨_, .mismatched before after last json hSplit hRefused
          hJson hAfter⟩
    · rcases List.eq_nil_or_concat' candidates with
        hEmpty | ⟨before, last, hSplit⟩
      · exact ⟨_, .nothing hEmpty⟩
      · exact ⟨_, .garbled before last hSplit hNone⟩

theorem accepted_eq_filterMap
    (candidates : List (List Char)) :
    accepted (candidates.map readObject) =
      candidates.filterMap fun c => (readObject c).toOption :=
  List.filterMap_map

theorem accepted_eq_nil_of_refused
    {candidates : List (List Char)}
    (hRefused : ∀ c ∈ candidates, ¬ IsAccepted c) :
    accepted (candidates.map readObject) = [] := by
  rw [List.eq_nil_iff_forall_not_mem]
  intro i hMem
  rw [mem_accepted_iff, List.mem_map] at hMem
  rcases hMem with ⟨c, hMem, hRead⟩
  exact hRefused c hMem ⟨i, hRead⟩

/- When all candidates are refused, an error is reported. -/
theorem readMulti_of_refused
    {text : String}
    (hSome : objects text.toList ≠ [])
    (hRefused :
      ∀ c ∈ objects text.toList, ¬ IsAccepted c) :
    readMulti text =
      .error
        (lastError ((objects text.toList).map readObject)) := by
  have hNone := accepted_eq_nil_of_refused hRefused
  unfold readMulti
  split
  · rename_i hEmpty
    exact absurd hEmpty hSome
  · dsimp only
    rw [hNone]

end Reply

end Dashboard

------------------------------------------------------------
-- The Verdict Is Reported
------------------------------------------------------------

namespace Dashboard

namespace Reply

/-
  The last candidate that is JSON has the last error about a
  shape, since those behind it have errors about JSON.
-/
theorem lastCounted_isOther_of_split
    (before : List (List Char))
    {last : List Char}
    {issues : List String}
    (hLast : readObject last = .error (.mismatch issues))
    {after : List (List Char)}
    (hAfter : ∀ c ∈ after, ¬ IsJson c) :
    lastCounted isOther
        ((before ++ last :: after).map readObject) =
      some (.mismatch issues) := by
  rw [List.map_append, List.map_cons, hLast]
  apply lastCounted_append_cons rfl
  rw [List.forall_mem_map]
  exact fun c hMem =>
    not_isCounted_of_not_isJson (hAfter c hMem)

theorem lastCounted_isOther_of_not_isJson
    {candidates : List (List Char)}
    (hNone : ∀ c ∈ candidates, ¬ IsJson c) :
    lastCounted isOther (candidates.map readObject) =
      none := by
  apply lastCounted_of_not_isCounted
  rw [List.forall_mem_map]
  exact fun c hMem =>
    not_isCounted_of_not_isJson (hNone c hMem)

theorem lastCounted_isInvalidJson_of_split
    (before : List (List Char))
    {last : List Char}
    (hLast : ¬ IsJson last) :
    lastCounted isInvalidJson
        ((before ++ [last]).map readObject) =
      some (.invalidJson (String.ofList last)) := by
  rw [List.map_append, List.map_singleton,
    readObject_of_not_isJson hLast]
  exact
    lastCounted_append_cons rfl (List.forall_mem_nil _) _

/- What the verdict says is what is reported. -/
theorem readMulti_of_verdict
    {text : String}
    {result : Except ReplyError (List Interpretation)}
    (hVerdict : Verdict (objects text.toList) result) :
    readMulti text = result := by
  cases hVerdict with
  | nothing hNone => simp only [readMulti, hNone]
  | accepted hSome =>
      rcases hSome with ⟨c, hMem, i, hRead⟩
      rw [readMulti_eq_ok_iff, accepted_eq_filterMap]
      refine ⟨rfl, ?_⟩
      rw [← accepted_eq_filterMap]
      apply List.ne_nil_of_mem (a := i)
      rw [mem_accepted_iff, List.mem_map]
      exact ⟨c, hMem, hRead⟩
  | mismatched before after last json hSplit hRefused hJson
      hAfter =>
      have hLast :=
        readObject_of_not_isAccepted hJson
          (hRefused last (by simp [hSplit]))
      have hError :=
        lastCounted_isOther_of_split before hLast hAfter
      rw [readMulti_of_refused (by simp [hSplit]) hRefused,
        lastError_eq, hSplit, hError]
      rfl
  | garbled before last hSplit hNone =>
      have hRefused :
          ∀ c ∈ objects text.toList, ¬ IsAccepted c :=
        fun c hMem =>
          not_isAccepted_of_not_isJson (hNone c hMem)
      have hOther := lastCounted_isOther_of_not_isJson hNone
      have hError :=
        lastCounted_isInvalidJson_of_split before
          (hNone last (by simp [hSplit]))
      rw [readMulti_of_refused (by simp [hSplit]) hRefused,
        lastError_eq, hOther, hSplit, hError]
      rfl

/- Among refused candidates some error is the last one. -/
theorem lastCounted_or_ne_none
    {candidates : List (List Char)}
    (hSome : candidates ≠ [])
    (hRefused : ∀ c ∈ candidates, ¬ IsAccepted c) :
    (lastCounted isOther (candidates.map readObject)).or
        (lastCounted isInvalidJson
          (candidates.map readObject)) ≠
      none := by
  rcases exists_last_or_forall_not IsJson candidates with
    ⟨before, last, after, rfl, ⟨json, hJson⟩, hAfter⟩ | hNone
  · have hLast :=
      readObject_of_not_isAccepted hJson
        (hRefused last (by simp))
    rw [lastCounted_isOther_of_split before hLast hAfter]
    exact nofun
  · rcases List.eq_nil_or_concat' candidates with
      hEmpty | ⟨before, last, rfl⟩
    · exact absurd hEmpty hSome
    · have hLast := hNone last (by simp)
      rw [lastCounted_isOther_of_not_isJson hNone,
        lastCounted_isInvalidJson_of_split before hLast]
      exact nofun

/-
  What is reported about a reply is the verdict on its
  objects: that there is no JSON exactly if there is no
  object, what the accepted ones say exactly if one is
  accepted, and otherwise an error of one of them.  There is
  always such an error, so none is made up for the reply.
-/
theorem readMulti_eq_iff_verdict (text : String) :
    (∀ result,
        readMulti text = result ↔
          Verdict (objects text.toList) result) ∧
      (readMulti text = .error .noJson ↔
        objects text.toList = []) ∧
        ((∃ found, readMulti text = .ok found) ↔
          ∃ c ∈ objects text.toList, IsAccepted c) ∧
          (objects text.toList ≠ [] →
            (∀ c ∈ objects text.toList, ¬ IsAccepted c) →
              (lastCounted isOther
                    ((objects text.toList).map
                      readObject)).or
                  (lastCounted isInvalidJson
                    ((objects text.toList).map
                      readObject)) ≠
                none) := by
  have hVerdict :
      ∀ result,
        readMulti text = result ↔
          Verdict (objects text.toList) result := by
    intro result
    constructor
    · rintro rfl
      rcases exists_verdict (objects text.toList) with
        ⟨other, hOther⟩
      rw [readMulti_of_verdict hOther]
      exact hOther
    · exact readMulti_of_verdict
  refine ⟨hVerdict, ?_, ?_, lastCounted_or_ne_none⟩
  · rw [hVerdict]
    constructor
    · rintro ⟨hNone⟩
      exact hNone
    · exact .nothing
  · constructor
    · rintro ⟨found, hRead⟩
      rw [hVerdict] at hRead
      cases hRead with
      | accepted hSome => exact hSome
    · intro hSome
      exact ⟨_, (hVerdict _).mpr (.accepted hSome)⟩

/- An object of another shape, and one that is no JSON. -/
def mixedReply : String :=
  "\x7b\"title\":1\x7d or \x7boops\x7d"

/- What is wrong with the shape of the first object. -/
def mixedIssues : List String :=
  ["1 is not of type \"string\"",
    "\"componentType\" is a required property",
    "\"datasetType\" is a required property",
    "\"description\" is a required property"]

/- The first object is reported, although it is not last. -/
theorem readMulti_eq_iff_verdict_mixed :
    Verdict (objects mixedReply.toList)
        (.error (.mismatch mixedIssues)) ∧
      (objects mixedReply.toList ≠ [] ∧
        ∀ c ∈ objects mixedReply.toList, ¬ IsAccepted c) ∧
        (lastCounted isOther
              ((objects mixedReply.toList).map
                readObject)).or
            (lastCounted isInvalidJson
              ((objects mixedReply.toList).map
                readObject)) ≠
          none := by
  have hRead :
      readMulti mixedReply =
        .error (.mismatch mixedIssues) := by
    decide +kernel
  have hMixed := readMulti_eq_iff_verdict mixedReply
  have hSome : objects mixedReply.toList ≠ [] := by
    rw [Ne, ← hMixed.2.1, hRead]
    exact nofun
  have hRefused :
      ∀ c ∈ objects mixedReply.toList, ¬ IsAccepted c := by
    intro c hMem hAccepted
    rcases hMixed.2.2.1.mpr ⟨c, hMem, hAccepted⟩ with
      ⟨found, hFound⟩
    rw [hRead] at hFound
    cases hFound
  exact
    ⟨(hMixed.1 _).mp hRead, ⟨hSome, hRefused⟩,
      hMixed.2.2.2 hSome hRefused⟩

end Reply

end Dashboard
