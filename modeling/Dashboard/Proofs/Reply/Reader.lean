import Dashboard.Proofs.Interpretation.Validity
import Dashboard.Reply.Reader

/-
  What is read out of a reply: accepted interpretations are
  repaired ones, and a reply with several objects gives all
  that are accepted, at least one.

  Main declarations:
    * `Reply.readMulti_eq_ok_iff`
    * `Reply.valid_of_readSingle`
    * `Reply.valid_of_readMulti`
-/

------------------------------------------------------------
-- Accepted Objects
------------------------------------------------------------

namespace Dashboard

namespace Reply

/- What an object gives has been repaired. -/
theorem exists_normalize_of_readObject
    {text : List Char}
    {i : Interpretation}
    (hRead : readObject text = .ok i) :
    ∃ j : Interpretation, j.normalize = i := by
  unfold readObject at hRead
  split at hRead
  · cases hRead
  · split at hRead
    · split at hRead
      · rename_i j _
        exact ⟨j, Except.ok.inj hRead⟩
      · cases hRead
    · cases hRead

theorem valid_of_readObject
    {text : List Char}
    {i : Interpretation}
    (hRead : readObject text = .ok i) :
    i.Valid := by
  rcases exists_normalize_of_readObject hRead with ⟨j, rfl⟩
  exact j.valid_normalize

theorem mem_accepted_iff
    (results : List (Except ReplyError Interpretation))
    (i : Interpretation) :
    i ∈ accepted results ↔ .ok i ∈ results := by
  unfold accepted
  rw [List.mem_filterMap]
  constructor
  · rintro ⟨result, hMem, hResult⟩
    cases result with
    | error e => cases hResult
    | ok j =>
        cases hResult
        exact hMem
  · intro hMem
    exact ⟨.ok i, hMem, rfl⟩

end Reply

end Dashboard

------------------------------------------------------------
-- Whole Replies
------------------------------------------------------------

namespace Dashboard

namespace Reply

/-
  A reply gives the interpretations of its objects that are
  accepted, if there is any.
-/
theorem readMulti_eq_ok_iff
    (text : String)
    (found : List Interpretation) :
    readMulti text = .ok found ↔
      accepted ((objects text.toList).map readObject) =
          found ∧
        found ≠ [] := by
  unfold readMulti
  cases objects text.toList with
  | nil =>
      constructor
      · intro hRead
        cases hRead
      · rintro ⟨rfl, hSome⟩
        exact absurd rfl hSome
  | cons first rest =>
      dsimp only
      cases accepted ((first :: rest).map readObject) with
      | nil =>
          constructor
          · intro hRead
            cases hRead
          · rintro ⟨rfl, hSome⟩
            exact absurd rfl hSome
      | cons i more =>
          constructor
          · intro hRead
            cases hRead
            exact ⟨rfl, List.cons_ne_nil i more⟩
          · rintro ⟨rfl, _⟩
            rfl

theorem valid_of_readSingle
    {text : String}
    {i : Interpretation}
    (hRead : readSingle text = .ok i) :
    i.Valid := by
  unfold readSingle at hRead
  split at hRead
  · cases hRead
  · exact valid_of_readObject hRead

theorem valid_of_readMulti
    {text : String}
    {found : List Interpretation}
    (hRead : readMulti text = .ok found)
    {i : Interpretation}
    (hMem : i ∈ found) :
    i.Valid := by
  rcases (readMulti_eq_ok_iff text found).mp hRead with
    ⟨rfl, _⟩
  rw [mem_accepted_iff, List.mem_map] at hMem
  rcases hMem with ⟨object, _, hObject⟩
  exact valid_of_readObject hObject

end Reply

end Dashboard
