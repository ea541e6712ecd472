import Dashboard.Reply.Shape
import Mathlib.Data.List.Basic

/-
  What it means to have a shape, said without the report of
  what is wrong: a value conforms exactly if nothing is
  reported about it.

  Key definitions include:
    * `Shape.Conforms`

  Main declarations:
    * `Shape.issues_eq_nil_iff`
    * `Shape.Conforms.exists_member`
-/

------------------------------------------------------------
-- Conformance
------------------------------------------------------------

namespace Dashboard

namespace Shape

/-
  The values of each shape.  An object has its required
  members, and those of its members that the shape knows have
  their shapes; other members do not matter.
-/
inductive Conforms : Shape → Json → Prop where
  | names
      {allowed : List String}
      {name : String}
      (hAllowed : name ∈ allowed) :
      Conforms (.names allowed) (.string name)
  | text (value : String) :
      Conforms .text (.string value)
  | ofNumber (value : JsonNumber) :
      Conforms .numberOrText (.number value)
  | ofText (value : String) :
      Conforms .numberOrText (.string value)
  | list
      {item : Shape}
      {items : List Json}
      (hItems : ∀ json ∈ items, Conforms item json) :
      Conforms (.list item) (.array items)
  | object
      {required : List String}
      {members : List (String × Shape)}
      {present : List (String × Json)}
      (hRequired :
        ∀ name ∈ required,
          ∃ json, Json.memberIn? present name = some json)
      (hMembers :
        ∀ m ∈ members, ∀ json,
          Json.memberIn? present m.1 = some json →
            Conforms m.2 json) :
      Conforms (.object required members) (.object present)

end Shape

end Dashboard

------------------------------------------------------------
-- The Report
------------------------------------------------------------

namespace Dashboard

namespace Shape

theorem namesIssues_eq_nil_iff
    (allowed : List String)
    (json : Json) :
    namesIssues allowed json = [] ↔
      Conforms (.names allowed) json := by
  constructor
  · intro hNone
    unfold namesIssues at hNone
    split at hNone
    · split at hNone
      · rename_i hAllowed
        exact .names hAllowed
      · cases hNone
    · cases hNone
  · rintro ⟨hAllowed⟩
    exact if_pos hAllowed

theorem missingIssues_eq_nil_iff
    (required : List String)
    (present : List (String × Json)) :
    missingIssues required present = [] ↔
      ∀ name ∈ required,
        ∃ json, Json.memberIn? present name = some json := by
  simp [missingIssues, List.filter_eq_nil_iff,
    Option.ne_none_iff_exists']

mutual

/- Nothing is reported exactly about values of the shape. -/
theorem issues_eq_nil_iff :
    ∀ (shape : Shape) (json : Json),
      shape.issues json = [] ↔ shape.Conforms json
  | .names allowed, json => by
      rw [issues.eq_def]
      dsimp only
      exact namesIssues_eq_nil_iff allowed json
  | .text, json => by
      rw [issues.eq_def]
      dsimp only
      constructor
      · intro hNone
        split at hNone
        · exact .text _
        · cases hNone
      · rintro ⟨value⟩
        rfl
  | .numberOrText, json => by
      rw [issues.eq_def]
      dsimp only
      constructor
      · intro hNone
        split at hNone
        · exact .ofText _
        · exact .ofNumber _
        · cases hNone
      · intro hConforms
        cases hConforms with
        | ofNumber value => rfl
        | ofText value => rfl
  | .list item, json => by
      rw [issues.eq_def]
      dsimp only
      constructor
      · intro hNone
        split at hNone
        · rw [List.flatMap_eq_nil_iff] at hNone
          apply Conforms.list
          intro json hMem
          exact (issues_eq_nil_iff item json).mp
            (hNone json hMem)
        · cases hNone
      · intro hConforms
        cases hConforms with
        | list hItems =>
            rw [List.flatMap_eq_nil_iff]
            intro json hMem
            exact (issues_eq_nil_iff item json).mpr
              (hItems json hMem)
  | .object required members, json => by
      rw [issues.eq_def]
      dsimp only
      constructor
      · intro hNone
        split at hNone
        · rw [List.append_eq_nil_iff,
            memberIssues_eq_nil_iff,
            missingIssues_eq_nil_iff] at hNone
          exact .object hNone.2 hNone.1
        · cases hNone
      · intro hConforms
        cases hConforms with
        | object hRequired hMembers =>
            rw [List.append_eq_nil_iff,
              memberIssues_eq_nil_iff,
              missingIssues_eq_nil_iff]
            exact ⟨hMembers, hRequired⟩

theorem memberIssues_eq_nil_iff :
    ∀ (members : List (String × Shape))
      (present : List (String × Json)),
      memberIssues members present = [] ↔
        ∀ m ∈ members, ∀ json,
          Json.memberIn? present m.1 = some json →
            m.2.Conforms json
  | [], present => by
      rw [memberIssues]
      exact ⟨fun _ => nofun, fun _ => rfl⟩
  | (name, shape) :: rest, present => by
      rw [memberIssues, List.append_eq_nil_iff,
        memberIssues_eq_nil_iff rest present,
        List.forall_mem_cons]
      refine and_congr_left' ?_
      cases Json.memberIn? present name with
      | none => simp
      | some value =>
          simp [issues_eq_nil_iff shape value]

end

end Shape

end Dashboard

------------------------------------------------------------
-- Parts
------------------------------------------------------------

namespace Dashboard

namespace Shape

variable {json : Json}

/- A value of a list of names is one of them. -/
theorem Conforms.exists_of_names
    {α : Type}
    (all : List α)
    (nameOf : α → String)
    (hConforms : Conforms (.names (all.map nameOf)) json) :
    ∃ a ∈ all, json = .string (nameOf a) := by
  cases hConforms with
  | names hAllowed =>
      rcases List.mem_map.mp hAllowed with ⟨a, hMem, rfl⟩
      exact ⟨a, hMem, rfl⟩

theorem Conforms.exists_of_text
    (hConforms : Conforms .text json) :
    ∃ value, json = .string value := by
  cases hConforms with
  | text value => exact ⟨value, rfl⟩

variable {required : List String}
variable {members : List (String × Shape)}

theorem Conforms.exists_object
    (hConforms : Conforms (.object required members) json) :
    ∃ present, json = .object present := by
  cases hConforms with
  | object _ _ => exact ⟨_, rfl⟩

/- A member that is there has its shape. -/
theorem Conforms.member
    {name : String}
    {shape : Shape}
    {value : Json}
    (hConforms : Conforms (.object required members) json)
    (hMember : (name, shape) ∈ members)
    (hValue : json.member? name = some value) :
    shape.Conforms value := by
  cases hConforms with
  | object _ hMembers =>
      exact hMembers (name, shape) hMember value hValue

/- A member that is required is there. -/
theorem Conforms.exists_member
    {shape : Shape}
    (hConforms : Conforms (.object required members) json)
    (name : String)
    (hRequired : name ∈ required)
    (hMember : (name, shape) ∈ members) :
    ∃ value,
      json.member? name = some value ∧
        shape.Conforms value := by
  have hValue : ∃ value, json.member? name = some value := by
    cases hConforms with
    | object hThere _ => exact hThere name hRequired
  rcases hValue with ⟨value, hValue⟩
  exact ⟨value, hValue, hConforms.member hMember hValue⟩

end Shape

end Dashboard
