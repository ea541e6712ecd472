import Dashboard.Settings.Loading
import Mathlib.Data.List.Nodup

/-
  What settings that have been loaded were made of.

  Key definitions include:
    * `Variables.without`
    * `Sources.visiting`

  Main declarations:
    * `Variables.value?_eq_some_iff`
    * `Settings.gather?_eq_some_iff`
    * `Settings.load_eq_ok_iff`
    * `Settings.check_of_load`
-/

------------------------------------------------------------
-- Variables
------------------------------------------------------------

namespace Dashboard

namespace Variables

variable {assigned : Variables}
variable {name text : String}

/- Looking a variable up finds the one of that name. -/
theorem value?_eq_some_iff :
    assigned.value? name = some text ↔
      (name, text) ∈ assigned.entries := by
  rcases assigned with ⟨entries, hDistinct⟩
  unfold value?
  dsimp only
  induction entries with
  | nil => simp
  | cons entry rest ih =>
      rcases entry with ⟨first, value⟩
      rcases List.nodup_cons.mp hDistinct with ⟨hNew, hRest⟩
      rw [List.lookup_cons, List.mem_cons]
      by_cases hName : name = first
      · subst hName
        have hOther : (name, text) ∉ rest := fun hMem =>
          hNew (List.mem_map.mpr ⟨_, hMem, rfl⟩)
        simp [hOther, eq_comm]
      · have hTest : (name == first) = false :=
          beq_eq_false_iff_ne.mpr hName
        rw [hTest]
        simp [hName, ih hRest]

theorem distinct_filter
    (assigned : Variables)
    (p : String × String → Bool) :
    ((assigned.entries.filter p).map Prod.fst).Nodup :=
  assigned.distinct.sublist (List.filter_sublist.map _)

/- All variables but one. -/
def without
    (assigned : Variables)
    (name : String) : Variables where
  entries := assigned.entries.filter fun v => v.1 != name
  distinct := assigned.distinct_filter _

/- A variable stands between those that are left of it. -/
theorem exists_entries_eq
    (hMem : (name, text) ∈ assigned.entries) :
    ∃ before after,
      assigned.entries = before ++ (name, text) :: after ∧
        (assigned.without name).entries =
          before ++ after := by
  rcases List.append_of_mem hMem with ⟨before, after, hSplit⟩
  refine ⟨before, after, hSplit, ?_⟩
  have hDistinct := assigned.distinct
  rw [hSplit, List.map_append, List.map_cons,
    List.nodup_middle, List.nodup_cons] at hDistinct
  have hOthers :
      ∀ v ∈ before ++ after, (v.1 != name) = true := by
    intro v hV
    rw [bne_iff_ne]
    rintro rfl
    apply hDistinct.1
    rw [← List.map_append]
    exact List.mem_map.mpr ⟨v, hV, rfl⟩
  calc
    (assigned.without name).entries =
        (before ++ (name, text) :: after).filter
          fun v => v.1 != name := by
      rw [← hSplit]
      rfl
    _ = (before ++ after).filter fun v => v.1 != name := by
      simp [List.filter_append]
    _ = before ++ after := List.filter_eq_self.mpr hOthers

end Variables

/- The same sources without a variable. -/
def Sources.without
    (sources : Sources)
    (name : String) : Sources :=
  { sources with assigned := sources.assigned.without name }

end Dashboard

------------------------------------------------------------
-- Loading
------------------------------------------------------------

namespace Dashboard

namespace Settings

variable {sources : Sources}
variable {settings : Settings}

/-
  Settings are gathered by laying the layers over each other,
  reading what they come to, and adding the last resort for
  the key.
-/
theorem gather?_eq_some_iff :
    gather? sources = some settings ↔
      ∃ layers json given,
        sources.layers? = some layers ∧
        Layer.merge? layers = some json ∧
        read? .lenient json = some given ∧
        settings =
          given.withFallbackKey sources.fallbackKey? := by
  simp only [gather?, ofLayers?, Option.bind_eq_bind,
    Option.bind_eq_some_iff]
  constructor
  · rintro
      ⟨layers, hLayers, given, ⟨json, hMerge, hRead⟩,
        hSettings⟩
    exact
      ⟨layers, json, given, hLayers, hMerge, hRead,
        (Option.some.inj hSettings).symm⟩
  · rintro ⟨layers, json, given, hLayers, hMerge, hRead, rfl⟩
    exact
      ⟨layers, hLayers, given, ⟨json, hMerge, hRead⟩, rfl⟩

/- What is gathered is loaded if it is valid. -/
theorem load_eq_ok_iff :
    load sources = .ok settings ↔
      gather? sources = some settings ∧
      settings.check = .ok () := by
  constructor
  · intro hLoad
    unfold load at hLoad
    split at hLoad
    · cases hLoad
    · rename_i hGather
      split at hLoad
      · cases hLoad
      · rename_i hCheck
        cases hLoad
        exact ⟨hGather, hCheck⟩
  · rintro ⟨hGather, hCheck⟩
    unfold load
    rw [hGather]
    simp only [hCheck]

/- Settings that have been loaded are valid. -/
theorem check_of_load
    (hLoad : load sources = .ok settings) :
    settings.check = .ok () :=
  (load_eq_ok_iff.mp hLoad).2

end Settings

end Dashboard
