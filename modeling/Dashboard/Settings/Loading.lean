import Dashboard.Settings.Lenient

/-
  Loading settings from files and variables.

  Key definitions include:
    * `SettingsFile`
    * `Variables`
    * `Sources`
    * `Settings.load`

  The default file is the lowest layer, the file of the
  surroundings comes over it, and variables come over both.
  How a file is found and what its text means is left to the
  reader of files.
-/

------------------------------------------------------------
-- Sources
------------------------------------------------------------

namespace Dashboard

/-
  What the reader of files finds under a name: no file, a
  text that is no table, or the members of a table, in the
  order in which they happen to be visited.
-/
inductive SettingsFile where
  | absent
  | broken
  | table (members : Layer)

/-
  Variables of different names with their texts, in the order
  in which they happen to be visited.  Nothing settles that
  order.
-/
structure Variables where
  entries : List (String × String)
  distinct : (entries.map Prod.fst).Nodup

/- The text of a variable, if it is assigned. -/
def Variables.value?
    (assigned : Variables)
    (name : String) : Option String :=
  assigned.entries.lookup name

/-
  Where settings come from: what is found under the names of
  files, the name of the file for the surroundings, and the
  variables that are assigned.
-/
structure Sources where
  files : String → SettingsFile
  surroundings : Option String
  assigned : Variables

namespace Sources

/- The layer of a file; a missing file is an empty one. -/
def fileLayer?
    (sources : Sources)
    (name : String) : Option Layer :=
  match sources.files name with
  | .absent => some []
  | .broken => none
  | .table members => some members

/- The layers of the files, the lowest one first. -/
def fileLayers? (sources : Sources) : Option (List Layer) :=
  ("default" :: sources.surroundings.toList).mapM
    sources.fileLayer?

/- All layers, the lowest one first. -/
def layers? (sources : Sources) : Option (List Layer) :=
  sources.fileLayers?.map fun files =>
    files ++ [Layer.ofAssigned sources.assigned.entries]

/- The key that is used when the settings give none. -/
def fallbackKey? (sources : Sources) : Option String :=
  (sources.assigned.value? "GOOGLE_API_KEY").filter
    fun key => !Text.blankOnly key

end Sources

end Dashboard

------------------------------------------------------------
-- Loading
------------------------------------------------------------

namespace Dashboard

namespace Settings

/- Settings with a key where they have none. -/
def withFallbackKey
    (settings : Settings)
    (key : Option String) : Settings :=
  let interpreter := settings.interpreter
  let hosted := interpreter.hosted
  { settings with
    interpreter :=
      { interpreter with
        hosted :=
          { hosted with apiKey := hosted.apiKey.or key } } }

/- The settings that sources give, before they are checked. -/
def gather? (sources : Sources) : Option Settings := do
  let layers ← sources.layers?
  let settings ← ofLayers? layers
  return settings.withFallbackKey sources.fallbackKey?

/- The valid settings that sources give. -/
def load (sources : Sources) :
    Except SettingsError Settings :=
  match gather? sources with
  | none => .error (.unparsable none)
  | some settings =>
      match settings.check with
      | .error e => .error e
      | .ok () => .ok settings

end Settings

end Dashboard
