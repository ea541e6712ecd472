import Dashboard.Proofs.Settings.Apart
import Dashboard.Proofs.Settings.Loading
import Dashboard.Proofs.Settings.Scalar
import Dashboard.Proofs.Settings.Section
import Dashboard.Proofs.Settings.Validity

/-
  Loading with a variable that nothing else gets in the way
  of.  Its value is put in its section over all layers, in
  whatever order the variables are visited, the rest of the
  settings stays valid, and the setting is read from the
  value.

  Key definitions include:
    * `IsSection`
    * `Variables.Alone`
    * `Sources.Settles`

  Main declarations:
    * `IsSection.exists_read_members`
    * `Settings.exists_put?_hosted`
    * `Layer.merge?_of_alone`
    * `Settings.get_of_load_of_alone`
    * `Settings.exists_load_of_alone`
    * `Settings.load_of_assigned`
-/

------------------------------------------------------------
-- Members That Are Put In A Table
------------------------------------------------------------

namespace Dashboard

namespace Reading

/-
  A structure that is a table with one more member says what
  it said before, and of that member its value.
-/
theorem slots_insertMember
    (names : List String)
    (name : String)
    (value : Json)
    (members : List (String × Json)) :
    Reading.lenient.slots names
        (.object (Json.insertMember name value members)) =
      some
        (names.map fun other =>
          if other = name then
            .given value
          else
            Slot.ofOption (Json.memberIn? members other)) := by
  apply congrArg some
  apply List.map_congr_left
  intro other _
  rw [Slot.ofMember_eq_ofOption, Json.memberIn?_insertMember]
  split
  · rfl
  · rfl

end Reading

namespace HostedSettings

variable {members : List (String × Json)}
variable {hosted : HostedSettings}

theorem read?_insertMember_key
    (hRead : read? .lenient (.object members) = some hosted)
    {value : Json}
    {key : Option String}
    (hValue :
      Json.nullable Reading.lenient.text value = some key) :
    read? .lenient
        (.object
          (Json.insertMember "api_key" value members)) =
      some { hosted with apiKey := key } := by
  unfold read? at hRead ⊢
  rw [Reading.slots_object] at hRead
  rw [Reading.slots_insertMember]
  simp only [List.map_cons, List.map_nil, Option.bind_eq_bind,
    Option.bind_eq_some_iff] at hRead ⊢
  rcases hRead with
    ⟨enabled, hEnabled, provider, hProvider, endpoint,
      hEndpoint, model, hModel, old, _, retries, hRetries,
      timeout, hTimeout, temperature, hTemperature, tokens,
      hTokens, hHosted⟩
  cases hHosted
  exact
    ⟨enabled, hEnabled, provider, hProvider, endpoint,
      hEndpoint, model, hModel, key, hValue, retries, hRetries,
      timeout, hTimeout, temperature, hTemperature, tokens,
      hTokens, rfl⟩

theorem read?_insertMember_model
    (hRead : read? .lenient (.object members) = some hosted)
    {value : Json}
    {model : String}
    (hValue : Reading.lenient.text value = some model) :
    read? .lenient
        (.object (Json.insertMember "model" value members)) =
      some { hosted with model := model } := by
  unfold read? at hRead ⊢
  rw [Reading.slots_object] at hRead
  rw [Reading.slots_insertMember]
  simp only [List.map_cons, List.map_nil, Option.bind_eq_bind,
    Option.bind_eq_some_iff] at hRead ⊢
  rcases hRead with
    ⟨enabled, hEnabled, provider, hProvider, endpoint,
      hEndpoint, old, _, key, hKey, retries, hRetries,
      timeout, hTimeout, temperature, hTemperature, tokens,
      hTokens, hHosted⟩
  cases hHosted
  exact
    ⟨enabled, hEnabled, provider, hProvider, endpoint,
      hEndpoint, model, hValue, key, hKey, retries, hRetries,
      timeout, hTimeout, temperature, hTemperature, tokens,
      hTokens, rfl⟩

/-
  Settings of the hosted model that are valid stay so when
  this value is given to one of them.
-/
def Takes (name : String) (value : Json) : Prop :=
  ∀ {members : List (String × Json)} {hosted : HostedSettings},
    read? .lenient (.object members) = some hosted →
    hosted.Valid →
    ∃ changed,
      read? .lenient
          (.object (Json.insertMember name value members)) =
        some changed ∧
        changed.Valid

theorem takes_key
    {value : Json}
    {key : Option String}
    (hValue :
      Json.nullable Reading.lenient.text value = some key) :
    Takes "api_key" value := by
  intro members hosted hRead hValid
  exact
    ⟨_, read?_insertMember_key hRead hValue,
      ⟨hValid.provider, hValid.timeoutMs,
        hValid.temperature, hValid.maxTokens⟩⟩

theorem takes_model
    {value : Json}
    {model : String}
    (hValue : Reading.lenient.text value = some model) :
    Takes "model" value := by
  intro members hosted hRead hValid
  exact
    ⟨_, read?_insertMember_model hRead hValue,
      ⟨hValid.provider, hValid.timeoutMs,
        hValid.temperature, hValid.maxTokens⟩⟩

end HostedSettings

namespace InterpreterSettings

theorem read?_insertMember_hosted
    {members : List (String × Json)}
    {interpreter : InterpreterSettings}
    (hRead :
      read? .lenient (.object members) = some interpreter)
    {value : Json}
    {hosted : HostedSettings}
    (hValue :
      HostedSettings.read? .lenient value = some hosted) :
    read? .lenient
        (.object (Json.insertMember "hosted" value members)) =
      some { interpreter with hosted := hosted } := by
  unfold read? at hRead ⊢
  rw [Reading.slots_object] at hRead
  rw [Reading.slots_insertMember]
  simp only [List.map_cons, List.map_nil, Option.bind_eq_bind,
    Option.bind_eq_some_iff] at hRead ⊢
  rcases hRead with
    ⟨synonyms, hSynonyms, words, hWords, old, _, hInterpreter⟩
  cases hInterpreter
  exact
    ⟨synonyms, hSynonyms, words, hWords, hosted, hValue, rfl⟩

/- The section of the hosted model, as it was read. -/
theorem hosted_of_read?
    {members : List (String × Json)}
    {interpreter : InterpreterSettings}
    (hRead :
      read? .lenient (.object members) = some interpreter) :
    (Slot.ofOption (Json.memberIn? members "hosted")).defaulted
        HostedSettings.initial (HostedSettings.read? .lenient) =
      some interpreter.hosted := by
  unfold read? at hRead
  rw [Reading.slots_object] at hRead
  simp only [List.map_cons, List.map_nil, Option.bind_eq_bind,
    Option.bind_eq_some_iff] at hRead
  rcases hRead with
    ⟨synonyms, _, words, _, hosted, hHosted, hInterpreter⟩
  cases hInterpreter
  exact hHosted

end InterpreterSettings

namespace Settings

/- The section of interpretation, as it was read. -/
theorem interpreter_of_read?
    {members : List (String × Json)}
    {settings : Settings}
    (hRead :
      read? .lenient (.object members) = some settings) :
    (Slot.ofOption
          (Json.memberIn? members "interpreter")).defaulted
        InterpreterSettings.initial
        (InterpreterSettings.read? .lenient) =
      some settings.interpreter := by
  unfold read? at hRead
  rw [Reading.slots_object] at hRead
  simp only [List.map_cons, List.map_nil, Option.bind_eq_bind,
    Option.bind_eq_some_iff] at hRead
  rcases hRead with
    ⟨surroundings, _, server, _, interpreter, hInterpreter,
      data, _, observability, _, hSettings⟩
  cases hSettings
  exact hInterpreter

theorem read?_insertMember_interpreter
    {members : List (String × Json)}
    {settings : Settings}
    (hRead :
      read? .lenient (.object members) = some settings)
    {value : Json}
    {interpreter : InterpreterSettings}
    (hValue :
      InterpreterSettings.read? .lenient value =
        some interpreter) :
    read? .lenient
        (.object
          (Json.insertMember "interpreter" value members)) =
      some { settings with interpreter := interpreter } := by
  unfold read? at hRead ⊢
  rw [Reading.slots_object] at hRead
  rw [Reading.slots_insertMember]
  simp only [List.map_cons, List.map_nil, Option.bind_eq_bind,
    Option.bind_eq_some_iff] at hRead ⊢
  rcases hRead with
    ⟨surroundings, hSurroundings, server, hServer, old, _,
      data, hData, observability, hObservability, hSettings⟩
  cases hSettings
  exact
    ⟨surroundings, hSurroundings, server, hServer,
      interpreter, hValue, data, hData, observability,
      hObservability, rfl⟩

end Settings

end Dashboard

------------------------------------------------------------
-- Sections
------------------------------------------------------------

namespace Dashboard

/-
  A section that is read from tables, from lists, and from
  nothing else, and from an empty table as the one that needs
  no saying.
-/
structure IsSection
    {S : Type}
    (read : Json → Option S)
    (base : S) : Prop where
  empty : read (.object []) = some base
  kind :
    ∀ {json chosen},
      read json = some chosen →
        (∃ items, json = .array items) ∨
          ∃ members, json = .object members

/- What is left of a section when a member is put in it. -/
theorem IsSection.exists_read_members
    {S : Type}
    {read : Json → Option S}
    {base : S}
    (hSection : IsSection read base)
    (Valid : S → Prop)
    (hBase : Valid base)
    (below : Option Json)
    {chosen : S}
    (hRead :
      (Slot.ofOption below).defaulted base read = some chosen)
    (hChosen : Valid chosen) :
    ∃ kept,
      read
          (.object
            (Layer.membersOf (below.getD .null))) =
        some kept ∧
        Valid kept := by
  cases below with
  | none => exact ⟨base, hSection.empty, hBase⟩
  | some json =>
      have hJson : read json = some chosen := hRead
      rcases hSection.kind hJson with
        ⟨items, rfl⟩ | ⟨members, rfl⟩
      · exact ⟨base, hSection.empty, hBase⟩
      · exact ⟨chosen, hJson, hChosen⟩

theorem Reading.kind_of_slots
    {names : List String}
    {json : Json}
    {slots : List (Slot Json)}
    (hSlots : Reading.lenient.slots names json = some slots) :
    (∃ items, json = .array items) ∨
      ∃ members, json = .object members := by
  cases json with
  | object members => exact .inr ⟨members, rfl⟩
  | array items => exact .inl ⟨items, rfl⟩
  | null => cases hSlots
  | bool value => cases hSlots
  | number value => cases hSlots
  | string value => cases hSlots

theorem HostedSettings.isSection :
    IsSection (read? .lenient) initial where
  empty := by
    unfold read?
    rw [Reading.slots_object]
    simp [Json.memberIn?, Slot.ofOption, Slot.defaulted]
  kind := by
    intro json chosen hRead
    unfold read? at hRead
    split at hRead
    · rename_i hSlots
      exact Reading.kind_of_slots hSlots
    · cases hRead

theorem InterpreterSettings.isSection :
    IsSection (read? .lenient) initial where
  empty := rfl
  kind := by
    intro json chosen hRead
    unfold read? at hRead
    split at hRead
    · rename_i hSlots
      exact Reading.kind_of_slots hSlots
    · cases hRead

theorem Settings.isSection :
    IsSection (read? .lenient) initial where
  empty := rfl
  kind := by
    intro json chosen hRead
    unfold read? at hRead
    split at hRead
    · rename_i hSlots
      exact Reading.kind_of_slots hSlots
    · cases hRead

end Dashboard

------------------------------------------------------------
-- Settings Of The Hosted Model
------------------------------------------------------------

namespace Dashboard

namespace Settings

open Layer

/- Where a plain value for the hosted model is put. -/
theorem put?_hosted
    {name : String}
    (hName : Text.lower name = name)
    {value : Json}
    (hPlain : ∀ below, lay below value = value)
    (json : Json) :
    put? value
        [.member "interpreter", .member "hosted",
          .member name] json =
      let outer := membersOf json
      let middle :=
        membersOf
          ((Json.memberIn? outer "interpreter").getD .null)
      let inner :=
        membersOf ((Json.memberIn? middle "hosted").getD .null)
      some
        (.object
          (Json.insertMember "interpreter"
            (.object
              (Json.insertMember "hosted"
                (.object (Json.insertMember name value inner))
                middle))
            outer)) := by
  have hOuter : Text.lower "interpreter" = "interpreter" :=
    Text.lower_of_isLower (List.all_eq_true.mp rfl)
  have hMiddle : Text.lower "hosted" = "hosted" :=
    Text.lower_of_isLower (List.all_eq_true.mp rfl)
  simp [put?, layMembers, hOuter, hMiddle, hName, hPlain]

/-
  A plain value that the settings of the hosted model take is
  put there, and they are read with it.
-/
theorem exists_put?_hosted
    {json : Json}
    {given : Settings}
    (hRead : read? .lenient json = some given)
    (hValid : given.Valid)
    {name : String}
    (hName : Text.lower name = name)
    {value : Json}
    (hPlain : ∀ below, lay below value = value)
    (hTakes : HostedSettings.Takes name value) :
    ∃ result loaded,
      put? value
          [.member "interpreter", .member "hosted",
            .member name] json =
        some result ∧
        read? .lenient result = some loaded ∧
        loaded.Valid := by
  rcases isSection.exists_read_members Valid valid_initial
      (some json) hRead hValid with
    ⟨outer, hOuter, hOuterValid⟩
  rcases InterpreterSettings.isSection.exists_read_members
      (fun interpreter =>
        interpreter.hosted.Valid ∧ interpreter.vocabulary.Valid)
      ⟨valid_initial.hosted, valid_initial.vocabulary⟩ _
      (interpreter_of_read? hOuter)
      ⟨hOuterValid.hosted, hOuterValid.vocabulary⟩ with
    ⟨middle, hMiddle, hMiddleValid⟩
  rcases HostedSettings.isSection.exists_read_members
      HostedSettings.Valid valid_initial.hosted _
      (InterpreterSettings.hosted_of_read? hMiddle)
      hMiddleValid.1 with
    ⟨inner, hInner, hInnerValid⟩
  rcases hTakes hInner hInnerValid with
    ⟨changed, hChanged, hChangedValid⟩
  have hLoaded :=
    read?_insertMember_interpreter hOuter
      (InterpreterSettings.read?_insertMember_hosted hMiddle
        hChanged)
  refine ⟨_, _, ?_, hLoaded, ?_⟩
  · rw [put?_hosted hName hPlain]
    rfl
  · exact
      ⟨hOuterValid.server, hChangedValid, hMiddleValid.2⟩

end Settings

end Dashboard

------------------------------------------------------------
-- A Variable With Nothing In Its Way
------------------------------------------------------------

namespace Dashboard

/-
  No other variable leads to the place of one, to one around
  it, or to one inside it.
-/
def Variables.Alone
    (assigned : Variables)
    (name : String) : Prop :=
  ∀ v ∈ assigned.entries,
    v.1 ≠ name →
    ∀ path other,
      Layer.pathOf? name = some path →
      Layer.pathOf? v.1 = some other →
      KeyPath.Apart (KeyPath.leadingNames (Layer.stepsTo path))
        (KeyPath.leadingNames (Layer.stepsTo other))

namespace Layer

/- One assignment that lies apart from those after it. -/
theorem over?_middle
    {a : String × Json}
    {after : Layer}
    (hApart : ∀ b ∈ after, LeadApart a b)
    (before : Layer)
    (below : Json) :
    over? below (before ++ a :: after) =
      (over? below (before ++ after)).bind
        (assign? · a.1 a.2) := by
  rw [over?_append, over?_append, Option.bind_assoc]
  apply congrArg (Option.bind (over? below before))
  funext json
  rw [over?_move hApart, over?_append]
  apply congrArg (Option.bind (over? json after))
  funext last
  rw [over?_cons]
  exact Option.bind_fun_some _

variable {assigned : Variables}
variable {name path text : String}

/-
  A variable that is alone is put over all that the files and
  the other variables come to.
-/
theorem merge?_of_alone
    (hMem : (name, text) ∈ assigned.entries)
    (hAlone : assigned.Alone name)
    (hPath : pathOf? name = some path)
    (files : List Layer) :
    merge? (files ++ [ofAssigned assigned.entries]) =
      (merge?
          (files ++
            [ofAssigned (assigned.without name).entries])).bind
        fun json =>
          put? (Scalar.ofText text) (stepsTo path) json := by
  rcases Variables.exists_entries_eq hMem with
    ⟨before, after, hEntries, hWithout⟩
  have hLayer :
      ofAssigned assigned.entries =
        ofAssigned before ++
          (path, Scalar.ofText text) :: ofAssigned after := by
    rw [hEntries, ofAssigned, List.filterMap_append,
      List.filterMap_cons, hPath]
    rfl
  have hOthers :
      ofAssigned (assigned.without name).entries =
        ofAssigned before ++ ofAssigned after := by
    rw [hWithout, ofAssigned, List.filterMap_append]
    rfl
  have hApart :
      ∀ b ∈ ofAssigned after,
        LeadApart (path, Scalar.ofText text) b := by
    intro b hB
    rcases List.mem_filterMap.mp hB with ⟨v, hV, hLeads⟩
    rcases Option.map_eq_some_iff.mp hLeads with
      ⟨other, hOther, rfl⟩
    have hLeft : v ∈ (assigned.without name).entries := by
      rw [hWithout]
      exact List.mem_append_right before hV
    rcases List.mem_filter.mp hLeft with ⟨hEntry, hNe⟩
    exact
      hAlone v hEntry (bne_iff_ne.mp hNe) path other hPath
        hOther
  rw [hLayer, hOthers, merge?_append_singleton,
    merge?_append_singleton, Option.bind_assoc]
  apply congrArg (Option.bind (merge? files))
  funext json
  exact over?_middle hApart _ json

end Layer

end Dashboard

------------------------------------------------------------
-- Loading With It And Without It
------------------------------------------------------------

namespace Dashboard

/- What is read as a text is not `null`. -/
theorem Json.nullable_of_lenientText
    {json : Json}
    {text : String}
    (hText : Reading.lenientText json = some text) :
    nullable Reading.lenientText json = some (some text) := by
  cases json with
  | null => cases hText
  | bool value => simp [nullable, hText]
  | number value => simp [nullable, hText]
  | string value => simp [nullable, hText]
  | array items => cases hText
  | object members => cases hText

/- A text that is assigned is a plain value. -/
theorem Scalar.lay_ofText
    (text : String)
    (below : Option Json) :
    Layer.lay below (ofText text) = ofText text := by
  unfold ofText
  cases truth? text with
  | some value => rw [Layer.lay]
  | none =>
      cases word? text.toList with
      | some n =>
          simp [Json.ofInt, Layer.lay]
      | none =>
          cases double? text.toList with
          | some x => simp [Json.ofDouble, Layer.lay]
          | none => simp [Layer.lay]

/-
  A variable settles a part of the settings: whatever is
  loaded has that value, and sources that load without the
  variable load with it.
-/
structure Sources.Settles
    {α : Type}
    (sources : Sources)
    (name : String)
    (get : Settings → α)
    (value : α) : Prop where
  every :
    ∀ {settings},
      Settings.load sources = .ok settings →
      get settings = value
  loads :
    ∀ {settings},
      Settings.load (sources.without name) = .ok settings →
      ∃ loaded, Settings.load sources = .ok loaded

/- A variable leads to a setting of the hosted model. -/
structure LeadsToHosted (name setting : String) : Prop where
  exists_path :
    ∃ path,
      Layer.pathOf? name = some path ∧
        Layer.stepsTo path =
          [.member "interpreter", .member "hosted",
            .member setting]
  lower : Text.lower setting = setting

namespace Settings

variable {sources : Sources}
variable {settings : Settings}

/- The last resort for the key has no part in validity. -/
theorem valid_withFallbackKey_iff
    (given : Settings)
    (key : Option String) :
    (given.withFallbackKey key).Valid ↔ given.Valid := by
  constructor
  · intro hValid
    have hHosted := hValid.hosted
    exact
      ⟨hValid.server,
        ⟨hHosted.provider, hHosted.timeoutMs,
          hHosted.temperature, hHosted.maxTokens⟩,
        hValid.vocabulary⟩
  · intro hValid
    have hHosted := hValid.hosted
    exact
      ⟨hValid.server,
        ⟨hHosted.provider, hHosted.timeoutMs,
          hHosted.temperature, hHosted.maxTokens⟩,
        hValid.vocabulary⟩

/- A value put at a setting of the hosted model is there. -/
theorem within?_of_put?_hosted
    {json result value : Json}
    {name : String}
    (hName : Text.lower name = name)
    (hPlain : ∀ below, Layer.lay below value = value)
    (hPut :
      Layer.put? value
          [.member "interpreter", .member "hosted",
            .member name] json =
        some result) :
    ¬ result.ListsOn ["interpreter", "hosted", name] ∧
      result.within? ["interpreter", "hosted", name] =
        some value := by
  rw [put?_hosted hName hPlain] at hPut
  cases hPut
  constructor
  · -- Tables stand on the way, and no lists.
    rintro ⟨before, items, hPrefix, hNe, hWithin⟩
    rcases before with
      _ | ⟨first, _ | ⟨second, _ | ⟨third, rest⟩⟩⟩
    · cases hWithin
    · simp only [List.cons_prefix_cons] at hPrefix
      rcases hPrefix with ⟨rfl, -⟩
      simp [Json.within?, Layer.member?_insertMember]
        at hWithin
    · simp only [List.cons_prefix_cons] at hPrefix
      rcases hPrefix with ⟨rfl, rfl, -⟩
      simp [Json.within?, Layer.member?_insertMember]
        at hWithin
    · simp only [List.cons_prefix_cons,
        List.prefix_nil] at hPrefix
      rcases hPrefix with ⟨rfl, rfl, rfl, rfl⟩
      exact hNe rfl
  · simp [Json.within?, Layer.member?_insertMember]

variable {name setting text : String}

/-
  A variable for a setting of the hosted model that is alone
  decides it, if its text means a value for it.
-/
theorem get_of_load_of_alone
    {leaf : Leaf Settings}
    {value : leaf.Value}
    (hLeads : LeadsToHosted name setting)
    (hMem : (name, text) ∈ sources.assigned.entries)
    (hAlone : sources.assigned.Alone name)
    (hLeaf : leaf ∈ keyLeaf :: leaves)
    (hPlace : leaf.path = ["interpreter", "hosted", setting])
    (hValue : leaf.read (Scalar.ofText text) = some value)
    (hKept :
      ∀ {given : Settings},
        leaf.get given = value →
        leaf.get
            (given.withFallbackKey sources.fallbackKey?) =
          value)
    (hLoad : load sources = .ok settings) :
    leaf.get settings = value := by
  rcases hLeads.exists_path with ⟨path, hPath, hSteps⟩
  have hMerge := Layer.merge?_of_alone hMem hAlone hPath
  rw [hSteps] at hMerge
  rcases gather?_eq_some_iff.mp (load_eq_ok_iff.mp hLoad).1
    with ⟨layers, json, given, hLayers, hAll, hRead, rfl⟩
  rcases Option.map_eq_some_iff.mp hLayers with
    ⟨files, hFiles, rfl⟩
  rw [hMerge] at hAll
  rcases Option.bind_eq_some_iff.mp hAll with
    ⟨below, -, hPut⟩
  rcases within?_of_put?_hosted hLeads.lower
      (Scalar.lay_ofText text) hPut with
    ⟨hLists, hWithin⟩
  have hHolds := holds_of_read? hRead leaf hLeaf
  rw [Leaf.Holds, hPlace, hWithin] at hHolds
  exact
    hKept
      (Option.some.inj ((hHolds hLists).symm.trans hValue))

/- Nor does it keep sources from loading. -/
theorem exists_load_of_alone
    (hLeads : LeadsToHosted name setting)
    (hMem : (name, text) ∈ sources.assigned.entries)
    (hAlone : sources.assigned.Alone name)
    (hTakes :
      HostedSettings.Takes setting (Scalar.ofText text))
    (hLoad : load (sources.without name) = .ok settings) :
    ∃ loaded, load sources = .ok loaded := by
  rcases hLeads.exists_path with ⟨path, hPath, hSteps⟩
  have hMerge := Layer.merge?_of_alone hMem hAlone hPath
  rw [hSteps] at hMerge
  rcases load_eq_ok_iff.mp hLoad with ⟨hGather, hCheck⟩
  rcases gather?_eq_some_iff.mp hGather with
    ⟨layers, json, given, hLayers, hOthers, hRead, rfl⟩
  rcases Option.map_eq_some_iff.mp hLayers with
    ⟨files, hFiles, rfl⟩
  rw [check_eq_ok_iff, valid_withFallbackKey_iff] at hCheck
  rcases exists_put?_hosted hRead hCheck hLeads.lower
      (Scalar.lay_ofText text) hTakes with
    ⟨result, loaded, hPut, hLoaded, hValid⟩
  have hSame : sources.fileLayers? = some files := hFiles
  have hBelow :
      Layer.merge?
          (files ++
            [Layer.ofAssigned
              (sources.assigned.without name).entries]) =
        some json :=
    hOthers
  have hLayered :
      sources.layers? =
        some
          (files ++
            [Layer.ofAssigned sources.assigned.entries]) := by
    rw [Sources.layers?, hSame, Option.map_some]
  have hAll :
      Layer.merge?
          (files ++
            [Layer.ofAssigned sources.assigned.entries]) =
        some result := by
    rw [hMerge, hBelow]
    exact hPut
  refine ⟨loaded.withFallbackKey sources.fallbackKey?, ?_⟩
  rw [load_eq_ok_iff, gather?_eq_some_iff, check_eq_ok_iff,
    valid_withFallbackKey_iff]
  exact
    ⟨⟨_, result, loaded, hLayered, hAll, hLoaded, rfl⟩, hValid⟩

/- The variable for the key of the hosted model. -/
def keyVariable : String :=
  "DASHBOARD__INTERPRETER__HOSTED__API_KEY"

/- The variable for the name of the hosted model. -/
def modelVariable : String :=
  "DASHBOARD__INTERPRETER__HOSTED__MODEL"

theorem leadsToHosted_key :
    LeadsToHosted keyVariable "api_key" where
  exists_path := ⟨"interpreter.hosted.api_key", rfl, rfl⟩
  lower := Text.lower_of_isLower (List.all_eq_true.mp rfl)

theorem leadsToHosted_model :
    LeadsToHosted modelVariable "model" where
  exists_path := ⟨"interpreter.hosted.model", rfl, rfl⟩
  lower := Text.lower_of_isLower (List.all_eq_true.mp rfl)

/- The name of the hosted model. -/
def modelLeaf : Leaf Settings :=
  .inside "interpreter" interpreter
    (.inside "hosted" InterpreterSettings.hosted
      (.named "model" Reading.lenient.text
        HostedSettings.model Reading.isSteady_text))

theorem modelLeaf_mem : modelLeaf ∈ leaves := by
  simp [leaves, modelLeaf, InterpreterSettings.leaves,
    HostedSettings.leaves]

theorem settles_key
    (hMem : (keyVariable, text) ∈ sources.assigned.entries)
    (hAlone : sources.assigned.Alone keyVariable) :
    sources.Settles keyVariable
      (fun settings => settings.interpreter.hosted.apiKey)
      (some (Scalar.settled text)) := by
  have hValue :
      Json.nullable Reading.lenient.text (Scalar.ofText text) =
        some (some (Scalar.settled text)) :=
    Json.nullable_of_lenientText
      (Reading.lenientText_ofText text)
  refine
    ⟨?_,
      exists_load_of_alone leadsToHosted_key hMem hAlone
        (HostedSettings.takes_key hValue)⟩
  intro settings hLoad
  have hKept :
      ∀ {given : Settings},
        keyLeaf.get given = some (Scalar.settled text) →
        keyLeaf.get
            (given.withFallbackKey sources.fallbackKey?) =
          some (Scalar.settled text) :=
    fun hGiven =>
      congrArg (Option.or · sources.fallbackKey?) hGiven
  have hGet :
      keyLeaf.get settings = some (Scalar.settled text) :=
    get_of_load_of_alone leadsToHosted_key hMem hAlone
      (.head _) rfl hValue hKept hLoad
  exact hGet

theorem settles_model
    (hMem : (modelVariable, text) ∈ sources.assigned.entries)
    (hAlone : sources.assigned.Alone modelVariable) :
    sources.Settles modelVariable
      (fun settings => settings.interpreter.hosted.model)
      (Scalar.settled text) := by
  have hValue := Reading.lenientText_ofText text
  refine
    ⟨?_,
      exists_load_of_alone leadsToHosted_model hMem hAlone
        (HostedSettings.takes_model hValue)⟩
  intro settings hLoad
  have hGet :
      modelLeaf.get settings = Scalar.settled text :=
    get_of_load_of_alone leadsToHosted_model hMem hAlone
      (.tail _ modelLeaf_mem) rfl hValue
      (fun hGiven => hGiven) hLoad
  exact hGet

/- The variable of the last resort leads nowhere. -/
theorem pathOf?_fallback :
    Layer.pathOf? "GOOGLE_API_KEY" = none := by
  rfl

/- So the layers are the same without it. -/
theorem ofAssigned_without_fallback
    (assigned : Variables) :
    Layer.ofAssigned
        (assigned.without "GOOGLE_API_KEY").entries =
      Layer.ofAssigned assigned.entries := by
  unfold Layer.ofAssigned Variables.without
  dsimp only
  rw [List.filterMap_filter]
  apply congrArg (List.filterMap · assigned.entries)
  funext v
  by_cases hName : v.1 = "GOOGLE_API_KEY"
  · rw [hName, pathOf?_fallback]
    rfl
  · rw [if_pos (bne_iff_ne.mpr hName)]

/- The last resort for the key is taken as it is. -/
theorem exists_load_fallback
    (hMem : ("GOOGLE_API_KEY", text) ∈ sources.assigned.entries)
    (hText : Text.blankOnly text = false)
    (hLoad :
      load (sources.without "GOOGLE_API_KEY") = .ok settings)
    (hNone : settings.interpreter.hosted.apiKey = none) :
    ∃ loaded,
      load sources = .ok loaded ∧
        loaded.interpreter.hosted.apiKey = some text := by
  rcases load_eq_ok_iff.mp hLoad with ⟨hGather, hCheck⟩
  rcases gather?_eq_some_iff.mp hGather with
    ⟨layers, json, given, hLayers, hMerge, hRead, rfl⟩
  rw [check_eq_ok_iff, valid_withFallbackKey_iff] at hCheck
  have hLayered : sources.layers? = some layers := by
    rw [← hLayers, Sources.layers?, Sources.layers?,
      Sources.without, ofAssigned_without_fallback]
    rfl
  have hKey : sources.fallbackKey? = some text := by
    rw [Sources.fallbackKey?,
      Variables.value?_eq_some_iff.mpr hMem,
      Option.filter_some, hText]
    rfl
  have hGiven : given.interpreter.hosted.apiKey = none :=
    (Option.or_eq_none_iff.mp hNone).1
  refine ⟨given.withFallbackKey (some text), ?_, ?_⟩
  · rw [load_eq_ok_iff, gather?_eq_some_iff, check_eq_ok_iff,
      valid_withFallbackKey_iff, hKey]
    exact
      ⟨⟨layers, json, given, hLayered, hMerge, hRead, rfl⟩,
        hCheck⟩
  · rw [withFallbackKey]
    exact congrArg (Option.or · (some text)) hGiven

/-
  What is assigned to the key or to the name of the hosted
  model is not taken as it is, as the last resort for the key
  is, but as what is left of it once it has been taken for a
  value, in whatever order the variables are visited.  It
  stays the same exactly if it is neither a truth value nor a
  number, or if it is written as its value is.
-/
theorem load_of_assigned
    (sources : Sources)
    (text : String) :
    ((keyVariable, text) ∈ sources.assigned.entries →
        sources.assigned.Alone keyVariable →
        sources.Settles keyVariable
          (fun settings => settings.interpreter.hosted.apiKey)
          (some (Scalar.settled text))) ∧
      ((modelVariable, text) ∈ sources.assigned.entries →
        sources.assigned.Alone modelVariable →
        sources.Settles modelVariable
          (fun settings => settings.interpreter.hosted.model)
          (Scalar.settled text)) ∧
      (Scalar.settled text = text ↔
        Scalar.IsMere text ∨ Scalar.IsWritten text) ∧
      (("GOOGLE_API_KEY", text) ∈ sources.assigned.entries →
        Text.blankOnly text = false →
        ∀ settings,
          load (sources.without "GOOGLE_API_KEY") =
              .ok settings →
          settings.interpreter.hosted.apiKey = none →
          ∃ loaded,
            load sources = .ok loaded ∧
              loaded.interpreter.hosted.apiKey = some text) :=
  ⟨settles_key, settles_model,
    Scalar.settled_eq_self_iff text,
    fun hMem hText _ => exists_load_fallback hMem hText⟩

/- Sources without files, with the variables given. -/
def withoutFiles (assigned : Variables) : Sources where
  files := fun _ => .absent
  surroundings := none
  assigned := assigned

/- No variables at all. -/
def noVariables : Variables where
  entries := []
  distinct := List.nodup_nil

/- The name of the hosted model is assigned. -/
def modelAlone : Variables where
  entries := [(modelVariable, "TRUE")]
  distinct := by decide

/- Its key and its name are assigned. -/
def keyAndModel : Variables where
  entries :=
    [(keyVariable, "007"), (modelVariable, "TRUE")]
  distinct := by decide

/- The key of last resort is assigned. -/
def fallbackAlone : Variables where
  entries := [("GOOGLE_API_KEY", "007")]
  distinct := by decide

theorem load_withoutFiles :
    load (withoutFiles noVariables) = .ok initial := by
  have hMerge : Layer.merge? [[], []] = some (.object []) := by
    rfl
  have hSame : initial = initial.withFallbackKey none := by
    rw [withFallbackKey, Option.or_none]
  rw [load_eq_ok_iff, gather?_eq_some_iff, check_eq_ok_iff]
  exact
    ⟨⟨[[], []], .object [], initial, rfl, hMerge,
        isSection.empty, hSame⟩,
      valid_initial⟩

/- The key and the name of the model are apart. -/
theorem apart_key_model :
    KeyPath.Apart
      (KeyPath.leadingNames
        (Layer.stepsTo "interpreter.hosted.api_key"))
      (KeyPath.leadingNames
        (Layer.stepsTo "interpreter.hosted.model")) := by
  have hDiffer : Text.lower "api_key" ≠ Text.lower "model" := by
    rw [leadsToHosted_key.lower, leadsToHosted_model.lower]
    decide
  exact Or.inr (Or.inr (Or.inl hDiffer))

theorem alone_keyAndModel :
    keyAndModel.Alone keyVariable ∧
      keyAndModel.Alone modelVariable := by
  have hKey :
      Layer.pathOf? keyVariable =
        some "interpreter.hosted.api_key" := by
    rfl
  have hModel :
      Layer.pathOf? modelVariable =
        some "interpreter.hosted.model" := by
    rfl
  constructor
  · rintro v (_ | ⟨_, _ | ⟨_, ⟨⟩⟩⟩) hNe path other
      hPath hOther
    · exact absurd rfl hNe
    · cases hKey.symm.trans hPath
      cases hModel.symm.trans hOther
      exact apart_key_model
  · rintro v (_ | ⟨_, _ | ⟨_, ⟨⟩⟩⟩) hNe path other
      hPath hOther
    · cases hModel.symm.trans hPath
      cases hKey.symm.trans hOther
      exact apart_key_model.symm
    · exact absurd rfl hNe

theorem alone_modelAlone : modelAlone.Alone modelVariable := by
  rintro v (_ | ⟨_, ⟨⟩⟩) hNe
  exact absurd rfl hNe

/- The zeros in front of a key are lost, and capitals. -/
theorem load_of_assigned_zeros :
    (∃ loaded,
      load (withoutFiles keyAndModel) = .ok loaded ∧
        loaded.interpreter.hosted.apiKey = some "7" ∧
        loaded.interpreter.hosted.model = "true") ∧
      ¬ (Scalar.IsMere "007" ∨ Scalar.IsWritten "007") ∧
      ∃ loaded,
        load (withoutFiles fallbackAlone) = .ok loaded ∧
          loaded.interpreter.hosted.apiKey = some "007" := by
  have hZeros : Scalar.settled "007" = "7" := by
    rfl
  have hTruth : Scalar.settled "TRUE" = "true" := by
    rfl
  rcases load_of_assigned (withoutFiles keyAndModel) "007" with
    ⟨hKey, -, hSame, -⟩
  rcases load_of_assigned (withoutFiles keyAndModel)
      "TRUE" with
    ⟨-, hModel, -, -⟩
  rcases load_of_assigned (withoutFiles modelAlone) "TRUE" with
    ⟨-, hFirst, -, -⟩
  rcases load_of_assigned (withoutFiles fallbackAlone)
      "007" with
    ⟨-, -, -, hFallback⟩
  refine ⟨?_, ?_, ?_⟩
  · have hSettlesKey :=
      hKey (.head _) alone_keyAndModel.1
    have hSettlesModel :=
      hModel (.tail _ (.head _)) alone_keyAndModel.2
    -- First the name is assigned, and then the key.
    rcases (hFirst (.head _) alone_modelAlone).loads
        load_withoutFiles with
      ⟨named, hNamed⟩
    rcases hSettlesKey.loads hNamed with ⟨loaded, hLoaded⟩
    refine ⟨loaded, hLoaded, ?_, ?_⟩
    · rw [← hZeros]
      exact hSettlesKey.every hLoaded
    · rw [← hTruth]
      exact hSettlesModel.every hLoaded
  · rw [← hSame, hZeros]
    decide
  · exact
      hFallback (.head _) rfl initial load_withoutFiles rfl

end Settings

end Dashboard
