import Dashboard.Proofs.Settings.Leaf

/-
  All single settings, section by section, and that each of
  them is read from where it stands.

  Key definitions include:
    * `ServerSettings.leaves`
    * `HostedSettings.leaves`
    * `HostedSettings.keyLeaf`
    * `Settings.leaves`
    * `Settings.keyLeaf`

  Main declarations:
    * `Settings.holds_of_read?`
    * `Settings.eq_of_leaves`
-/

------------------------------------------------------------
-- The Settings Of Each Section
------------------------------------------------------------

namespace Dashboard

theorem Reading.slots_object
    (names : List String)
    (members : List (String × Json)) :
    Reading.lenient.slots names (.object members) =
      some
        (names.map fun name =>
          Slot.ofOption (Json.memberIn? members name)) := by
  apply congrArg some
  apply List.map_congr_left
  intro name _
  exact Slot.ofMember_eq_ofOption members name

/-
  A structure that is not written as a list is a table, which
  says of each field what its member is.
-/
theorem Reading.slots_lenient
    (names : List String)
    {json : Json}
    (hJson : ∀ items, json ≠ .array items) :
    Reading.lenient.slots names json = none ∨
      Reading.lenient.slots names json =
        some
          (names.map fun name =>
            Slot.ofOption (json.member? name)) := by
  cases json with
  | object members =>
      exact Or.inr (Reading.slots_object names members)
  | array items => exact absurd rfl (hJson items)
  | null => exact Or.inl rfl
  | bool value => exact Or.inl rfl
  | number value => exact Or.inl rfl
  | string value => exact Or.inl rfl

namespace ServerSettings

/- The single settings of the server. -/
def leaves : List (Leaf ServerSettings) :=
  [.named "host" Reading.lenient.text host
      Reading.isSteady_text,
    .named "port" Reading.lenient.word16 port
      Reading.isSteady_word16,
    .named "timeout_seconds" Reading.lenient.word64
      timeoutSeconds Reading.isSteady_word64,
    .named "cors_enabled" Reading.lenient.bool corsEnabled
      Reading.isSteady_bool,
    .named "cors_origins" (Json.list? Reading.lenient.text)
      corsOrigins (isSteady_list? _)]

theorem holds_of_read?
    {json : Json}
    {server : ServerSettings}
    (hRead : read? .lenient json = some server) :
    ∀ leaf ∈ leaves, leaf.Holds initial server json := by
  apply Leaf.forall_holds
  intro hJson
  unfold read? at hRead
  rcases Reading.slots_lenient _ hJson with hNone | hSlots
  · rw [hNone] at hRead
    cases hRead
  · simp only [hSlots, List.map_cons, List.map_nil,
      Option.bind_eq_bind, Option.bind_eq_some_iff] at hRead
    rcases hRead with
      ⟨host, hHost, port, hPort, timeout, hTimeout, enabled,
        hEnabled, origins, hOrigins, hServer⟩
    cases hServer
    simp only [leaves, List.forall_mem_cons]
    exact
      ⟨Leaf.holds_named hHost, Leaf.holds_named hPort,
        Leaf.holds_named hTimeout, Leaf.holds_named hEnabled,
        Leaf.holds_named hOrigins, List.forall_mem_nil _⟩

/- The settings of the server are its single settings. -/
theorem eq_of_leaves
    {a b : ServerSettings}
    (hLeaves : ∀ leaf ∈ leaves, leaf.get a = leaf.get b) :
    a = b := by
  simp only [leaves, List.forall_mem_cons,
    Leaf.named] at hLeaves
  rcases a with ⟨host, port, timeout, enabled, origins⟩
  rcases b with ⟨_, _, _, _, _⟩
  rcases hLeaves with ⟨rfl, rfl, rfl, rfl, rfl, -⟩
  rfl

end ServerSettings

namespace HostedSettings

/- The single settings of the hosted model but its key. -/
def leaves : List (Leaf HostedSettings) :=
  [.named "enabled" Reading.lenient.bool enabled
      Reading.isSteady_bool,
    .named "provider" Reading.lenient.text provider
      Reading.isSteady_text,
    .named "endpoint" (Json.nullable Reading.lenient.text)
      endpoint Reading.isSteady_nullable_text,
    .named "model" Reading.lenient.text model
      Reading.isSteady_text,
    .named "max_retries" Reading.lenient.word32 maxRetries
      Reading.isSteady_word32,
    .named "timeout_ms" Reading.lenient.word64 timeoutMs
      Reading.isSteady_word64,
    .named "temperature" Reading.lenient.single temperature
      Reading.isSteady_single,
    .named "max_tokens" Reading.lenient.word32 maxTokens
      Reading.isSteady_word32]

/- The key of the hosted model. -/
def keyLeaf : Leaf HostedSettings :=
  .named "api_key" (Json.nullable Reading.lenient.text)
    apiKey Reading.isSteady_nullable_text

theorem holds_of_read?
    {json : Json}
    {hosted : HostedSettings}
    (hRead : read? .lenient json = some hosted) :
    ∀ leaf ∈ keyLeaf :: leaves,
      leaf.Holds initial hosted json := by
  apply Leaf.forall_holds
  intro hJson
  unfold read? at hRead
  rcases Reading.slots_lenient _ hJson with hNone | hSlots
  · rw [hNone] at hRead
    cases hRead
  · simp only [hSlots, List.map_cons, List.map_nil,
      Option.bind_eq_bind, Option.bind_eq_some_iff] at hRead
    rcases hRead with
      ⟨enabled, hEnabled, provider, hProvider, endpoint,
        hEndpoint, model, hModel, key, hKey, retries,
        hRetries, timeout, hTimeout, temperature,
        hTemperature, tokens, hTokens, hHosted⟩
    cases hHosted
    simp only [leaves, List.forall_mem_cons]
    exact
      ⟨Leaf.holds_named hKey, Leaf.holds_named hEnabled,
        Leaf.holds_named hProvider,
        Leaf.holds_named hEndpoint, Leaf.holds_named hModel,
        Leaf.holds_named hRetries, Leaf.holds_named hTimeout,
        Leaf.holds_named hTemperature,
        Leaf.holds_named hTokens, List.forall_mem_nil _⟩

theorem eq_of_leaves
    {a b : HostedSettings}
    (hLeaves :
      ∀ leaf ∈ keyLeaf :: leaves, leaf.get a = leaf.get b) :
    a = b := by
  simp only [keyLeaf, leaves, List.forall_mem_cons,
    Leaf.named] at hLeaves
  rcases a with
    ⟨enabled, provider, endpoint, model, key, retries,
      timeout, temperature, tokens⟩
  rcases b with ⟨_, _, _, _, _, _, _, _, _⟩
  rcases hLeaves with
    ⟨rfl, rfl, rfl, rfl, rfl, rfl, rfl, rfl, rfl, -⟩
  rfl

end HostedSettings

namespace InterpreterSettings

/- The single settings of interpretation but the key. -/
def leaves : List (Leaf InterpreterSettings) :=
  [.named "field_synonyms"
      (Json.list? (Synonym.read? .lenient))
      (fun interpreter => interpreter.vocabulary.synonyms)
      (isSteady_list? _),
    .named "dataset_keywords"
      (Json.list? (DatasetWord.read? .lenient))
      (fun interpreter => interpreter.vocabulary.datasetWords)
      (isSteady_list? _)] ++
    HostedSettings.leaves.map (.inside "hosted" hosted)

/- The key of the hosted model. -/
def keyLeaf : Leaf InterpreterSettings :=
  HostedSettings.keyLeaf.inside "hosted" hosted

theorem holds_of_read?
    {json : Json}
    {interpreter : InterpreterSettings}
    (hRead : read? .lenient json = some interpreter) :
    ∀ leaf ∈ keyLeaf :: leaves,
      leaf.Holds initial interpreter json := by
  apply Leaf.forall_holds
  intro hJson
  unfold read? at hRead
  rcases Reading.slots_lenient _ hJson with hNone | hSlots
  · rw [hNone] at hRead
    cases hRead
  · simp only [hSlots, List.map_cons, List.map_nil,
      Option.bind_eq_bind, Option.bind_eq_some_iff] at hRead
    rcases hRead with
      ⟨synonyms, hSynonyms, words, hWords, hosted, hHosted,
        hInterpreter⟩
    cases hInterpreter
    simp only [leaves, List.cons_append, List.nil_append,
      List.forall_mem_cons]
    refine
      ⟨Leaf.holds_inside hHosted ?_,
        Leaf.holds_named hSynonyms, Leaf.holds_named hWords,
        Leaf.forall_holds_inside hHosted ?_⟩
    · intro inner chosen hInner
      exact
        (List.forall_mem_cons.mp
          (HostedSettings.holds_of_read? hInner)).1
    · intro inner chosen hInner
      exact
        (List.forall_mem_cons.mp
          (HostedSettings.holds_of_read? hInner)).2

theorem eq_of_leaves
    {a b : InterpreterSettings}
    (hLeaves :
      ∀ leaf ∈ keyLeaf :: leaves, leaf.get a = leaf.get b) :
    a = b := by
  simp only [keyLeaf, leaves, List.forall_mem_cons,
    List.cons_append, List.nil_append, List.forall_mem_map,
    Leaf.named] at hLeaves
  rcases a with ⟨⟨synonyms, words⟩, hosted⟩
  rcases b with ⟨⟨_, _⟩, others⟩
  rcases hLeaves with ⟨hKey, rfl, rfl, hHosted⟩
  have hSame : hosted = others :=
    HostedSettings.eq_of_leaves
      (List.forall_mem_cons.mpr ⟨hKey, hHosted⟩)
  rw [hSame]

end InterpreterSettings

namespace DataSettings

/- The single settings of the data. -/
def leaves : List (Leaf DataSettings) :=
  [.named "directory" (Json.nullable Reading.lenient.text)
      directory Reading.isSteady_nullable_text,
    .named "simulated_latency_ms" Reading.lenient.word64
      simulatedLatencyMs Reading.isSteady_word64]

theorem holds_of_read?
    {json : Json}
    {data : DataSettings}
    (hRead : read? .lenient json = some data) :
    ∀ leaf ∈ leaves, leaf.Holds initial data json := by
  apply Leaf.forall_holds
  intro hJson
  unfold read? at hRead
  rcases Reading.slots_lenient _ hJson with hNone | hSlots
  · rw [hNone] at hRead
    cases hRead
  · simp only [hSlots, List.map_cons, List.map_nil,
      Option.bind_eq_bind, Option.bind_eq_some_iff] at hRead
    rcases hRead with
      ⟨directory, hDirectory, latency, hLatency, hData⟩
    cases hData
    simp only [leaves, List.forall_mem_cons]
    exact
      ⟨Leaf.holds_named hDirectory,
        Leaf.holds_named hLatency, List.forall_mem_nil _⟩

theorem eq_of_leaves
    {a b : DataSettings}
    (hLeaves : ∀ leaf ∈ leaves, leaf.get a = leaf.get b) :
    a = b := by
  simp only [leaves, List.forall_mem_cons,
    Leaf.named] at hLeaves
  rcases a with ⟨directory, latency⟩
  rcases b with ⟨_, _⟩
  rcases hLeaves with ⟨rfl, rfl, -⟩
  rfl

end DataSettings

namespace ObservabilitySettings

/- The single settings of observation. -/
def leaves : List (Leaf ObservabilitySettings) :=
  [.named "log_level" Reading.lenient.text logLevel
      Reading.isSteady_text,
    .named "log_json" Reading.lenient.bool logJson
      Reading.isSteady_bool,
    .named "metrics_enabled" Reading.lenient.bool
      metricsEnabled Reading.isSteady_bool]

theorem holds_of_read?
    {json : Json}
    {observability : ObservabilitySettings}
    (hRead : read? .lenient json = some observability) :
    ∀ leaf ∈ leaves,
      leaf.Holds initial observability json := by
  apply Leaf.forall_holds
  intro hJson
  unfold read? at hRead
  rcases Reading.slots_lenient _ hJson with hNone | hSlots
  · rw [hNone] at hRead
    cases hRead
  · simp only [hSlots, List.map_cons, List.map_nil,
      Option.bind_eq_bind, Option.bind_eq_some_iff] at hRead
    rcases hRead with
      ⟨level, hLevel, logJson, hLogJson, metrics, hMetrics,
        hObservability⟩
    cases hObservability
    simp only [leaves, List.forall_mem_cons]
    exact
      ⟨Leaf.holds_named hLevel, Leaf.holds_named hLogJson,
        Leaf.holds_named hMetrics, List.forall_mem_nil _⟩

theorem eq_of_leaves
    {a b : ObservabilitySettings}
    (hLeaves : ∀ leaf ∈ leaves, leaf.get a = leaf.get b) :
    a = b := by
  simp only [leaves, List.forall_mem_cons,
    Leaf.named] at hLeaves
  rcases a with ⟨level, logJson, metrics⟩
  rcases b with ⟨_, _, _⟩
  rcases hLeaves with ⟨rfl, rfl, rfl, -⟩
  rfl

end ObservabilitySettings

end Dashboard

------------------------------------------------------------
-- All Settings
------------------------------------------------------------

namespace Dashboard

namespace Settings

/- All single settings but the key of the hosted model. -/
def leaves : List (Leaf Settings) :=
  .named "environment" Reading.lenient.surroundings
      surroundings Reading.isSteady_surroundings ::
    ServerSettings.leaves.map (.inside "server" server) ++
    InterpreterSettings.leaves.map
      (.inside "interpreter" interpreter) ++
    DataSettings.leaves.map (.inside "data" data) ++
    ObservabilitySettings.leaves.map
      (.inside "observability" observability)

/- The key of the hosted model. -/
def keyLeaf : Leaf Settings :=
  InterpreterSettings.keyLeaf.inside "interpreter" interpreter

/-
  Settings that have been read are, each of them, what the
  table says, or else as in the settings that need no saying.
-/
theorem holds_of_read?
    {json : Json}
    {settings : Settings}
    (hRead : read? .lenient json = some settings) :
    ∀ leaf ∈ keyLeaf :: leaves,
      leaf.Holds initial settings json := by
  apply Leaf.forall_holds
  intro hJson
  unfold read? at hRead
  rcases Reading.slots_lenient _ hJson with hNone | hSlots
  · rw [hNone] at hRead
    cases hRead
  · simp only [hSlots, List.map_cons, List.map_nil,
      Option.bind_eq_bind, Option.bind_eq_some_iff] at hRead
    rcases hRead with
      ⟨surroundings, hSurroundings, server, hServer,
        interpreter, hInterpreter, data, hData,
        observability, hObservability, hSettings⟩
    cases hSettings
    simp only [leaves, List.cons_append,
      List.forall_mem_cons, List.forall_mem_append, and_assoc]
    refine
      ⟨Leaf.holds_inside hInterpreter ?_,
        Leaf.holds_named hSurroundings,
        Leaf.forall_holds_inside hServer
          ServerSettings.holds_of_read?,
        Leaf.forall_holds_inside hInterpreter ?_,
        Leaf.forall_holds_inside hData
          DataSettings.holds_of_read?,
        Leaf.forall_holds_inside hObservability
          ObservabilitySettings.holds_of_read?⟩
    · intro inner chosen hInner
      exact
        (List.forall_mem_cons.mp
          (InterpreterSettings.holds_of_read? hInner)).1
    · intro inner chosen hInner
      exact
        (List.forall_mem_cons.mp
          (InterpreterSettings.holds_of_read? hInner)).2

/-
  Nothing else is in settings: two that have all single
  settings in common are the same.
-/
theorem eq_of_leaves
    {a b : Settings}
    (hLeaves :
      ∀ leaf ∈ keyLeaf :: leaves, leaf.get a = leaf.get b) :
    a = b := by
  simp only [keyLeaf, leaves, List.forall_mem_cons,
    List.cons_append, List.forall_mem_append,
    List.forall_mem_map, and_assoc, Leaf.named] at hLeaves
  rcases hLeaves with
    ⟨hKey, hSurroundings, hServer, hInterpreter, hData,
      hObservability⟩
  have hServers : a.server = b.server :=
    ServerSettings.eq_of_leaves hServer
  have hInterpreters : a.interpreter = b.interpreter :=
    InterpreterSettings.eq_of_leaves
      (List.forall_mem_cons.mpr ⟨hKey, hInterpreter⟩)
  have hDatas : a.data = b.data :=
    DataSettings.eq_of_leaves hData
  have hWatched : a.observability = b.observability :=
    ObservabilitySettings.eq_of_leaves hObservability
  rcases a with ⟨surroundings, server, interpreter, data, o⟩
  rcases b with ⟨_, _, _, _, _⟩
  cases hSurroundings
  cases hServers
  cases hInterpreters
  cases hDatas
  cases hWatched
  rfl

end Settings

end Dashboard
