import Dashboard.Interpretation.Wire
import Dashboard.Settings.Basic

/-
  Reading settings out of JSON values.

  Key definitions include:
    * `Reading`
    * `Reading.strict`
    * `Settings.read?`
    * `Settings.ofJson?`

  What settings consist of is said once, for every way to
  read plain values.
-/

------------------------------------------------------------
-- Ways To Read
------------------------------------------------------------

namespace Dashboard

/-
  A way to read plain values: truth values, natural numbers
  of at most so many bits, numbers, texts, one of some names,
  and the fields of a structure.
-/
structure Reading where
  bool : Json → Option Bool
  natural : Nat → Json → Option Nat
  single : Json → Option Single
  text : Json → Option String
  name : List String → Json → Option String
  slots : List String → Json → Option (List (Slot Json))

namespace Reading

/- The name of a case, which has to be exact. -/
def exactName
    (allowed : List String)
    (json : Json) : Option String :=
  json.name?.filter fun name => allowed.contains name

/- Every value is what it says it is. -/
def strict : Reading where
  bool := Json.bool?
  natural := Json.natural?
  single := Json.single?
  text := Json.string?
  name := exactName
  slots := Json.slots?

variable (reading : Reading)

/- A natural number of sixteen bits. -/
def word16 (json : Json) : Option UInt16 :=
  (reading.natural 16 json).map Nat.toUInt16

/- A natural number of 32 bits. -/
def word32 (json : Json) : Option UInt32 :=
  (reading.natural 32 json).map Nat.toUInt32

/- A natural number of 64 bits. -/
def word64 (json : Json) : Option UInt64 :=
  (reading.natural 64 json).map Nat.toUInt64

/- The name of a dataset. -/
def dataset (json : Json) : Option Dataset :=
  (reading.name (Dataset.all.map Dataset.name) json).bind
    Dataset.ofName?

/- The name of surroundings. -/
def surroundings (json : Json) : Option Surroundings :=
  (reading.name (Surroundings.all.map Surroundings.name)
    json).bind Surroundings.ofName?

end Reading

end Dashboard

------------------------------------------------------------
-- Sections
------------------------------------------------------------

namespace Dashboard

/- A phrase for a field. -/
def Synonym.read?
    (reading : Reading)
    (json : Json) : Option Synonym :=
  match reading.slots ["keyword", "field", "dataset"] json with
  | some [keyword, field, dataset] => do
      let keyword ← keyword.required reading.text
      let field ← field.required reading.text
      let dataset ← dataset.required reading.dataset
      return ⟨keyword, field, dataset⟩
  | _ => none

/- A word for a dataset. -/
def DatasetWord.read?
    (reading : Reading)
    (json : Json) : Option DatasetWord :=
  match reading.slots ["keyword", "dataset"] json with
  | some [keyword, dataset] => do
      let keyword ← keyword.required reading.text
      let dataset ← dataset.required reading.dataset
      return ⟨keyword, dataset⟩
  | _ => none

/- The settings of the server. -/
def ServerSettings.read?
    (reading : Reading)
    (json : Json) : Option ServerSettings :=
  let base := ServerSettings.initial
  match reading.slots
    ["host", "port", "timeout_seconds", "cors_enabled",
      "cors_origins"] json
  with
  | some [host, port, timeout, enabled, origins] => do
      let host ← host.defaulted base.host reading.text
      let port ← port.defaulted base.port reading.word16
      let timeout ←
        timeout.defaulted base.timeoutSeconds reading.word64
      let enabled ←
        enabled.defaulted base.corsEnabled reading.bool
      let origins ←
        origins.defaulted base.corsOrigins
          (Json.list? reading.text)
      return ⟨host, port, timeout, enabled, origins⟩
  | _ => none

/- The settings of the hosted model. -/
def HostedSettings.read?
    (reading : Reading)
    (json : Json) : Option HostedSettings :=
  let base := HostedSettings.initial
  match reading.slots
    ["enabled", "provider", "endpoint", "model", "api_key",
      "max_retries", "timeout_ms", "temperature",
      "max_tokens"] json
  with
  | some
      [enabled, provider, endpoint, model, apiKey, retries,
        timeout, temperature, tokens] => do
      let enabled ←
        enabled.defaulted base.enabled reading.bool
      let provider ←
        provider.defaulted base.provider reading.text
      let endpoint ←
        endpoint.defaulted base.endpoint
          (Json.nullable reading.text)
      let model ← model.defaulted base.model reading.text
      let apiKey ←
        apiKey.defaulted base.apiKey
          (Json.nullable reading.text)
      let retries ←
        retries.defaulted base.maxRetries reading.word32
      let timeout ←
        timeout.defaulted base.timeoutMs reading.word64
      let temperature ←
        temperature.defaulted base.temperature reading.single
      let tokens ←
        tokens.defaulted base.maxTokens reading.word32
      return ⟨enabled, provider, endpoint, model, apiKey,
        retries, timeout, temperature, tokens⟩
  | _ => none

/- The settings of interpretation. -/
def InterpreterSettings.read?
    (reading : Reading)
    (json : Json) : Option InterpreterSettings :=
  let base := InterpreterSettings.initial
  match reading.slots
    ["field_synonyms", "dataset_keywords", "hosted"] json
  with
  | some [synonyms, words, hosted] => do
      let synonyms ←
        synonyms.defaulted base.vocabulary.synonyms
          (Json.list? (Synonym.read? reading))
      let words ←
        words.defaulted base.vocabulary.datasetWords
          (Json.list? (DatasetWord.read? reading))
      let hosted ←
        hosted.defaulted base.hosted
          (HostedSettings.read? reading)
      return ⟨⟨synonyms, words⟩, hosted⟩
  | _ => none

/- The settings of the data. -/
def DataSettings.read?
    (reading : Reading)
    (json : Json) : Option DataSettings :=
  let base := DataSettings.initial
  match reading.slots
    ["directory", "simulated_latency_ms"] json
  with
  | some [directory, latency] => do
      let directory ←
        directory.defaulted base.directory
          (Json.nullable reading.text)
      let latency ←
        latency.defaulted base.simulatedLatencyMs
          reading.word64
      return ⟨directory, latency⟩
  | _ => none

/- The settings of observation. -/
def ObservabilitySettings.read?
    (reading : Reading)
    (json : Json) : Option ObservabilitySettings :=
  let base := ObservabilitySettings.initial
  match reading.slots
    ["log_level", "log_json", "metrics_enabled"] json
  with
  | some [level, logJson, metrics] => do
      let level ← level.defaulted base.logLevel reading.text
      let logJson ←
        logJson.defaulted base.logJson reading.bool
      let metrics ←
        metrics.defaulted base.metricsEnabled reading.bool
      return ⟨level, logJson, metrics⟩
  | _ => none

end Dashboard

------------------------------------------------------------
-- Settings
------------------------------------------------------------

namespace Dashboard

namespace Settings

/- All settings, of which every one may be left out. -/
def read?
    (reading : Reading)
    (json : Json) : Option Settings :=
  let base := initial
  match reading.slots
    ["environment", "server", "interpreter", "data",
      "observability"] json
  with
  | some
      [surroundings, server, interpreter, data,
        observability] => do
      let surroundings ←
        surroundings.defaulted base.surroundings
          reading.surroundings
      let server ←
        server.defaulted base.server
          (ServerSettings.read? reading)
      let interpreter ←
        interpreter.defaulted base.interpreter
          (InterpreterSettings.read? reading)
      let data ←
        data.defaulted base.data (DataSettings.read? reading)
      let observability ←
        observability.defaulted base.observability
          (ObservabilitySettings.read? reading)
      return ⟨surroundings, server, interpreter, data,
        observability⟩
  | _ => none

/- The settings of a JSON value. -/
def ofJson? (json : Json) : Option Settings :=
  read? .strict json

end Settings

end Dashboard
