import Dashboard.Json.Basic
import Dashboard.Number.Notation
import Dashboard.Settings.Basic

/-
  Settings as JSON values.

  Key definitions include:
    * `Json.ofSingle`
    * `Settings.toJson`
-/

------------------------------------------------------------
-- Single Precision
------------------------------------------------------------

namespace Dashboard

/-
  A number of single precision as the number of double
  precision with the same shortest decimal.
-/
def Binary.widen : Single → Double
  | .finite negative units _ =>
      if units = 0 then
        .ofUnits negative 0
      else
        .ofDecimal negative
          (FloatFormat.single.shortest .toEven units)
  | .infinite negative => .infinite negative
  | .notANumber => .notANumber

/- A number of single precision as a JSON value. -/
def Json.ofSingle (x : Single) : Json :=
  .ofDouble x.widen

end Dashboard

------------------------------------------------------------
-- Settings
------------------------------------------------------------

namespace Dashboard

/- A phrase for a field as a JSON value. -/
def Synonym.toJson (synonym : Synonym) : Json :=
  .ofMembers
    [("keyword", .string synonym.phrase),
      ("field", .string synonym.field),
      ("dataset", .string synonym.dataset.name)]

/- A word for a dataset as a JSON value. -/
def DatasetWord.toJson (entry : DatasetWord) : Json :=
  .ofMembers
    [("keyword", .string entry.word),
      ("dataset", .string entry.dataset.name)]

/- The settings of the server as a JSON value. -/
def ServerSettings.toJson (server : ServerSettings) : Json :=
  .ofMembers
    [("host", .string server.host),
      ("port", .ofNat server.port.toNat),
      ("timeout_seconds",
        .ofNat server.timeoutSeconds.toNat),
      ("cors_enabled", .bool server.corsEnabled),
      ("cors_origins", .ofList .string server.corsOrigins)]

/- The settings of the hosted model as a JSON value. -/
def HostedSettings.toJson (hosted : HostedSettings) : Json :=
  .ofMembers
    [("enabled", .bool hosted.enabled),
      ("provider", .string hosted.provider),
      ("endpoint", .ofOption .string hosted.endpoint),
      ("model", .string hosted.model),
      ("api_key", .ofOption .string hosted.apiKey),
      ("max_retries", .ofNat hosted.maxRetries.toNat),
      ("timeout_ms", .ofNat hosted.timeoutMs.toNat),
      ("temperature", .ofSingle hosted.temperature),
      ("max_tokens", .ofNat hosted.maxTokens.toNat)]

/- The settings of interpretation as a JSON value. -/
def InterpreterSettings.toJson
    (interpreter : InterpreterSettings) : Json :=
  .ofMembers
    [("field_synonyms",
        .ofList Synonym.toJson
          interpreter.vocabulary.synonyms),
      ("dataset_keywords",
        .ofList DatasetWord.toJson
          interpreter.vocabulary.datasetWords),
      ("hosted", interpreter.hosted.toJson)]

/- The settings of the data as a JSON value. -/
def DataSettings.toJson (data : DataSettings) : Json :=
  .ofMembers
    [("directory", .ofOption .string data.directory),
      ("simulated_latency_ms",
        .ofNat data.simulatedLatencyMs.toNat)]

/- The settings of observation as a JSON value. -/
def ObservabilitySettings.toJson
    (observability : ObservabilitySettings) : Json :=
  .ofMembers
    [("log_level", .string observability.logLevel),
      ("log_json", .bool observability.logJson),
      ("metrics_enabled",
        .bool observability.metricsEnabled)]

/- All settings as a JSON value. -/
def Settings.toJson (settings : Settings) : Json :=
  .ofMembers
    [("environment", .string settings.surroundings.name),
      ("server", settings.server.toJson),
      ("interpreter", settings.interpreter.toJson),
      ("data", settings.data.toJson),
      ("observability", settings.observability.toJson)]

end Dashboard
