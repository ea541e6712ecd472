import Dashboard.Error
import Dashboard.Lexicon
import Dashboard.Number.Notation
import Dashboard.Text.Blank

/-
  The settings of the program.

  Key definitions include:
    * `Settings`
    * `Settings.initial`
    * `Settings.check`
-/

------------------------------------------------------------
-- Sections
------------------------------------------------------------

namespace Dashboard

/- The surroundings that the program runs in. -/
inductive Surroundings where
  | development
  | staging
  | production
deriving DecidableEq, Repr

namespace Surroundings

/- All surroundings. -/
def all : List Surroundings :=
  [development, staging, production]

/- The name of the surroundings. -/
def name : Surroundings → String
  | development => "development"
  | staging => "staging"
  | production => "production"

/- The surroundings of a name, which has to be exact. -/
def ofName? (name : String) : Option Surroundings :=
  all.find? fun s => s.name == name

end Surroundings

/-
  The settings of the server.  The timeout is in seconds.
-/
structure ServerSettings where
  host : String
  port : UInt16
  timeoutSeconds : UInt64
  corsEnabled : Bool
  corsOrigins : List String
deriving DecidableEq, Repr

/-
  The settings of the hosted model.  The timeout is in
  milliseconds and covers all attempts.
-/
structure HostedSettings where
  enabled : Bool
  provider : String
  endpoint : Option String
  model : String
  apiKey : Option String
  maxRetries : UInt32
  timeoutMs : UInt64
  temperature : Single
  maxTokens : UInt32
deriving DecidableEq

/- The settings of the interpretation of prompts. -/
structure InterpreterSettings where
  vocabulary : Vocabulary
  hosted : HostedSettings
deriving DecidableEq

/-
  The settings of the data.  Without a directory the bundled
  datasets are used.
-/
structure DataSettings where
  directory : Option String
  simulatedLatencyMs : UInt64
deriving DecidableEq, Repr

/- The settings of what can be observed. -/
structure ObservabilitySettings where
  logLevel : String
  logJson : Bool
  metricsEnabled : Bool
deriving DecidableEq, Repr

/- All settings. -/
structure Settings where
  surroundings : Surroundings
  server : ServerSettings
  interpreter : InterpreterSettings
  data : DataSettings
  observability : ObservabilitySettings
deriving DecidableEq

end Dashboard

------------------------------------------------------------
-- Initial Settings
------------------------------------------------------------

namespace Dashboard

/- The settings of the server that need no saying. -/
def ServerSettings.initial : ServerSettings where
  host := "0.0.0.0"
  port := 8080
  timeoutSeconds := 30
  corsEnabled := true
  corsOrigins := []

/- The settings of the hosted model that need no saying. -/
def HostedSettings.initial : HostedSettings where
  enabled := true
  provider := "openai"
  endpoint := none
  model := "gemini-2.5-flash-lite"
  apiKey := none
  maxRetries := 2
  timeoutMs := 15000
  temperature := .ofDecimal false ⟨1, -1⟩
  maxTokens := 2048

/- The settings of interpretation that need no saying. -/
def InterpreterSettings.initial : InterpreterSettings where
  vocabulary := ⟨[], []⟩
  hosted := .initial

/- The settings of the data that need no saying. -/
def DataSettings.initial : DataSettings where
  directory := none
  simulatedLatencyMs := 0

/- The settings of observation that need no saying. -/
def ObservabilitySettings.initial :
    ObservabilitySettings where
  logLevel := "info"
  logJson := false
  metricsEnabled := true

namespace Settings

/- The settings that need no saying. -/
def initial : Settings where
  surroundings := .development
  server := .initial
  interpreter := .initial
  data := .initial
  observability := .initial

/- Whether the program runs in production. -/
def inProduction (settings : Settings) : Bool :=
  settings.surroundings == .production

end Settings

end Dashboard

------------------------------------------------------------
-- Validity
------------------------------------------------------------

namespace Dashboard

/- The providers that settings may name. -/
def HostedSettings.providers : List String :=
  ["openai", "ollama"]

/- The origin that is allowed when none is configured. -/
def ServerSettings.defaultOrigin : String :=
  "http://localhost:3000"

namespace Settings

/- A condition that a setting has to fulfil. -/
def require
    (holds : Bool)
    (field reason : String) :
    Except SettingsError Unit :=
  if holds then
    .ok ()
  else
    .error (.invalidValue field reason)

/- The check of the settings of the server. -/
def checkServer (server : ServerSettings) :
    Except SettingsError Unit := do
  require (server.port != 0) "server.port"
    "Port cannot be 0"
  require (server.timeoutSeconds != 0)
    "server.timeout_seconds"
    "Timeout must be at least 1 second"

/- Whether a temperature lies between zero and two. -/
def isTemperature (temperature : Single) : Bool :=
  Binary.zero.atMost temperature &&
    temperature.atMost (.ofNat 2)

/- The check of the settings of the hosted model. -/
def checkHosted (hosted : HostedSettings) :
    Except SettingsError Unit := do
  require
    (HostedSettings.providers.contains hosted.provider)
    "interpreter.hosted.provider"
    ("Unknown provider '" ++ hosted.provider ++
      "', expected one of: " ++
      ", ".intercalate HostedSettings.providers)
  require (hosted.timeoutMs != 0)
    "interpreter.hosted.timeout_ms"
    "Timeout must be at least 1 ms"
  require (isTemperature hosted.temperature)
    "interpreter.hosted.temperature"
    ("Must be between 0.0 and 2.0, got " ++
      hosted.temperature.prose)
  require (hosted.maxTokens != 0)
    "interpreter.hosted.max_tokens" "Must be at least 1"

/- A phrase or a field that is blank. -/
def isBlankSynonym (synonym : Synonym) : Bool :=
  Text.blankOnly synonym.phrase ||
    Text.blankOnly synonym.field

/- A text that is exactly one word. -/
def isSingleWord (text : String) : Bool :=
  (Text.words text.toList).length == 1

/- The check of the words that extend the vocabulary. -/
def checkDatasetWords :
    List DatasetWord → Except SettingsError Unit
  | [] => .ok ()
  | entry :: rest => do
      require (isSingleWord entry.word)
        "interpreter.dataset_keywords"
        ("'" ++ entry.word ++ "' must be a single word")
      checkDatasetWords rest

/- The check of what extends the vocabulary. -/
def checkVocabulary (vocabulary : Vocabulary) :
    Except SettingsError Unit := do
  require (!vocabulary.synonyms.any isBlankSynonym)
    "interpreter.field_synonyms"
    "Keyword and field must not be empty"
  checkDatasetWords vocabulary.datasetWords

/- The check that settings are valid. -/
def check (settings : Settings) :
    Except SettingsError Unit := do
  checkServer settings.server
  checkHosted settings.interpreter.hosted
  checkVocabulary settings.interpreter.vocabulary

end Settings

end Dashboard
