import Dashboard.Model.Ollama

/-
  The providers of hosted models.

  Key definitions include:
    * `Provider`
    * `Provider.named`
    * `HostedSettings.backend`
-/

------------------------------------------------------------
-- Providers
------------------------------------------------------------

namespace Dashboard

/- Who provides a hosted model. -/
inductive Provider where
  | openAi
  | ollama
deriving DecidableEq, Repr

namespace Provider

/- The provider of a name in either case. -/
def named (name : String) : Except ModelError Provider :=
  let lower := Text.lower name
  if lower = "openai" || lower = "gemini" then
    .ok openAi
  else if lower = "ollama" || lower = "local" then
    .ok ollama
  else
    .error (.configuration ("Unknown provider: " ++ lower))

end Provider

end Dashboard

------------------------------------------------------------
-- Backends
------------------------------------------------------------

namespace Dashboard

namespace HostedSettings

/- The access to chat completions that settings ask for. -/
def openAi (settings : HostedSettings) : OpenAi :=
  let base := OpenAi.initial
  { base with
    model := settings.model
    maxTokens := settings.maxTokens.toUInt64
    temperature := settings.temperature
    timeoutMs := settings.timeoutMs.toNat
    maxRetries := settings.maxRetries
    endpoint := settings.endpoint.getD base.endpoint
    apiKey := settings.apiKey.getD base.apiKey }

/- The access to a local server that settings ask for. -/
def ollama (settings : HostedSettings) : Ollama :=
  let base := Ollama.initial
  { base with
    model := settings.model
    maxTokens := settings.maxTokens.toUInt64
    temperature := settings.temperature
    timeoutMs := settings.timeoutMs.toNat
    maxRetries := settings.maxRetries
    endpoint := settings.endpoint.getD base.endpoint }

/- The model that settings ask for. -/
def backend
    (settings : HostedSettings)
    (exchange : Exchange) : Except ModelError Backend :=
  match Provider.named settings.provider with
  | .error e => .error e
  | .ok .openAi =>
      settings.openAi.create.map fun access =>
        access.backend exchange
  | .ok .ollama => .ok (settings.ollama.backend exchange)

end HostedSettings

end Dashboard
