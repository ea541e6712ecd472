import Dashboard.Http.Header
import Dashboard.Json.RawShape
import Dashboard.Model.Exchange
import Dashboard.Model.Retry
import Dashboard.Settings.Writer
import Dashboard.Text.Blank

/-
  Models behind an endpoint for chat completions.

  Key definitions include:
    * `OpenAi`
    * `OpenAi.create`
    * `OpenAi.request`
    * `OpenAi.decode?`
    * `OpenAi.backend`
-/

------------------------------------------------------------
-- Access
------------------------------------------------------------

namespace Dashboard

/- The access to an endpoint for chat completions. -/
structure OpenAi where
  endpoint : String
  apiKey : String
  model : String
  maxTokens : UInt64
  temperature : Single
  topP : Single
  timeoutMs : Nat
  maxRetries : UInt32
  firstWaitMs : Nat
  organization : Option String
deriving DecidableEq

namespace OpenAi

/- The access that needs no saying. -/
def initial : OpenAi where
  endpoint :=
    "https://generativelanguage.googleapis.com/v1beta/openai"
  apiKey := ""
  model := "gemini-2.5-flash-lite"
  maxTokens := 2048
  temperature := .ofDecimal false ⟨1, -1⟩
  topP := .ofDecimal false ⟨9, -1⟩
  timeoutMs := 15000
  maxRetries := 2
  firstWaitMs := 200
  organization := none

/- The access to the usual endpoint with a key. -/
def gemini (apiKey model : String) : OpenAi :=
  { initial with apiKey := apiKey, model := model }

/- The access to an endpoint that needs no key. -/
def atLocal (endpoint model : String) : OpenAi :=
  { initial with
    endpoint := endpoint
    apiKey := "not-needed"
    model := model }

/- An endpoint on the same machine. -/
def isLocal (endpoint : String) : Bool :=
  "http://localhost".toList.isPrefixOf endpoint.toList ||
    "http://127.0.0.1".toList.isPrefixOf endpoint.toList

/- The check that an endpoint elsewhere comes with a key. -/
def create (access : OpenAi) : Except ModelError OpenAi :=
  if Text.blankOnly access.apiKey &&
      !isLocal access.endpoint then
    .error
      (.configuration "API key required for remote endpoints")
  else
    .ok access

end OpenAi

end Dashboard

------------------------------------------------------------
-- Requests
------------------------------------------------------------

namespace Dashboard

namespace ModelRequest

/- A text without the slashes at its end. -/
def withoutSlashes (endpoint : String) : String :=
  String.ofList
    (endpoint.toList.reverse.dropWhile (· == '/')).reverse

/- A header, unless its text may not stand in one. -/
def header (name text : String) : List (String × String) :=
  if HttpHeader.isLegal text then [(name, text)] else []

end ModelRequest

namespace OpenAi

/- The headers of a request. -/
def headers (access : OpenAi) : List (String × String) :=
  ModelRequest.header "authorization"
    ("Bearer " ++ access.apiKey) ++
    (match access.organization with
      | some organization =>
          ModelRequest.header "openai-organization"
            organization
      | none => []) ++
    [("content-type", "application/json")]

/- The body of a request. -/
def body (access : OpenAi) (messages : List Message) : Json :=
  .ofMembers
    [("model", .string access.model),
      ("messages", .ofList Message.toJson messages),
      ("max_tokens", .ofNat access.maxTokens.toNat),
      ("temperature", .ofSingle access.temperature),
      ("top_p", .ofSingle access.topP),
      ("stream", .bool false)]

/- The request for a conversation. -/
def request
    (access : OpenAi)
    (messages : List Message) : ModelRequest where
  method := "POST"
  url :=
    ModelRequest.withoutSlashes access.endpoint ++
      "/chat/completions"
  headers := access.headers
  body := some (access.body messages)

/- The request that shows whether a model can be reached. -/
def probeRequest (access : OpenAi) : ModelRequest where
  method := "GET"
  url :=
    ModelRequest.withoutSlashes access.endpoint ++ "/models"
  headers := access.headers
  body := none

end OpenAi

end Dashboard

------------------------------------------------------------
-- Answers
------------------------------------------------------------

namespace Dashboard

namespace OpenAi

/- One of the texts that a model offers. -/
structure Choice where
  content : String
  finish : Option String
deriving DecidableEq, Repr

/- What an answer holds. -/
structure Completion where
  choices : List Choice
  tokens : Option Nat
deriving DecidableEq, Repr

/- The text of a message; `null` is an empty one. -/
def contentOf? (raw : RawJson) : Option String :=
  match raw.slots? ["content"] with
  | some [content] =>
      (content.defaulted none
        (RawJson.nullable RawJson.string?)).map
        (·.getD "")
  | _ => none

/- A choice of an answer. -/
def choiceOf? (raw : RawJson) : Option Choice :=
  match raw.slots? ["message", "finish_reason"] with
  | some [message, finish] => do
      let content ← message.required contentOf?
      let finish ←
        finish.defaulted none
          (RawJson.nullable RawJson.string?)
      return ⟨content, finish⟩
  | _ => none

/- The number of tokens of an answer. -/
def usageOf? (raw : RawJson) : Option Nat :=
  match raw.slots? ["completion_tokens"] with
  | some [tokens] => tokens.required (RawJson.natural? 64)
  | _ => none

/- What the text of an answer holds. -/
def decode? (text : String) : Option Completion := do
  let raw ← RawJson.read? text.toList
  match raw.slots? ["choices", "usage"] with
  | some [choices, usage] => do
      let choices ←
        choices.required (RawJson.list? choiceOf?)
      let usage ←
        usage.defaulted none (RawJson.nullable usageOf?)
      return ⟨choices, usage⟩
  | _ => none

/- Why a model stopped, by its own word. -/
def finishOf : Option String → Finish
  | some "length" => .length
  | some "error" => .error
  | _ => .stop

/- The first text that an answer offers. -/
def generationOf
    (completion : Completion) :
    Except ModelError Generation :=
  match completion.choices with
  | [] =>
      .error (.invalidResponse "No choices in response")
  | choice :: _ =>
      .ok
        ⟨choice.content, completion.tokens.getD 0,
          finishOf choice.finish⟩

end OpenAi

end Dashboard

------------------------------------------------------------
-- Backends
------------------------------------------------------------

namespace Dashboard

namespace OpenAi

/- How long to wait for whether a model can be reached. -/
def probeMs : Nat := 5000

/- The model behind an access. -/
def backend
    (access : OpenAi)
    (exchange : Exchange) : Backend where
  model := access.model
  generate := fun messages =>
    let attempts :=
      withRetries access.maxRetries.toNat access.firstWaitMs
        (exchange.ask access.timeoutMs decode?
          (access.request messages))
    ⟨attempts.toTimed.delay,
      attempts.outcome.bind generationOf⟩
  probe := exchange.reaches probeMs access.probeRequest

end OpenAi

end Dashboard
