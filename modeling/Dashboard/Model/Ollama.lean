import Dashboard.Model.OpenAi

/-
  Models on a local Ollama server.

  Key definitions include:
    * `Ollama`
    * `Ollama.request`
    * `Ollama.decode?`
    * `Ollama.backend`
-/

------------------------------------------------------------
-- Access
------------------------------------------------------------

namespace Dashboard

/- The access to a local server. -/
structure Ollama where
  model : String
  endpoint : String
  maxTokens : UInt64
  temperature : Single
  topP : Single
  timeoutMs : Nat
  maxRetries : UInt32
  firstWaitMs : Nat
  keepAlive : String
deriving DecidableEq

/- The access that needs no saying. -/
def Ollama.initial : Ollama where
  model := "qwen2.5:3b-instruct"
  endpoint := "http://localhost:11434"
  maxTokens := 2048
  temperature := .ofDecimal false ⟨1, -1⟩
  topP := .ofDecimal false ⟨9, -1⟩
  timeoutMs := 15000
  maxRetries := 2
  firstWaitMs := 200
  keepAlive := "5m"

end Dashboard

------------------------------------------------------------
-- Requests
------------------------------------------------------------

namespace Dashboard

namespace Ollama

/- The address of a service of the server. -/
def url (access : Ollama) (service : String) : String :=
  ModelRequest.withoutSlashes access.endpoint ++ "/api" ++
    service

/-
  The greatest number of tokens in a request: the low 32 bits
  of the number that is asked for, with a sign.
-/
def tokenLimit (maxTokens : UInt64) : Int :=
  Int.bmod maxTokens.toNat 0x100000000

/- The body of a request. -/
def body (access : Ollama) (messages : List Message) : Json :=
  .ofMembers
    [("model", .string access.model),
      ("messages", .ofList Message.toJson messages),
      ("stream", .bool false),
      ("format", .string "json"),
      ("options",
        .ofMembers
          [("temperature", .ofSingle access.temperature),
            ("top_p", .ofSingle access.topP),
            ("num_predict",
              .ofInt (tokenLimit access.maxTokens))]),
      ("keep_alive", .string access.keepAlive)]

/- The request for a conversation. -/
def request
    (access : Ollama)
    (messages : List Message) : ModelRequest where
  method := "POST"
  url := access.url "/chat"
  headers := [("content-type", "application/json")]
  body := some (access.body messages)

/- The request that shows whether a model can be reached. -/
def probeRequest (access : Ollama) : ModelRequest where
  method := "GET"
  url := access.url "/tags"
  headers := []
  body := none

end Ollama

end Dashboard

------------------------------------------------------------
-- Answers
------------------------------------------------------------

namespace Dashboard

namespace Ollama

/- The text of a message that names its role. -/
def contentOf? (raw : RawJson) : Option String :=
  match raw.slots? ["role", "content"] with
  | some [role, content] => do
      let _ ← role.required RawJson.string?
      content.defaulted "" RawJson.string?
  | _ => none

/- What the text of an answer holds. -/
def decode? (text : String) : Option Generation := do
  let raw ← RawJson.read? text.toList
  match raw.slots? ["message", "done", "eval_count"] with
  | some [message, done, count] => do
      let content ← message.required contentOf?
      let done ← done.required RawJson.bool?
      let count ←
        count.defaulted none
          (RawJson.nullable (RawJson.natural? 64))
      return ⟨content, count.getD 0,
        if done then .stop else .length⟩
  | _ => none

end Ollama

end Dashboard

------------------------------------------------------------
-- Backends
------------------------------------------------------------

namespace Dashboard

namespace Ollama

/- The model behind an access. -/
def backend
    (access : Ollama)
    (exchange : Exchange) : Backend where
  model := access.model
  generate := fun messages =>
    (withRetries access.maxRetries.toNat access.firstWaitMs
      (exchange.ask access.timeoutMs decode?
        (access.request messages))).toTimed
  probe :=
    exchange.reaches access.timeoutMs access.probeRequest

end Ollama

end Dashboard
