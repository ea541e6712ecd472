import Dashboard.Json.Shape
import Dashboard.Schema

/-
  Conversations with a language model.

  Key definitions include:
    * `Message`
    * `ReplyMode`
    * `Conversation.instructions`
    * `Conversation.about`
-/

------------------------------------------------------------
-- Messages
------------------------------------------------------------

namespace Dashboard

/- Who says something in a conversation. -/
inductive Role where
  | system
  | user
  | assistant
deriving DecidableEq, Repr

namespace Role

/- The name of a role. -/
def name : Role → String
  | system => "system"
  | user => "user"
  | assistant => "assistant"

/- The role that a JSON value names. -/
def ofJson? (json : Json) : Option Role :=
  json.name?.bind fun name =>
    [system, user, assistant].find? fun r => r.name == name

end Role

/- What somebody says in a conversation. -/
structure Message where
  role : Role
  content : String
deriving DecidableEq, Repr

namespace Message

/- A message as a JSON value. -/
def toJson (message : Message) : Json :=
  .ofMembers
    [("role", .string message.role.name),
      ("content", .string message.content)]

/- The message of a JSON value. -/
def ofJson? (json : Json) : Option Message :=
  match json.slots? ["role", "content"] with
  | some [role, content] => do
      let role ← role.required Role.ofJson?
      let content ← content.required Json.string?
      return ⟨role, content⟩
  | _ => none

end Message

/- Whether one component is asked for or several. -/
inductive ReplyMode where
  | single
  | multi
deriving DecidableEq, Repr

end Dashboard

------------------------------------------------------------
-- Instructions
------------------------------------------------------------

namespace Dashboard

namespace Conversation

/- The components in the instructions. -/
def components : String :=
  "Available component types:\n" ++
    "- chart: For visualizing trends and comparisons " ++
    "(bar, line, or area)\n" ++
    "- table: For displaying detailed data in rows and " ++
    "columns\n" ++
    "- card: For showing summary statistics and KPIs"

/- The operators in the instructions. -/
def operators : String :=
  "Filter operators:\n" ++
    "- gt: greater than\n" ++
    "- gte: greater than or equal\n" ++
    "- lt: less than\n" ++
    "- lte: less than or equal\n" ++
    "- eq: equals\n" ++
    "- contains: string contains"

/- The fields of an object in the instructions. -/
def objectFields : String :=
  "- componentType: \"chart\", \"table\", or \"card\"\n" ++
    "- datasetType: \"sales\", \"users\", or " ++
    "\"products\"\n" ++
    "- chartType: \"bar\", \"line\", or \"area\" " ++
    "(only if componentType is \"chart\")\n" ++
    "- filters: array of filter objects with field, " ++
    "operator, value (only if user wants filtered data)\n" ++
    "- title: A short title for the component\n" ++
    "- description: A brief description"

/- The task in the instructions. -/
def task : ReplyMode → String
  | .single =>
      "Interpret the user's request and determine which UI " ++
        "component, dataset, and filters to apply."
  | .multi =>
      "Interpret the user's request and determine which UI " ++
        "components, datasets, and filters to apply.\n" ++
        "The user may be requesting MULTIPLE components. " ++
        "If so, return MULTIPLE JSON objects " ++
        "(one per line, no array wrapper)."

/- The form of the reply in the instructions. -/
def form : ReplyMode → String
  | .single =>
      "Respond ONLY with a valid JSON object (no markdown, " ++
        "no code blocks, no explanation) containing:\n" ++
        objectFields
  | .multi =>
      "Respond ONLY with valid JSON objects (no markdown, " ++
        "no code blocks, no explanation).\n" ++
        "If the request is for multiple " ++
        "components/datasets, return one JSON object per " ++
        "line.\n" ++
        "Each JSON object should contain:\n" ++
        objectFields

/- What the model is told before the request. -/
def instructions (mode : ReplyMode) : Message :=
  ⟨.system,
    "You are a dashboard AI assistant. " ++ task mode ++
      "\n\n" ++ schemaText ++ "\n" ++ components ++ "\n\n" ++
      operators ++ "\n\n" ++ form mode⟩

/- The conversation about a request. -/
def about
    (mode : ReplyMode)
    (request : String) : List Message :=
  [instructions mode,
    ⟨.user, "User request: " ++ request⟩]

end Conversation

end Dashboard
