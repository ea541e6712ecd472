import Dashboard.Counter
import Dashboard.Hosted.Stage
import Dashboard.Prompt.Interpreter

/-
  Interpretation in two stages: by a hosted model, and by
  fixed rules when the model gives nothing of use.

  Key definitions include:
    * `Outcome`
    * `Service`
    * `Service.interpret`
    * `Service.interpretMany`
-/

------------------------------------------------------------
-- Outcomes
------------------------------------------------------------

namespace Dashboard

/- Which stage gave a result. -/
inductive Source where
  | hosted
  | ruleBased (reason : FallbackReason)
deriving DecidableEq, Repr

/- The label of a source in metrics. -/
def Source.label : Source → String
  | hosted => "hosted"
  | ruleBased _ => "rule_based"

/- A result, the stage that gave it, and what that counts. -/
structure Outcome (α : Type) where
  result : α
  source : Source
  counters : List Counter
deriving DecidableEq

namespace Outcome

variable {α : Type}

/- A result of the hosted stage. -/
def ofHosted (result : α) : Outcome α where
  result := result
  source := .hosted
  counters := [.interpretations "hosted"]

/- A result of the rules, which had to do for a reason. -/
def fallBack
    (reason : FallbackReason)
    (byRules : α) : Outcome α where
  result := byRules
  source := .ruleBased reason
  counters :=
    [.fallbacks reason.label, .interpretations "rule_based"]

/- The result of the hosted stage, or else of the rules. -/
def ofStages
    (hosted : Except FallbackReason α)
    (byRules : α) : Outcome α :=
  match hosted with
  | .ok result => ofHosted result
  | .error reason => fallBack reason byRules

end Outcome

end Dashboard

------------------------------------------------------------
-- The Service
------------------------------------------------------------

namespace Dashboard

/- The two stages of interpretation. -/
structure Service where
  hosted : HostedStage
  lexicon : Lexicon

namespace Service

/- The service that settings ask for. -/
def ofSettings
    (settings : InterpreterSettings)
    (exchange : Exchange) : Service where
  hosted := .ofSettings settings.hosted exchange
  lexicon := .ofVocabulary settings.vocabulary

/- The name of a service. -/
def name (service : Service) : String :=
  if service.hosted.isEnabled then "hosted" else "rule-based"

/- The one interpretation of a prompt. -/
def interpret
    (service : Service)
    (prompt : String) : Timed (Outcome Interpretation) :=
  let hosted := service.hosted.interpret prompt
  ⟨hosted.delay,
    .ofStages hosted.value
      (service.lexicon.interpret prompt)⟩

/- All interpretations of a prompt. -/
def interpretMany
    (service : Service)
    (prompt : String) :
    Timed (Outcome (List Interpretation)) :=
  let hosted := service.hosted.interpretAll prompt
  ⟨hosted.delay,
    .ofStages hosted.value
      (service.lexicon.interpretAll prompt)⟩

end Service

end Dashboard
