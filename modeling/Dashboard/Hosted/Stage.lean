import Dashboard.Model.Provider
import Dashboard.Reply.Reader

/-
  Interpretation by a hosted model.

  Key definitions include:
    * `Malformation` and `FallbackReason`
    * `HostedStage`
    * `HostedStage.ofSettings`
    * `HostedStage.interpret`
    * `HostedStage.interpretAll`
-/

------------------------------------------------------------
-- Reasons
------------------------------------------------------------

namespace Dashboard

/-
  What is malformed: the response of a model, or the text
  that the model wrote.
-/
inductive Malformation where
  | response (reason : String)
  | reply (e : ReplyError)
deriving DecidableEq, Repr

/- The malformation in words. -/
def Malformation.message
    (explain : String → String) : Malformation → String
  | response reason => reason
  | reply e => e.message explain

/- Why a hosted model gave nothing of use. -/
inductive FallbackReason where
  | disabled
  | timeout
  | transport (cause : ModelError)
  | malformed (what : Malformation)
  | mismatch (issues : List String)
deriving DecidableEq, Repr

namespace FallbackReason

/- The label of a reason in metrics. -/
def label : FallbackReason → String
  | disabled => "disabled"
  | timeout => "timeout"
  | transport _ => "transport"
  | malformed _ => "malformed_response"
  | mismatch _ => "schema_mismatch"

/- The reason in words. -/
def message
    (explain : String → String) : FallbackReason → String
  | disabled => "hosted interpretation disabled"
  | timeout => "hosted interpretation timed out"
  | transport cause => "transport error: " ++ cause.message
  | malformed what =>
      "malformed response: " ++ what.message explain
  | mismatch issues =>
      "schema mismatch: " ++ ReplyError.issuesText issues

/- The reason that a failure of a model gives. -/
def ofModelError : ModelError → FallbackReason
  | .timeout => timeout
  | .invalidResponse reason => malformed (.response reason)
  | .configuration _ => disabled
  | cause => transport cause

/- The reason that a reply without interpretations gives. -/
def ofReplyError : ReplyError → FallbackReason
  | .mismatch issues => mismatch issues
  | e => malformed (.reply e)

end FallbackReason

end Dashboard

------------------------------------------------------------
-- The Stage
------------------------------------------------------------

namespace Dashboard

/-
  The hosted stage of interpretation: nothing, or a model
  with a deadline in milliseconds.
-/
inductive HostedStage where
  | disabled
  | enabled (backend : Backend) (deadlineMs : Nat)

namespace HostedStage

/-
  The stage that settings ask for.  Without a model that can
  be asked there is none.
-/
def ofSettings
    (settings : HostedSettings)
    (exchange : Exchange) : HostedStage :=
  if settings.enabled then
    match settings.backend exchange with
    | .ok backend =>
        enabled backend settings.timeoutMs.toNat
    | .error _ => disabled
  else
    disabled

/- Whether there is a model to ask. -/
def isEnabled : HostedStage → Bool
  | disabled => false
  | enabled .. => true

/- The name of the model, if there is one. -/
def model? : HostedStage → Option String
  | disabled => none
  | enabled backend _ => some backend.model

/- Whether the model can be reached. -/
def probe : HostedStage → Timed Bool
  | disabled => ⟨0, false⟩
  | enabled backend _ => backend.probe

/- What the model writes about a prompt, in time. -/
def complete
    (stage : HostedStage)
    (mode : ReplyMode)
    (prompt : String) :
    Timed (Except FallbackReason String) :=
  match stage with
  | disabled => ⟨0, .error .disabled⟩
  | enabled backend deadlineMs =>
      let answer :=
        backend.generate (Conversation.about mode prompt)
      match answer.within deadlineMs with
      | none => ⟨deadlineMs, .error .timeout⟩
      | some (.error e) =>
          ⟨answer.delay, .error (.ofModelError e)⟩
      | some (.ok generation) =>
          ⟨answer.delay, .ok generation.text⟩

/- What a reader finds in the text of a model. -/
def readText
    {α : Type}
    (read : String → Except ReplyError α)
    (text : Except FallbackReason String) :
    Except FallbackReason α :=
  match text with
  | .error reason => .error reason
  | .ok written =>
      (read written).mapError FallbackReason.ofReplyError

/- The interpretation of a prompt by the model. -/
def interpret
    (stage : HostedStage)
    (prompt : String) :
    Timed (Except FallbackReason Interpretation) :=
  let text := stage.complete .single prompt
  ⟨text.delay, readText Reply.readSingle text.value⟩

/- All interpretations of a prompt by the model. -/
def interpretAll
    (stage : HostedStage)
    (prompt : String) :
    Timed (Except FallbackReason (List Interpretation)) :=
  let text := stage.complete .multi prompt
  ⟨text.delay, readText Reply.readMulti text.value⟩

end HostedStage

end Dashboard
