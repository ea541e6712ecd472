import Dashboard.Hosted.Service
import Dashboard.Proofs.Prompt.Interpreter
import Dashboard.Proofs.Reply.Reader

/-
  The two stages of interpretation together: the result is
  the hosted model's exactly when its reply can be read, and
  otherwise that of the rules with the reason for it.

  Main declarations:
    * `HostedStage.Answers` and `HostedStage.IsLate`
    * `HostedStage.Fails`
    * `Outcome.Settles`
    * `Service.interpretations_settle`
-/

------------------------------------------------------------
-- Answers
------------------------------------------------------------

namespace Dashboard

namespace HostedStage

/- The model answers before the deadline, in this way. -/
def Answers
    (stage : HostedStage)
    (mode : ReplyMode)
    (prompt : String)
    (answer : Except ModelError Generation) : Prop :=
  ∃ backend deadlineMs,
    stage = .enabled backend deadlineMs ∧
      (backend.generate
        (Conversation.about mode prompt)).delay ≤
          deadlineMs ∧
      (backend.generate
        (Conversation.about mode prompt)).value = answer

/- The deadline elapses before the model answers. -/
def IsLate
    (stage : HostedStage)
    (mode : ReplyMode)
    (prompt : String) : Prop :=
  ∃ backend deadlineMs,
    stage = .enabled backend deadlineMs ∧
      deadlineMs <
        (backend.generate
          (Conversation.about mode prompt)).delay

variable {stage : HostedStage}
variable {mode : ReplyMode} {prompt : String}

theorem absent_or_isLate_or_answers
    (stage : HostedStage)
    (mode : ReplyMode)
    (prompt : String) :
    stage = .disabled ∨ stage.IsLate mode prompt ∨
      ∃ answer, stage.Answers mode prompt answer := by
  cases stage with
  | disabled => exact Or.inl rfl
  | enabled backend deadlineMs =>
      right
      by_cases hInTime :
          (backend.generate
            (Conversation.about mode prompt)).delay ≤
              deadlineMs
      · right
        exact ⟨_, backend, deadlineMs, rfl, hInTime, rfl⟩
      · left
        exact
          ⟨backend, deadlineMs, rfl,
            Nat.lt_of_not_le hInTime⟩

theorem complete_of_isLate
    (hLate : stage.IsLate mode prompt) :
    (stage.complete mode prompt).value =
      .error .timeout := by
  rcases hLate with ⟨backend, deadlineMs, rfl, hDelay⟩
  simp [complete, Timed.within, Nat.not_le.mpr hDelay]

theorem complete_of_failure
    {e : ModelError}
    (hAnswer : stage.Answers mode prompt (.error e)) :
    (stage.complete mode prompt).value =
      .error (.ofModelError e) := by
  rcases hAnswer with
    ⟨backend, deadlineMs, rfl, hDelay, hValue⟩
  simp [complete, Timed.within, hDelay, hValue]

theorem complete_of_generation
    {generation : Generation}
    (hAnswer : stage.Answers mode prompt (.ok generation)) :
    (stage.complete mode prompt).value =
      .ok generation.text := by
  rcases hAnswer with
    ⟨backend, deadlineMs, rfl, hDelay, hValue⟩
  simp [complete, Timed.within, hDelay, hValue]

end HostedStage

end Dashboard

------------------------------------------------------------
-- Failures
------------------------------------------------------------

namespace Dashboard

namespace HostedStage

variable {α : Type}

/-
  The ways in which the hosted stage gives nothing, each with
  the reason that is recorded for it.
-/
inductive Fails
    (stage : HostedStage)
    (mode : ReplyMode)
    (prompt : String)
    (read : String → Except ReplyError α) :
    FallbackReason → Prop where
  | absent
      (hStage : stage = .disabled) :
      Fails stage mode prompt read .disabled
  | late
      (hLate : stage.IsLate mode prompt) :
      Fails stage mode prompt read .timeout
  | timeout
      (hAnswer :
        stage.Answers mode prompt (.error .timeout)) :
      Fails stage mode prompt read .timeout
  | configuration
      (reason : String)
      (hAnswer :
        stage.Answers mode prompt
          (.error (.configuration reason))) :
      Fails stage mode prompt read .disabled
  | invalidResponse
      (reason : String)
      (hAnswer :
        stage.Answers mode prompt
          (.error (.invalidResponse reason))) :
      Fails stage mode prompt read
        (.malformed (.response reason))
  | transport
      (cause : ModelError)
      (hAnswer : stage.Answers mode prompt (.error cause))
      (hTimeout : cause ≠ .timeout)
      (hConfiguration :
        ∀ reason, cause ≠ .configuration reason)
      (hResponse :
        ∀ reason, cause ≠ .invalidResponse reason) :
      Fails stage mode prompt read (.transport cause)
  | noJson
      (generation : Generation)
      (hAnswer : stage.Answers mode prompt (.ok generation))
      (hRead : read generation.text = .error .noJson) :
      Fails stage mode prompt read
        (.malformed (.reply .noJson))
  | invalidJson
      (generation : Generation)
      (object : String)
      (hAnswer : stage.Answers mode prompt (.ok generation))
      (hRead :
        read generation.text = .error (.invalidJson object)) :
      Fails stage mode prompt read
        (.malformed (.reply (.invalidJson object)))
  | mismatch
      (generation : Generation)
      (issues : List String)
      (hAnswer : stage.Answers mode prompt (.ok generation))
      (hRead :
        read generation.text = .error (.mismatch issues)) :
      Fails stage mode prompt read (.mismatch issues)

/- What the hosted stage gives, by the text of the model. -/
def found
    (stage : HostedStage)
    (mode : ReplyMode)
    (prompt : String)
    (read : String → Except ReplyError α) :
    Except FallbackReason α :=
  readText read (stage.complete mode prompt).value

variable {stage : HostedStage}
variable {mode : ReplyMode} {prompt : String}
variable {read : String → Except ReplyError α}

/- An error of the model gives the reason listed for it. -/
theorem fails_of_modelError
    {cause : ModelError}
    (hAnswer : stage.Answers mode prompt (.error cause)) :
    Fails stage mode prompt read (.ofModelError cause) := by
  cases cause with
  | timeout => exact .timeout hAnswer
  | configuration reason =>
      exact .configuration reason hAnswer
  | invalidResponse reason =>
      exact .invalidResponse reason hAnswer
  | generation reason =>
      exact .transport _ hAnswer nofun nofun nofun
  | api reason =>
      exact .transport _ hAnswer nofun nofun nofun
  | network reason =>
      exact .transport _ hAnswer nofun nofun nofun

/- So does a text without interpretations. -/
theorem fails_of_replyError
    {generation : Generation}
    {e : ReplyError}
    (hAnswer : stage.Answers mode prompt (.ok generation))
    (hRead : read generation.text = .error e) :
    Fails stage mode prompt read (.ofReplyError e) := by
  cases e with
  | noJson => exact .noJson generation hAnswer hRead
  | invalidJson object =>
      exact .invalidJson generation object hAnswer hRead
  | mismatch issues =>
      exact .mismatch generation issues hAnswer hRead

theorem found_eq_error_of_fails
    {reason : FallbackReason}
    (hFails : Fails stage mode prompt read reason) :
    stage.found mode prompt read = .error reason := by
  unfold found
  cases hFails with
  | absent hStage =>
      rw [hStage]
      rfl
  | late hLate =>
      rw [complete_of_isLate hLate]
      rfl
  | timeout hAnswer =>
      rw [complete_of_failure hAnswer]
      rfl
  | configuration reason hAnswer =>
      rw [complete_of_failure hAnswer]
      rfl
  | invalidResponse reason hAnswer =>
      rw [complete_of_failure hAnswer]
      rfl
  | transport cause hAnswer hTimeout hConfiguration
      hResponse =>
      rw [complete_of_failure hAnswer]
      cases cause with
      | timeout => exact absurd rfl hTimeout
      | configuration reason =>
          exact absurd rfl (hConfiguration reason)
      | invalidResponse reason =>
          exact absurd rfl (hResponse reason)
      | generation reason => rfl
      | api reason => rfl
      | network reason => rfl
  | noJson generation hAnswer hRead =>
      rw [complete_of_generation hAnswer, readText, hRead]
      rfl
  | invalidJson generation object hAnswer hRead =>
      rw [complete_of_generation hAnswer, readText, hRead]
      rfl
  | mismatch generation issues hAnswer hRead =>
      rw [complete_of_generation hAnswer, readText, hRead]
      rfl

/-
  The hosted stage either fails for a listed reason, or its
  text can be read.
-/
theorem fails_or_reads
    (stage : HostedStage)
    (mode : ReplyMode)
    (prompt : String)
    (read : String → Except ReplyError α) :
    (∃ reason, Fails stage mode prompt read reason) ∨
      ∃ generation result,
        stage.Answers mode prompt (.ok generation) ∧
          read generation.text = .ok result := by
  rcases absent_or_isLate_or_answers stage mode prompt with
    hStage | hLate | ⟨answer, hAnswer⟩
  · exact Or.inl ⟨_, .absent hStage⟩
  · exact Or.inl ⟨_, .late hLate⟩
  · cases answer with
    | error cause =>
        exact Or.inl ⟨_, fails_of_modelError hAnswer⟩
    | ok generation =>
        cases hRead : read generation.text with
        | error e =>
            exact Or.inl
              ⟨_, fails_of_replyError hAnswer hRead⟩
        | ok result =>
            exact Or.inr
              ⟨generation, result, hAnswer, hRead⟩

theorem found_eq_ok_of_reads
    {generation : Generation}
    {result : α}
    (hAnswer : stage.Answers mode prompt (.ok generation))
    (hRead : read generation.text = .ok result) :
    stage.found mode prompt read = .ok result := by
  unfold found
  rw [complete_of_generation hAnswer, readText, hRead]
  rfl

theorem found_eq_error_iff (reason : FallbackReason) :
    stage.found mode prompt read = .error reason ↔
      Fails stage mode prompt read reason := by
  constructor
  · intro hFound
    rcases fails_or_reads stage mode prompt read with
      ⟨other, hFails⟩ | ⟨_, _, hAnswer, hRead⟩
    · have hOther := found_eq_error_of_fails hFails
      rw [hFound] at hOther
      cases hOther
      exact hFails
    · have hOk := found_eq_ok_of_reads hAnswer hRead
      rw [hFound] at hOk
      cases hOk
  · exact found_eq_error_of_fails

theorem found_eq_ok_iff (result : α) :
    stage.found mode prompt read = .ok result ↔
      ∃ generation,
        stage.Answers mode prompt (.ok generation) ∧
          read generation.text = .ok result := by
  constructor
  · intro hFound
    rcases fails_or_reads stage mode prompt read with
      ⟨_, hFails⟩ | ⟨generation, other, hAnswer, hRead⟩
    · have hError := found_eq_error_of_fails hFails
      rw [hFound] at hError
      cases hError
    · have hOther := found_eq_ok_of_reads hAnswer hRead
      rw [hFound] at hOther
      cases hOther
      exact ⟨generation, hAnswer, hRead⟩
  · rintro ⟨generation, hAnswer, hRead⟩
    exact found_eq_ok_of_reads hAnswer hRead

end HostedStage

end Dashboard

------------------------------------------------------------
-- Outcomes
------------------------------------------------------------

namespace Dashboard

variable {α : Type}

/-
  An outcome settles a request: it holds what was read from
  the model's text if that is possible, and otherwise the
  result of the rules and the reason of the failure.
-/
structure Outcome.Settles
    (outcome : Outcome α)
    (stage : HostedStage)
    (mode : ReplyMode)
    (prompt : String)
    (read : String → Except ReplyError α)
    (byRules : α) : Prop where
  hosted_iff :
    outcome.source = .hosted ↔
      ∃ generation result,
        stage.Answers mode prompt (.ok generation) ∧
          read generation.text = .ok result
  result_of_reads :
    ∀ generation result,
      stage.Answers mode prompt (.ok generation) →
        read generation.text = .ok result →
          outcome.result = result
  ruleBased_iff :
    ∀ reason,
      outcome.source = .ruleBased reason ↔
        HostedStage.Fails stage mode prompt read reason
  result_of_not_hosted :
    outcome.source ≠ .hosted → outcome.result = byRules

theorem Outcome.settles_ofStages
    (stage : HostedStage)
    (mode : ReplyMode)
    (prompt : String)
    (read : String → Except ReplyError α)
    (byRules : α) :
    (Outcome.ofStages (stage.found mode prompt read)
      byRules).Settles stage mode prompt read byRules := by
  cases hFound : stage.found mode prompt read with
  | ok result =>
      have hReads :=
        (HostedStage.found_eq_ok_iff result).mp hFound
      refine ⟨?_, ?_, ?_, ?_⟩
      · rcases hReads with ⟨generation, hAnswer, hRead⟩
        exact
          ⟨fun _ => ⟨generation, result, hAnswer, hRead⟩,
            fun _ => rfl⟩
      · intro generation other hAnswer hRead
        have hOther :=
          HostedStage.found_eq_ok_of_reads hAnswer hRead
        rw [hFound] at hOther
        exact Except.ok.inj hOther
      · intro reason
        rw [← HostedStage.found_eq_error_iff, hFound]
        exact ⟨nofun, nofun⟩
      · intro hSource
        exact absurd rfl hSource
  | error reason =>
      refine ⟨?_, ?_, ?_, ?_⟩
      · constructor
        · intro hSource
          cases hSource
        · rintro ⟨generation, result, hAnswer, hRead⟩
          have hOk :=
            HostedStage.found_eq_ok_of_reads hAnswer hRead
          rw [hFound] at hOk
          cases hOk
      · intro generation result hAnswer hRead
        have hOk :=
          HostedStage.found_eq_ok_of_reads hAnswer hRead
        rw [hFound] at hOk
        cases hOk
      · intro other
        rw [← HostedStage.found_eq_error_iff, hFound]
        simp [Outcome.ofStages, Outcome.fallBack]
      · intro _
        rfl

/- What holds of both stages holds of the outcome. -/
theorem Outcome.result_ofStages
    {P : α → Prop}
    (hosted : Except FallbackReason α)
    (byRules : α)
    (hHosted : ∀ result, hosted = .ok result → P result)
    (hRules : P byRules) :
    P (Outcome.ofStages hosted byRules).result := by
  cases hosted with
  | ok result => exact hHosted result rfl
  | error reason => exact hRules

end Dashboard

------------------------------------------------------------
-- Main Results
------------------------------------------------------------

namespace Dashboard

namespace Service

variable (service : Service) (prompt : String)

theorem value_interpretMany :
    (service.interpretMany prompt).value =
      .ofStages
        (service.hosted.found .multi prompt Reply.readMulti)
        (service.lexicon.interpretAll prompt) := rfl

theorem value_interpret :
    (service.interpret prompt).value =
      .ofStages
        (service.hosted.found .single prompt
          Reply.readSingle)
        (service.lexicon.interpret prompt) := rfl

/- There is at least one interpretation in any case. -/
theorem result_interpretMany_ne_nil :
    (service.interpretMany prompt).value.result ≠ [] := by
  rw [value_interpretMany]
  apply Outcome.result_ofStages (P := (· ≠ []))
  · intro found hFound
    rcases (HostedStage.found_eq_ok_iff found).mp hFound with
      ⟨generation, _, hRead⟩
    exact
      ((Reply.readMulti_eq_ok_iff generation.text
        found).mp hRead).2
  · exact Lexicon.interpretAll_ne_nil service.lexicon prompt

/- All interpretations are valid, of either stage. -/
theorem valid_of_mem_interpretMany
    {i : Interpretation}
    (hMem :
      i ∈ (service.interpretMany prompt).value.result) :
    i.Valid := by
  rw [value_interpretMany] at hMem
  revert hMem
  apply Outcome.result_ofStages
    (P := fun result => i ∈ result → i.Valid)
  · intro found hFound hMem
    rcases (HostedStage.found_eq_ok_iff found).mp hFound with
      ⟨_, _, hRead⟩
    exact Reply.valid_of_readMulti hRead hMem
  · exact Lexicon.valid_of_mem_interpretAll
      service.lexicon prompt

theorem valid_interpret :
    (service.interpret prompt).value.result.Valid := by
  rw [value_interpret]
  apply Outcome.result_ofStages (P := Interpretation.Valid)
  · intro i hFound
    rcases (HostedStage.found_eq_ok_iff i).mp hFound with
      ⟨_, _, hRead⟩
    exact Reply.valid_of_readSingle hRead
  · exact Prompt.valid_interpretFor _ service.lexicon _

/-
  Whatever the model does, a service answers: with at least
  one interpretation, all of them valid, which are read from
  the text of the model or else made by the rules.
-/
theorem interpretations_settle :
    ((service.interpretMany prompt).value.result ≠ [] ∧
      (∀ i ∈ (service.interpretMany prompt).value.result,
        i.validate = .ok ()) ∧
      (service.interpretMany prompt).value.Settles
        service.hosted .multi prompt Reply.readMulti
        (service.lexicon.interpretAll prompt)) ∧
      (service.interpret prompt).value.result.validate =
          .ok () ∧
        (service.interpret prompt).value.Settles
          service.hosted .single prompt Reply.readSingle
          (service.lexicon.interpret prompt) := by
  refine ⟨⟨?_, ?_, ?_⟩, ?_, ?_⟩
  · exact service.result_interpretMany_ne_nil prompt
  · intro i hMem
    have hValid := valid_of_mem_interpretMany service prompt
      hMem
    exact (Interpretation.validate_eq_ok_iff i).mpr hValid
  · rw [value_interpretMany]
    exact Outcome.settles_ofStages _ _ _ _ _
  · have hValid := valid_interpret service prompt
    exact (Interpretation.validate_eq_ok_iff _).mpr hValid
  · rw [value_interpret]
    exact Outcome.settles_ofStages _ _ _ _ _

end Service

end Dashboard
