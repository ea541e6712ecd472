import Dashboard.Model.Provider
import Dashboard.Proofs.Json.Member
import Dashboard.Proofs.Model.Retry
import Dashboard.Proofs.Settings.Overlay
import Dashboard.Proofs.Settings.Validity

/-
  The greatest number of tokens on its way from the settings
  to the model.  An endpoint for chat completions is sent the
  number that is configured.  A local server is sent its low
  32 bits with a sign, so that a number of two to the 31 or
  more arrives as a negative one.

  Key definitions include:
    * `Backend.Asks`
    * `HostedSettings.Sends`
    * `HostedSettings.LacksKey`

  Main declarations:
    * `Ollama.tokenLimit_toUInt64`
    * `HostedSettings.sends_openAi`
    * `HostedSettings.sends_ollama`
    * `HostedSettings.sends_of_check`
-/

------------------------------------------------------------
-- What A Model Asks
------------------------------------------------------------

namespace Dashboard

/-
  In a conversation the model asks this one request.  What
  comes of it depends on the answers to this request alone,
  and a first answer that fails for good is what comes of it.
-/
structure Backend.Asks
    (make : Exchange → Backend)
    (messages : List Message)
    (request : ModelRequest) : Prop where
  alone :
    ∀ first second : Exchange,
      (∀ index, first index request = second index request) →
        (make first).generate messages =
          (make second).generate messages
  refused :
    ∀ (exchange : Exchange) (e : ModelError),
      e.isPassing = false →
        exchange 0 request = ⟨0, .error e⟩ →
          (make exchange).generate messages = ⟨0, .error e⟩

/- There is no other request that is asked. -/
theorem Backend.Asks.eq
    {make : Exchange → Backend}
    {messages : List Message}
    {request other : ModelRequest}
    (hAsks : Asks make messages request)
    (hOther : Asks make messages other) :
    request = other := by
  classical
  by_contra hDiffer
  let refuse (reason : String) :
      Timed (Except ModelError ModelAnswer) :=
    ⟨0, .error (.api reason)⟩
  let same : Exchange := fun _ _ => refuse "one"
  let mixed : Exchange := fun _ asked =>
    if asked = other then refuse "two" else refuse "one"
  have hSame :
      (make same).generate messages =
        ⟨0, .error (.api "one")⟩ :=
    hOther.refused same _ rfl rfl
  have hMixed :
      (make mixed).generate messages =
        ⟨0, .error (.api "two")⟩ :=
    hOther.refused mixed _ rfl (if_pos rfl)
  have hAlike :
      (make same).generate messages =
        (make mixed).generate messages := by
    apply hAsks.alone
    intro index
    exact (if_neg hDiffer).symm
  rw [hSame, hMixed] at hAlike
  simp at hAlike

namespace Exchange

variable {α : Type}

theorem ask_congr
    {first second : Exchange}
    {request : ModelRequest}
    (hSame :
      ∀ index, first index request = second index request)
    (deadline : Nat)
    (decode : String → Option α) :
    first.ask deadline decode request =
      second.ask deadline decode request := by
  funext index
  unfold ask
  rw [hSame index]

/- A refusal at once is the only attempt. -/
theorem withRetries_ask_of_refused
    {exchange : Exchange}
    {request : ModelRequest}
    {e : ModelError}
    (hLasting : e.isPassing = false)
    (hRefused : exchange 0 request = ⟨0, .error e⟩)
    (retries wait deadline : Nat)
    (decode : String → Option α) :
    withRetries retries wait
        (exchange.ask deadline decode request) =
      ⟨[.request 0], .error e⟩ := by
  have hAsk :
      exchange.ask deadline decode request 0 =
        ⟨0, .error e⟩ := by
    simp [ask, hRefused, Timed.within]
  have hFirst :
      IsFirstLasting
        (exchange.ask deadline decode request) 0 := by
    refine ⟨?_, fun i hLess => absurd hLess (Nat.not_lt_zero i)⟩
    rw [hAsk, mayPass_error_iff, hLasting]
    exact Bool.false_ne_true
  rw [withRetries_of_isFirstLasting (Nat.zero_le retries)
    hFirst]
  simp [Attempts.ofRun, askedAt, waitBefore, hAsk]

end Exchange

theorem OpenAi.asks
    (access : OpenAi)
    (messages : List Message) :
    Backend.Asks access.backend messages
      (access.request messages) where
  alone first second hSame := by
    simp only [backend, Exchange.ask_congr hSame]
  refused exchange e hLasting hRefused := by
    simp only [backend,
      Exchange.withRetries_ask_of_refused hLasting hRefused]
    rfl

theorem Ollama.asks
    (access : Ollama)
    (messages : List Message) :
    Backend.Asks access.backend messages
      (access.request messages) where
  alone first second hSame := by
    simp only [backend, Exchange.ask_congr hSame]
  refused exchange e hLasting hRefused := by
    simp only [backend,
      Exchange.withRetries_ask_of_refused hLasting hRefused]
    rfl

end Dashboard

------------------------------------------------------------
-- The Number In A Request
------------------------------------------------------------

namespace Dashboard

theorem Json.member?_ofMembers
    {members : List (String × Json)}
    (hNames : (members.map Prod.fst).Nodup)
    (name : String) :
    (ofMembers members).member? name =
      memberIn? members name :=
  memberIn?_sortMembers hNames name

theorem OpenAi.within?_body
    (access : OpenAi)
    (messages : List Message) :
    (access.body messages).within? ["max_tokens"] =
      some (.ofInt access.maxTokens.toNat) := by
  unfold body
  rw [Json.within?_cons, Json.member?_ofMembers (by simp)]
  rfl

theorem Ollama.within?_body
    (access : Ollama)
    (messages : List Message) :
    (access.body messages).within?
        ["options", "num_predict"] =
      some (.ofInt (tokenLimit access.maxTokens)) := by
  unfold body
  rw [Json.within?_cons, Json.member?_ofMembers (by simp)]
  change (Json.ofMembers _).within? ["num_predict"] = _
  rw [Json.within?_cons, Json.member?_ofMembers (by simp)]
  rfl

namespace Ollama

/-
  Below two to the 31 the number stays as it is.  From there
  on it is less by two to the 32.
-/
theorem tokenLimit_toUInt64 (tokens : UInt32) :
    tokenLimit tokens.toUInt64 =
      if tokens.toNat < 0x80000000 then
        (tokens.toNat : Int)
      else
        tokens.toNat - 0x100000000 := by
  have hRange : tokens.toNat < 0x100000000 :=
    tokens.toNat_lt
  unfold tokenLimit
  rw [UInt32.toNat_toUInt64, Int.bmod_def]
  omega

end Ollama

end Dashboard

------------------------------------------------------------
-- Settings
------------------------------------------------------------

namespace Dashboard

namespace HostedSettings

/-
  With these settings there is a model, and in every
  conversation it sends this number at this place of the one
  request that it asks.
-/
def Sends
    (hosted : HostedSettings)
    (path : List String)
    (limit : Int) : Prop :=
  ∃ make : Exchange → Backend,
    (∀ exchange, hosted.backend exchange = .ok (make exchange)) ∧
      ∀ messages, ∃ request body,
        Backend.Asks make messages request ∧
          request.body = some body ∧
            body.within? path = some (.ofInt limit)

/- No two numbers are sent at one place. -/
theorem Sends.eq
    {hosted : HostedSettings}
    {path : List String}
    {first second : Int}
    (hFirst : hosted.Sends path first)
    (hSecond : hosted.Sends path second) :
    first = second := by
  rcases hFirst with ⟨make, hMake, hFirst⟩
  rcases hSecond with ⟨other, hOther, hSecond⟩
  have hAlike : make = other := by
    funext exchange
    apply Except.ok.inj
    rw [← hMake, ← hOther]
  subst hAlike
  rcases hFirst [] with ⟨request, body, hAsks, hBody, hPlace⟩
  rcases hSecond [] with ⟨_, _, hAsksToo, hBodyToo, hPlaceToo⟩
  rw [← hAsks.eq hAsksToo, hBody] at hBodyToo
  cases hBodyToo
  rw [hPlace, Option.some.injEq] at hPlaceToo
  simpa [Json.ofInt] using hPlaceToo

/- An endpoint elsewhere is to be used without a key. -/
def LacksKey (hosted : HostedSettings) : Prop :=
  Text.blankOnly hosted.openAi.apiKey = true ∧
    OpenAi.isLocal hosted.openAi.endpoint = false

variable {hosted : HostedSettings}

theorem sends_openAi
    (hProvider : hosted.provider = "openai")
    (hKey : ¬ hosted.LacksKey) :
    hosted.Sends ["max_tokens"] hosted.maxTokens.toNat := by
  have hNamed :
      Provider.named hosted.provider = .ok .openAi := by
    rw [hProvider]
    decide
  have hCreate : hosted.openAi.create = .ok hosted.openAi := by
    rw [OpenAi.create, if_neg]
    simpa [LacksKey] using hKey
  refine ⟨hosted.openAi.backend, ?_, ?_⟩
  · intro exchange
    rw [backend, hNamed]
    simp only [hCreate, Except.map]
  · intro messages
    refine ⟨_, _, hosted.openAi.asks messages, rfl, ?_⟩
    rw [OpenAi.within?_body]
    exact congrArg (fun n : Nat => some (Json.ofInt n))
      (UInt32.toNat_toUInt64 _)

/- Without a key that is needed there is no model. -/
theorem backend_of_lacksKey
    (hProvider : hosted.provider = "openai")
    (hKey : hosted.LacksKey)
    (exchange : Exchange) :
    hosted.backend exchange =
      .error
        (.configuration
          "API key required for remote endpoints") := by
  have hNamed :
      Provider.named hosted.provider = .ok .openAi := by
    rw [hProvider]
    decide
  rw [backend, hNamed]
  simp only [OpenAi.create, hKey.1, hKey.2]
  rfl

theorem sends_ollama
    (hProvider : hosted.provider = "ollama") :
    hosted.Sends ["options", "num_predict"]
      (if hosted.maxTokens.toNat < 0x80000000 then
        hosted.maxTokens.toNat
      else
        hosted.maxTokens.toNat - 0x100000000) := by
  have hNamed :
      Provider.named hosted.provider = .ok .ollama := by
    rw [hProvider]
    decide
  refine ⟨hosted.ollama.backend, ?_, ?_⟩
  · intro exchange
    rw [backend, hNamed]
  · intro messages
    refine ⟨_, _, hosted.ollama.asks messages, rfl, ?_⟩
    rw [Ollama.within?_body, ← Ollama.tokenLimit_toUInt64]
    rfl

end HostedSettings

end Dashboard

------------------------------------------------------------
-- Main Result
------------------------------------------------------------

namespace Dashboard

namespace HostedSettings

/-
  Of settings that pass the check, the number of tokens is
  positive, and the model is sent it as it is, unless it is
  on a local server and the number does not fit in 31 bits:
  then it is sent a negative one.  There is no model without
  a key that is needed.
-/
theorem sends_of_check
    {hosted : HostedSettings}
    (hAccepted :
      ∃ settings : Settings,
        settings.check = .ok () ∧
          settings.interpreter.hosted = hosted) :
    0 < hosted.maxTokens.toNat ∧
      (hosted.provider = "openai" ∧ hosted.LacksKey ∧
            (∀ exchange,
              hosted.backend exchange =
                .error
                  (.configuration
                    "API key required for remote endpoints")) ∨
        hosted.provider = "openai" ∧ ¬ hosted.LacksKey ∧
            (∀ limit,
              hosted.Sends ["max_tokens"] limit ↔
                limit = hosted.maxTokens.toNat) ∨
          hosted.provider = "ollama" ∧
            ∀ limit,
              hosted.Sends ["options", "num_predict"] limit ↔
                limit =
                  if hosted.maxTokens.toNat < 0x80000000 then
                    (hosted.maxTokens.toNat : Int)
                  else
                    hosted.maxTokens.toNat - 0x100000000) := by
  rcases hAccepted with ⟨settings, hCheck, rfl⟩
  have hValid :=
    ((Settings.check_eq_ok_iff settings).mp hCheck).hosted
  generalize settings.interpreter.hosted = hosted at hValid ⊢
  constructor
  · apply Nat.pos_of_ne_zero
    intro hZero
    exact hValid.maxTokens (UInt32.toNat.inj hZero)
  · have hProvider := hValid.provider
    simp only [providers, List.mem_cons, List.not_mem_nil,
      or_false] at hProvider
    rcases hProvider with hOpenAi | hOllama
    · by_cases hKey : hosted.LacksKey
      · exact
          .inl ⟨hOpenAi, hKey, backend_of_lacksKey hOpenAi hKey⟩
      · refine .inr (.inl ⟨hOpenAi, hKey, fun limit => ?_⟩)
        have hSends := sends_openAi hOpenAi hKey
        exact ⟨fun h => h.eq hSends, fun h => h ▸ hSends⟩
    · refine .inr (.inr ⟨hOllama, fun limit => ?_⟩)
      have hSends := sends_ollama hOllama
      exact ⟨fun h => h.eq hSends, fun h => h ▸ hSends⟩

/- A local server with two to the 31 tokens. -/
def sampleLocal : HostedSettings :=
  { initial with provider := "ollama", maxTokens := 0x80000000 }

/- The settings that say nothing but this. -/
def sampleLocalSettings : Settings :=
  { Settings.initial with
    interpreter :=
      { InterpreterSettings.initial with hosted := sampleLocal } }

theorem check_sampleLocalSettings :
    sampleLocalSettings.check = .ok () := by
  have hInitial := Settings.valid_initial
  have hTemperature :
      sampleLocal.temperature =
        Settings.initial.interpreter.hosted.temperature := by
    simp only [sampleLocal, Settings.initial,
      InterpreterSettings.initial]
  have hHosted : sampleLocal.Valid :=
    { provider := List.mem_cons_of_mem _ List.mem_cons_self
      timeoutMs := by decide
      temperature := by
        rw [hTemperature]
        exact hInitial.hosted.temperature
      maxTokens := by decide }
  rw [Settings.check_eq_ok_iff]
  exact ⟨hInitial.server, hHosted, hInitial.vocabulary⟩

/- The server is sent a negative number, and not its own. -/
theorem sends_of_check_local :
    (∃ settings : Settings,
        settings.check = .ok () ∧
          settings.interpreter.hosted = sampleLocal) ∧
      sampleLocal.Sends ["options", "num_predict"]
          (-0x80000000) ∧
        ¬ sampleLocal.Sends ["options", "num_predict"]
          sampleLocal.maxTokens.toNat := by
  have hAccepted :
      ∃ settings : Settings,
        settings.check = .ok () ∧
          settings.interpreter.hosted = sampleLocal :=
    ⟨sampleLocalSettings, check_sampleLocalSettings, rfl⟩
  have hTokens : sampleLocal.maxTokens.toNat = 0x80000000 := rfl
  rcases (sends_of_check hAccepted).2 with
    ⟨hOther, _⟩ | ⟨hOther, _⟩ | ⟨_, hSends⟩
  · exact absurd hOther (by decide)
  · exact absurd hOther (by decide)
  · refine ⟨hAccepted, ?_, ?_⟩
    · rw [hSends, hTokens]
      decide
    · rw [hSends, hTokens]
      decide

end HostedSettings

end Dashboard
