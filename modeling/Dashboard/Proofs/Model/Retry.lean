import Dashboard.Model.Exchange
import Dashboard.Model.Retry
import Mathlib.Algebra.Order.Ring.Nat
import Mathlib.Data.List.Basic

/-
  Asking again: requests are made in order until one of them
  has an outcome that lasts or no request is left, each after
  twice the wait of the one before, and what is reported is
  the outcome of the last one.

  Key definitions include:
    * `MayPass`
    * `IsFirstLasting`
    * `askedAt` and `Attempts.ofRun`
    * `Attempts.Disciplined`

  Main declarations:
    * `attempt_eq_ofRun`
    * `Exchange.mayPass_ask_iff`
    * `withRetries_disciplined`
-/

------------------------------------------------------------
-- Outcomes
------------------------------------------------------------

namespace Dashboard

variable {α : Type}

/- An outcome after which asking again may help. -/
def MayPass (outcome : Except ModelError α) : Prop :=
  (∃ reason, outcome = .error (.network reason)) ∨
    outcome = .error .timeout

theorem not_mayPass_ok (value : α) :
    ¬ MayPass (.ok value) := by
  rintro (⟨_, hOutcome⟩ | hOutcome)
  · cases hOutcome
  · cases hOutcome

theorem mayPass_error_iff (e : ModelError) :
    MayPass (.error e : Except ModelError α) ↔
      e.isPassing = true := by
  cases e
  all_goals simp [MayPass, ModelError.isPassing]

theorem MayPass.exists_error
    {outcome : Except ModelError α}
    (hPass : MayPass outcome) :
    ∃ e, outcome = .error e ∧ e.isPassing = true := by
  cases outcome with
  | ok value => exact absurd hPass (not_mayPass_ok value)
  | error e => exact ⟨e, rfl, (mayPass_error_iff e).mp hPass⟩

/-
  The first of all requests whose outcome is no failure that
  may pass.
-/
structure IsFirstLasting
    (ask : Nat → Timed (Except ModelError α))
    (index : Nat) : Prop where
  lasting : ¬ MayPass (ask index).value
  before : ∀ i < index, MayPass (ask i).value

end Dashboard

------------------------------------------------------------
-- Runs
------------------------------------------------------------

namespace Dashboard

variable {α : Type}

/- The wait for the next request, whichever it is. -/
def waitAt (first index : Nat) : Nat :=
  first * 2 ^ (index - 1)

/- What is waited before a request: nothing at first. -/
def waitBefore (first : Nat) : Nat → List AskingStep
  | 0 => []
  | index + 1 => [.wait (first * 2 ^ index)]

/- A request, after its wait. -/
def askedAt
    (ask : Nat → Timed (Except ModelError α))
    (first index : Nat) : List AskingStep :=
  waitBefore first index ++ [.request (ask index).delay]

/- So many requests from an index on, and an outcome. -/
def Attempts.ofRun
    (ask : Nat → Timed (Except ModelError α))
    (first index count : Nat)
    (outcome : Except ModelError α) : Attempts α where
  steps := (List.range' index count).flatMap (askedAt ask first)
  outcome := outcome

variable {ask : Nat → Timed (Except ModelError α)}
variable {first index count left : Nat}

theorem Attempts.precede_ofRun
    (outcome : Except ModelError α) :
    (ofRun ask first (index + 1) count outcome).precede
        (askedAt ask first index) =
      ofRun ask first index (count + 1) outcome := by
  simp [ofRun, precede, List.range'_succ]

theorem ite_wait :
    (if index = 0 then
        []
      else
        [AskingStep.wait (waitAt first index)]) =
      waitBefore first index := by
  cases index with
  | zero => rfl
  | succ index => rfl

theorem ite_next :
    (if index = 0 then
        waitAt first index
      else
        2 * waitAt first index) =
      waitAt first (index + 1) := by
  cases index with
  | zero => rfl
  | succ index =>
      simp only [waitAt, Nat.add_one_ne_zero, if_false,
        Nat.add_sub_cancel]
      rw [Nat.pow_succ', Nat.mul_left_comm]

/- An outcome that lasts ends the asking. -/
theorem attempt_of_not_mayPass
    (hLasting : ¬ MayPass (ask index).value)
    (last : Option ModelError) :
    attempt ask index (waitAt first index) last (left + 1) =
      .ofRun ask first index 1 (ask index).value := by
  rw [attempt, ite_wait]
  cases hOutcome : (ask index).value with
  | ok value => simp [Attempts.ofRun, askedAt]
  | error e =>
      rw [hOutcome, mayPass_error_iff] at hLasting
      simp [hLasting, Attempts.ofRun, askedAt]

/- After a failure that may pass, the next request follows. -/
theorem attempt_of_error
    {e : ModelError}
    (hOutcome : (ask index).value = .error e)
    (hPassing : e.isPassing = true)
    (last : Option ModelError) :
    attempt ask index (waitAt first index) last (left + 1) =
      (attempt ask (index + 1) (waitAt first (index + 1))
        (some e) left).precede (askedAt ask first index) := by
  rw [attempt, ite_wait, ite_next]
  simp [hOutcome, hPassing, askedAt]

/-
  The requests go on over failures that may pass, up to one
  that lasts or up to the last one.
-/
theorem attempt_eq_ofRun
    (hBefore : ∀ i < count, MayPass (ask (index + i)).value)
    (hEnd : MayPass (ask (index + count)).value → left = 0)
    (last : Option ModelError) :
    attempt ask index (waitAt first index) last
        (count + left + 1) =
      .ofRun ask first index (count + 1)
        (ask (index + count)).value := by
  induction count generalizing index last with
  | zero =>
      simp only [Nat.add_zero, Nat.zero_add] at hEnd ⊢
      by_cases hPass : MayPass (ask index).value
      · rcases hPass.exists_error with ⟨e, hError, hPassing⟩
        rw [hEnd hPass, attempt_of_error hError hPassing,
          hError, ← Attempts.precede_ofRun]
        rfl
      · exact attempt_of_not_mayPass hPass last
  | succ count ih =>
      have hNext :
          ∀ i, index + (i + 1) = index + 1 + i := by
        intro i
        omega
      have hLeft :
          count + 1 + left + 1 = (count + left + 1) + 1 := by
        omega
      rcases (hBefore 0 (Nat.succ_pos count)).exists_error with
        ⟨e, hError, hPassing⟩
      rw [Nat.add_zero] at hError
      rw [hNext] at hEnd ⊢
      have hRest :
          ∀ i < count, MayPass (ask (index + 1 + i)).value := by
        intro i hLess
        rw [← hNext]
        exact hBefore (i + 1) (Nat.succ_lt_succ hLess)
      rw [hLeft, attempt_of_error hError hPassing,
        ih hRest hEnd (some e)]
      exact Attempts.precede_ofRun _

end Dashboard

------------------------------------------------------------
-- Whole Runs
------------------------------------------------------------

namespace Dashboard

variable {α : Type}
variable {ask : Nat → Timed (Except ModelError α)}
variable {retries wait count : Nat}

/- A run ends with a request that lasts, or with the last. -/
theorem withRetries_eq_ofRun
    (hCount : count ≤ retries)
    (hBefore : ∀ i < count, MayPass (ask i).value)
    (hEnd : MayPass (ask count).value → count = retries) :
    withRetries retries wait ask =
      .ofRun ask wait 0 (count + 1) (ask count).value := by
  have hStart : waitAt wait 0 = wait := Nat.mul_one wait
  have hRun :
      attempt ask 0 (waitAt wait 0) none
          (count + (retries - count) + 1) =
        .ofRun ask wait 0 (count + 1)
          (ask (0 + count)).value := by
    apply attempt_eq_ofRun
    · intro i hLess
      rw [Nat.zero_add]
      exact hBefore i hLess
    · intro hPass
      rw [Nat.zero_add] at hPass
      rw [hEnd hPass, Nat.sub_self]
  rwa [hStart, Nat.add_sub_of_le hCount, Nat.zero_add]
    at hRun

/-
  Of the first requests, either one has an outcome that lasts
  or all have failures that may pass.
-/
theorem exists_isFirstLasting_or
    (ask : Nat → Timed (Except ModelError α))
    (bound : Nat) :
    (∃ j < bound, IsFirstLasting ask j) ∨
      ∀ i < bound, MayPass (ask i).value := by
  induction bound with
  | zero => exact .inr nofun
  | succ bound ih =>
      rcases ih with ⟨j, hLess, hFirst⟩ | hAll
      · exact .inl ⟨j, Nat.lt_succ_of_lt hLess, hFirst⟩
      · by_cases hPass : MayPass (ask bound).value
        · right
          intro i hLess
          rcases Nat.lt_succ_iff_lt_or_eq.mp hLess with
            hBefore | rfl
          · exact hAll i hBefore
          · exact hPass
        · exact
            .inl ⟨bound, Nat.lt_succ_self bound, hPass, hAll⟩

theorem mayPass_of_not_isFirstLasting
    (hNone : ∀ j ≤ retries, ¬ IsFirstLasting ask j) :
    ∀ i ≤ retries, MayPass (ask i).value := by
  rcases exists_isFirstLasting_or ask (retries + 1) with
    ⟨j, hLess, hFirst⟩ | hAll
  · exact absurd hFirst (hNone j (Nat.le_of_lt_succ hLess))
  · exact fun i hBound => hAll i (Nat.lt_succ_of_le hBound)

theorem withRetries_of_isFirstLasting
    (hBound : count ≤ retries)
    (hFirst : IsFirstLasting ask count) :
    withRetries retries wait ask =
      .ofRun ask wait 0 (count + 1) (ask count).value := by
  apply withRetries_eq_ofRun hBound hFirst.before
  exact fun hPass => absurd hPass hFirst.lasting

theorem withRetries_of_mayPass
    (hAll : ∀ i ≤ retries, MayPass (ask i).value) :
    withRetries retries wait ask =
      .ofRun ask wait 0 (retries + 1) (ask retries).value := by
  apply withRetries_eq_ofRun (Nat.le_refl retries)
  · exact fun i hLess => hAll i (Nat.le_of_lt hLess)
  · exact fun _ => rfl

/- Every run is a run of the requests up to some last one. -/
theorem exists_withRetries_eq_ofRun
    (ask : Nat → Timed (Except ModelError α))
    (retries wait : Nat) :
    ∃ count ≤ retries,
      withRetries retries wait ask =
        .ofRun ask wait 0 (count + 1) (ask count).value := by
  by_cases hSome : ∃ j ≤ retries, IsFirstLasting ask j
  · rcases hSome with ⟨j, hBound, hFirst⟩
    exact
      ⟨j, hBound, withRetries_of_isFirstLasting hBound hFirst⟩
  · have hNone : ∀ j ≤ retries, ¬ IsFirstLasting ask j :=
      fun j hBound hFirst => hSome ⟨j, hBound, hFirst⟩
    exact
      ⟨retries, Nat.le_refl retries,
        withRetries_of_mayPass
          (mayPass_of_not_isFirstLasting hNone)⟩

namespace Attempts

/- There is one request for each index. -/
theorem delays_askedAt (index : Nat) :
    (askedAt ask wait index).filterMap AskingStep.delay? =
      [(ask index).delay] := by
  cases index with
  | zero => rfl
  | succ index => rfl

theorem delays_ofRun (outcome : Except ModelError α) :
    (ofRun ask wait 0 count outcome).delays =
      (List.range count).map fun i => (ask i).delay := by
  rw [delays, ofRun, List.filterMap_flatMap,
    ← List.range_eq_range']
  simp only [delays_askedAt]
  exact List.flatMap_pure_eq_map _ _

theorem requests_ofRun (outcome : Except ModelError α) :
    (ofRun ask wait 0 count outcome).requests = count := by
  simp [requests, delays_ofRun]

/- The waits double, and there is none before the first. -/
theorem waits_ofRun (outcome : Except ModelError α) :
    (ofRun ask wait 0 (count + 1) outcome).waits =
      (List.range count).map fun i => wait * 2 ^ i := by
  have hAsked :
      ∀ i,
        (askedAt ask wait (i + 1)).filterMap
            AskingStep.wait? =
          [wait * 2 ^ i] := fun _ => rfl
  rw [waits, ofRun, List.filterMap_flatMap,
    ← List.range_eq_range', List.range_succ_eq_map,
    List.flatMap_cons, List.flatMap_map]
  simp only [hAsked]
  exact List.flatMap_pure_eq_map _ _

end Attempts

end Dashboard

------------------------------------------------------------
-- Replies
------------------------------------------------------------

namespace Dashboard

variable {α : Type}

/- The statuses after which asking again may help. -/
theorem ModelAnswer.isPassing_statusError_iff
    (status : Nat)
    (body : String) :
    (statusError status body).isPassing = true ↔
      500 ≤ status ∧ status < 600 ∨ status = 429 := by
  have hTest :
      (HttpStatus.isServerError status || status == 429) =
          true ↔
        500 ≤ status ∧ status < 600 ∨ status = 429 := by
    simp [HttpStatus.isServerError]
  rw [← hTest, statusError]
  split
  · rename_i hServer
    exact ⟨fun _ => hServer, fun _ => rfl⟩
  · rename_i hOther
    exact ⟨nofun, fun hServer => absurd hServer hOther⟩

/- Failures of a server may pass, and too many requests. -/
theorem ModelAnswer.mayPass_accept_iff
    (answer : ModelAnswer)
    (decode : String → Option α)
    (body : Option String) :
    MayPass (answer.accept decode body) ↔
      500 ≤ answer.status ∧ answer.status < 600 ∨
        answer.status = 429 := by
  unfold accept
  by_cases hSuccess :
      HttpStatus.isSuccess answer.status = true
  · rw [if_pos hSuccess]
    have hOther :
        ¬ (500 ≤ answer.status ∧ answer.status < 600 ∨
          answer.status = 429) := by
      simp only [HttpStatus.isSuccess, Bool.and_eq_true,
        decide_eq_true_eq] at hSuccess
      omega
    refine iff_of_false ?_ hOther
    cases body.bind decode with
    | none =>
        rw [mayPass_error_iff]
        exact nofun
    | some value => exact not_mayPass_ok value
  · rw [if_neg hSuccess, mayPass_error_iff]
    exact isPassing_statusError_iff answer.status _

/-
  A reply in time is asked for again by its status alone,
  whether or not its body is there in time.
-/
theorem Exchange.mayPass_ask_iff
    {exchange : Exchange}
    {deadline index : Nat}
    {request : ModelRequest}
    {reply : ModelAnswer}
    (hReply :
      (exchange index request).within deadline =
        some (.ok reply))
    (decode : String → Option α) :
    MayPass
        (exchange.ask deadline decode request index).value ↔
      500 ≤ reply.status ∧ reply.status < 600 ∨
        reply.status = 429 := by
  simp only [ask, hReply]
  exact reply.mayPass_accept_iff decode _

end Dashboard

------------------------------------------------------------
-- The Discipline
------------------------------------------------------------

namespace Dashboard

variable {α : Type}

/-
  How to ask with so many retries: requests are made up to
  the first one whose outcome lasts, which is what comes of
  it, or else as many as there may be, and then the failure
  of the last one does.  They are made in order, and the wait
  before each but the first one doubles, so that no doubled
  wait is longer than the first wait doubled once for each
  retry.
-/
structure Attempts.Disciplined
    (ask : Nat → Timed (Except ModelError α))
    (retries wait : Nat)
    (attempts : Attempts α) : Prop where
  lasting :
    ∀ j ≤ retries,
      IsFirstLasting ask j →
        attempts.requests = j + 1 ∧
          attempts.outcome = (ask j).value
  passing :
    (∀ j ≤ retries, ¬ IsFirstLasting ask j) →
      attempts.requests = retries + 1 ∧
        ∃ e,
          (ask retries).value = .error e ∧
            attempts.outcome = .error e
  steps_eq :
    attempts.steps =
      (List.range attempts.requests).flatMap
        (askedAt ask wait)
  delays_eq :
    attempts.delays =
      (List.range attempts.requests).map fun i =>
        (ask i).delay
  waits_eq :
    attempts.waits =
      (List.range (attempts.requests - 1)).map fun i =>
        wait * 2 ^ i
  two_mul_wait_le :
    ∀ w ∈ attempts.waits, 2 * w ≤ wait * 2 ^ retries
  outcome_ne_exhausted :
    (∀ i ≤ retries, (ask i).value ≠ .error .exhausted) →
      attempts.outcome ≠ .error .exhausted

theorem Attempts.two_mul_wait_le_of_mem
    {ask : Nat → Timed (Except ModelError α)}
    {retries wait count w : Nat}
    (hCount : count ≤ retries)
    (outcome : Except ModelError α)
    (hMem :
      w ∈ (ofRun ask wait 0 (count + 1) outcome).waits) :
    2 * w ≤ wait * 2 ^ retries := by
  rw [waits_ofRun, List.mem_map] at hMem
  rcases hMem with ⟨i, hRange, rfl⟩
  have hLess : i + 1 ≤ retries := by
    have := List.mem_range.mp hRange
    omega
  calc
    2 * (wait * 2 ^ i) = wait * 2 ^ (i + 1) := by
      rw [Nat.pow_succ', Nat.mul_left_comm]
    _ ≤ wait * 2 ^ retries :=
      Nat.mul_le_mul_left wait
        (Nat.pow_le_pow_right (by decide) hLess)

/-
  Requests are repeated with discipline, and of the replies
  that come in time exactly those that report a failure of
  the server or too many requests are asked for again.
-/
theorem withRetries_disciplined
    (ask : Nat → Timed (Except ModelError α))
    (retries wait : Nat) :
    (withRetries retries wait ask).Disciplined ask retries
        wait ∧
      ∀ (exchange : Exchange) (deadline : Nat)
        (decode : String → Option α) (request : ModelRequest)
        (index : Nat) (reply : ModelAnswer),
        (exchange index request).within deadline =
            some (.ok reply) →
          (MayPass
              (exchange.ask deadline decode request
                index).value ↔
            500 ≤ reply.status ∧ reply.status < 600 ∨
              reply.status = 429) := by
  refine ⟨?_, fun _ _ decode _ _ _ hReply =>
    Exchange.mayPass_ask_iff hReply decode⟩
  rcases exists_withRetries_eq_ofRun ask retries wait with
    ⟨count, hCount, hRun⟩
  refine ⟨?_, ?_, ?_, ?_, ?_, ?_, ?_⟩
  · intro j hBound hFirst
    rw [withRetries_of_isFirstLasting hBound hFirst]
    exact ⟨Attempts.requests_ofRun _, rfl⟩
  · intro hNone
    have hAll := mayPass_of_not_isFirstLasting hNone
    rcases (hAll retries (Nat.le_refl retries)).exists_error
      with ⟨e, hError, _⟩
    rw [withRetries_of_mayPass hAll]
    exact
      ⟨Attempts.requests_ofRun _, e, hError, hError⟩
  · rw [hRun, Attempts.requests_ofRun, Attempts.ofRun,
      List.range_eq_range']
  · rw [hRun, Attempts.requests_ofRun]
    exact Attempts.delays_ofRun _
  · rw [hRun, Attempts.requests_ofRun]
    exact Attempts.waits_ofRun _
  · intro w hMem
    rw [hRun] at hMem
    exact Attempts.two_mul_wait_le_of_mem hCount _ hMem
  · intro hNone
    rw [hRun]
    exact hNone count hCount

/-
  The replies of a server that is busy twice, and the second
  time so much that no body follows the status.
-/
def busyReply : Nat → ModelAnswer
  | 0 => ⟨503, 5, some "starting"⟩
  | 1 => ⟨429, 90, none⟩
  | _ => ⟨200, 5, some "done"⟩

/- The server, which takes a little time for each reply. -/
def busyExchange : Exchange :=
  fun index _ => ⟨10, .ok (busyReply index)⟩

/- How the server is asked, with a deadline. -/
def askBusy : Nat → Timed (Except ModelError String) :=
  busyExchange.ask 50 some ⟨"GET", "", [], none⟩

/- Two retries reach the answer, one does not. -/
theorem withRetries_disciplined_busy :
    (IsFirstLasting askBusy 2 ∧
        (withRetries 2 200 askBusy).requests = 3 ∧
        (withRetries 2 200 askBusy).outcome = .ok "done") ∧
      (∀ j ≤ 1, ¬ IsFirstLasting askBusy j) ∧
        (withRetries 1 200 askBusy).requests = 2 ∧
          ∃ e,
            (askBusy 1).value = .error e ∧
              (withRetries 1 200 askBusy).outcome =
                .error e := by
  have hTwo := withRetries_disciplined askBusy 2 200
  have hOne := withRetries_disciplined askBusy 1 200
  have hReplies :
      ∀ index,
        MayPass (askBusy index).value ↔
          500 ≤ (busyReply index).status ∧
              (busyReply index).status < 600 ∨
            (busyReply index).status = 429 :=
    fun index => hTwo.2 busyExchange 50 some _ index _ rfl
  have hPass : ∀ i < 2, MayPass (askBusy i).value := by
    simp only [hReplies]
    decide
  have hFirst : IsFirstLasting askBusy 2 := by
    refine ⟨?_, hPass⟩
    rw [hReplies]
    decide
  have hNone : ∀ j ≤ 1, ¬ IsFirstLasting askBusy j := by
    intro j hBound hOther
    exact hOther.lasting (hPass j (Nat.lt_succ_of_le hBound))
  have hReached := hTwo.1.lasting 2 (Nat.le_refl 2) hFirst
  exact
    ⟨⟨hFirst, hReached.1, hReached.2⟩, hNone,
      hOne.1.passing hNone⟩

end Dashboard
