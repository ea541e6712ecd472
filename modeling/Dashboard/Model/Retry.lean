import Dashboard.Model.Backend

/-
  Asking again after a failure that may pass.

  Key definitions include:
    * `ModelError.isPassing`
    * `Attempts`
    * `attempt`
    * `withRetries`
-/

------------------------------------------------------------
-- Attempts
------------------------------------------------------------

namespace Dashboard

/- The failures that may pass. -/
def ModelError.isPassing : ModelError → Bool
  | network _ => true
  | timeout => true
  | _ => false

/- The failure that is reported without any request. -/
def ModelError.exhausted : ModelError :=
  .network "Max retries exceeded"

/- A step of asking: a request, or a wait before the next. -/
inductive AskingStep where
  | request (delay : Nat)
  | wait (time : Nat)
deriving DecidableEq, Repr

namespace AskingStep

/- How long a step takes. -/
def duration : AskingStep → Nat
  | request delay => delay
  | wait time => time

/- The delay of a request. -/
def delay? : AskingStep → Option Nat
  | request delay => some delay
  | wait _ => none

/- The time of a wait. -/
def wait? : AskingStep → Option Nat
  | request _ => none
  | wait time => some time

end AskingStep

/- What came of asking: the steps and the last outcome. -/
structure Attempts (α : Type) where
  steps : List AskingStep
  outcome : Except ModelError α

namespace Attempts

variable {α : Type}

/- The delays of the requests, in order. -/
def delays (attempts : Attempts α) : List Nat :=
  attempts.steps.filterMap AskingStep.delay?

/- The waits between the requests, in order. -/
def waits (attempts : Attempts α) : List Nat :=
  attempts.steps.filterMap AskingStep.wait?

/- The number of requests. -/
def requests (attempts : Attempts α) : Nat :=
  attempts.delays.length

/- Some steps before all others. -/
def precede
    (attempts : Attempts α)
    (steps : List AskingStep) : Attempts α :=
  { attempts with steps := steps ++ attempts.steps }

/- The last outcome after all steps. -/
def toTimed (attempts : Attempts α) :
    Timed (Except ModelError α) :=
  ⟨attempts.steps.foldl
      (fun sum step => sum + step.duration) 0,
    attempts.outcome⟩

end Attempts

variable {α : Type}

/-
  Ask so many more times at most, as long as the failure may
  pass.  Every request but the first one waits before it, and
  the wait doubles each time.  The last failure is kept for
  the time when no requests are left.
-/
def attempt
    (ask : Nat → Timed (Except ModelError α))
    (index wait : Nat)
    (last : Option ModelError) :
    Nat → Attempts α
  | 0 => ⟨[], .error (last.getD .exhausted)⟩
  | left + 1 =>
      let before := if index = 0 then [] else [.wait wait]
      let next := if index = 0 then wait else 2 * wait
      let answer := ask index
      let steps := before ++ [.request answer.delay]
      match answer.value with
      | .ok value => ⟨steps, .ok value⟩
      | .error e =>
          if e.isPassing then
            (attempt ask (index + 1) next (some e)
              left).precede steps
          else
            ⟨steps, .error e⟩

/- Ask once and so many times again, with a first wait. -/
def withRetries
    (retries wait : Nat)
    (ask : Nat → Timed (Except ModelError α)) :
    Attempts α :=
  attempt ask 0 wait none (retries + 1)

end Dashboard
