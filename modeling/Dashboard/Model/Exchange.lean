import Dashboard.Http.Status
import Dashboard.Json.Basic
import Dashboard.Model.Backend

/-
  Requests to a language model over HTTP, and the answers.

  Key definitions include:
    * `ModelRequest`
    * `ModelAnswer`
    * `Exchange`
    * `ModelAnswer.accept`
-/

------------------------------------------------------------
-- Requests And Answers
------------------------------------------------------------

namespace Dashboard

/- A request to a model. -/
structure ModelRequest where
  method : String
  url : String
  headers : List (String × String)
  body : Option Json

/-
  An answer to a request: the status, and some time after it
  the body, unless that breaks off.
-/
structure ModelAnswer where
  status : Nat
  body : Timed (Option String)

/-
  What comes of the requests to a model, by their number and
  content: an answer or a failure, some time later.
-/
abbrev Exchange :=
  Nat → ModelRequest →
    Timed (Except ModelError ModelAnswer)

namespace ModelAnswer

/-
  The failure that a status stands for.  A failure of the
  server may pass, and so may too many requests.
-/
def statusError (status : Nat) (body : String) : ModelError :=
  let told := HttpStatus.text status ++ ": " ++ body
  if HttpStatus.isServerError status || status == 429 then
    .network ("Server error " ++ told)
  else
    .api ("HTTP " ++ told)

/- The failure that a body without sense is. -/
def undecodable : ModelError :=
  .invalidResponse "error decoding response body"

/-
  The content of an answer with this body that reports
  success.  A failure is reported even without a body.
-/
def accept
    {α : Type}
    (decode : String → Option α)
    (answer : ModelAnswer)
    (body : Option String) : Except ModelError α :=
  if HttpStatus.isSuccess answer.status then
    match body.bind decode with
    | some value => .ok value
    | none => .error undecodable
  else
    .error (statusError answer.status (body.getD ""))

end ModelAnswer

namespace Exchange

/-
  One request with a deadline: an answer that comes later is
  a failure at the deadline.  The deadline is also that of the
  body, which is not there when it comes later.
-/
def ask
    {α : Type}
    (exchange : Exchange)
    (deadline : Nat)
    (decode : String → Option α)
    (request : ModelRequest)
    (index : Nat) : Timed (Except ModelError α) :=
  let answer := exchange index request
  match answer.within deadline with
  | none => ⟨deadline, .error .timeout⟩
  | some (.error e) => ⟨answer.delay, .error e⟩
  | some (.ok reply) =>
      let left := deadline - answer.delay
      ⟨answer.delay + min reply.body.delay left,
        reply.accept decode (reply.body.within left).join⟩

/- Whether a request is answered with success in time. -/
def reaches
    (exchange : Exchange)
    (deadline : Nat)
    (request : ModelRequest) : Timed Bool :=
  let answer := exchange 0 request
  match answer.within deadline with
  | none => ⟨deadline, false⟩
  | some (.error _) => ⟨answer.delay, false⟩
  | some (.ok reply) =>
      ⟨answer.delay, HttpStatus.isSuccess reply.status⟩

end Exchange

end Dashboard
