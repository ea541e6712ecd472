import Dashboard.Conversation
import Dashboard.Error

/-
  Language models, as seen by those who ask them.

  Key definitions include:
    * `Timed`
    * `Generation`
    * `Backend`
    * `estimateTokens`
-/

------------------------------------------------------------
-- Time
------------------------------------------------------------

namespace Dashboard

/- A value that arrives after so many milliseconds. -/
structure Timed (α : Type) where
  delay : Nat
  value : α

namespace Timed

variable {α : Type}

/- The value, if it arrives in time. -/
def within (timed : Timed α) (limit : Nat) : Option α :=
  if timed.delay ≤ limit then some timed.value else none

end Timed

end Dashboard

------------------------------------------------------------
-- Backends
------------------------------------------------------------

namespace Dashboard

/- Why a model stopped. -/
inductive Finish where
  | stop
  | length
  | error
deriving DecidableEq, Repr

/- What a model wrote, and with how many tokens. -/
structure Generation where
  text : String
  tokens : Nat
  finish : Finish
deriving DecidableEq, Repr

/-
  A language model: its name, what it writes in a
  conversation, and whether it can be reached.
-/
structure Backend where
  model : String
  generate :
    List Message → Timed (Except ModelError Generation)
  probe : Timed Bool

/- A rough number of tokens: four characters each. -/
def estimateTokens (text : String) : Nat :=
  max text.length 1 / 4

end Dashboard
