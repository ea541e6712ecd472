import Dashboard.Number.Notation

/-
  Filters: a field, an operator and an operand.

  Key definitions include:
    * `Operator`
    * `Operand`
    * `Filter`
    * `Filter.describe`
-/

------------------------------------------------------------
-- Operators
------------------------------------------------------------

namespace Dashboard

/- How a filter compares. -/
inductive Operator where
  | gt
  | gte
  | lt
  | lte
  | eq
  | neq
  | contains
deriving DecidableEq, Repr

namespace Operator

/- All operators. -/
def all : List Operator :=
  [gt, gte, lt, lte, eq, neq, contains]

/- The name of an operator. -/
def name : Operator → String
  | gt => "gt"
  | gte => "gte"
  | lt => "lt"
  | lte => "lte"
  | eq => "eq"
  | neq => "neq"
  | contains => "contains"

/- The symbol of an operator in a description. -/
def symbol : Operator → String
  | gt => ">"
  | gte => ">="
  | lt => "<"
  | lte => "<="
  | eq => "="
  | neq => "!="
  | contains => "contains"

/- The operators that order their operands. -/
def isNumeric : Operator → Bool
  | gt | gte | lt | lte => true
  | _ => false

/- The operator of a name, which has to be exact. -/
def ofName? (name : String) : Option Operator :=
  all.find? fun o => o.name == name

end Operator

end Dashboard

------------------------------------------------------------
-- Filters
------------------------------------------------------------

namespace Dashboard

/- What a filter compares with: a number or a text. -/
inductive Operand where
  | number (value : Double)
  | text (value : String)
deriving DecidableEq

namespace Operand

/- The number, if the operand is one. -/
def number? : Operand → Option Double
  | number value => some value
  | text _ => none

/- The operand as it stands in a sentence. -/
def describe : Operand → String
  | number value => value.prose
  | text value => value

end Operand

/- One condition on a record. -/
structure Filter where
  field : String
  operator : Operator
  operand : Operand
deriving DecidableEq

/- The filter as it stands in a sentence. -/
def Filter.describe (filter : Filter) : String :=
  filter.field ++ " " ++ filter.operator.symbol ++ " " ++
    filter.operand.describe

end Dashboard
