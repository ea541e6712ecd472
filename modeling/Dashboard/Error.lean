import Dashboard.Interpretation.Basic

/-
  What can go wrong, and how it is reported.

  Key definitions include:
    * `DataError`
    * `SettingsError`
    * `ModelError`
    * `Error`
    * `ServerError`
-/

------------------------------------------------------------
-- Causes
------------------------------------------------------------

namespace Dashboard

/- What can be wrong with data or with a request for data. -/
inductive DataError where
  | unknownDataset (name : String)
  | unreadable (dataset : Dataset)
  | unparsable (dataset : Dataset)
  | invalid (dataset : String) (reason : String)
deriving DecidableEq, Repr

/- The error in words. -/
def DataError.message : DataError → String
  | unknownDataset name => "Invalid data type: " ++ name
  | unreadable _ => "Failed to read dataset file"
  | unparsable dataset =>
      "Failed to parse " ++ dataset.name ++ " dataset"
  | invalid dataset reason =>
      "Invalid " ++ dataset ++ " dataset: " ++ reason

/-
  What can be wrong with settings.  A text that cannot be
  parsed may come with the reason.
-/
inductive SettingsError where
  | fileNotFound (path : String)
  | unparsable (reason : Option String)
  | invalidValue (field : String) (reason : String)
deriving DecidableEq, Repr

/- The error in words. -/
def SettingsError.message : SettingsError → String
  | fileNotFound path =>
      "Configuration file not found: " ++ path
  | unparsable none => "Failed to parse configuration"
  | unparsable (some reason) =>
      "Failed to parse configuration: " ++ reason
  | invalidValue field reason =>
      "Invalid value for " ++ field ++ ": " ++ reason

/- How a language model can fail to answer. -/
inductive ModelError where
  | generation (reason : String)
  | api (reason : String)
  | network (reason : String)
  | invalidResponse (reason : String)
  | timeout
  | configuration (reason : String)
deriving DecidableEq, Repr

/- The error in words. -/
def ModelError.message : ModelError → String
  | generation reason => "Generation error: " ++ reason
  | api reason => "API error: " ++ reason
  | network reason => "Network error: " ++ reason
  | invalidResponse reason => "Invalid response: " ++ reason
  | timeout => "Timeout"
  | configuration reason => "Configuration error: " ++ reason

end Dashboard

------------------------------------------------------------
-- Errors
------------------------------------------------------------

namespace Dashboard

/- An error of any part, by the kind it is reported as. -/
inductive Error where
  | invalidInterpretation (flaw : Flaw)
  | unknownDataset (name : String)
  | unknownName (noun name : String)
  | settings (cause : SettingsError)
  | data (cause : DataError)
  | model (cause : ModelError)
deriving DecidableEq, Repr

namespace Error

/- The error in words. -/
def message : Error → String
  | invalidInterpretation flaw =>
      "Invalid interpretation: " ++ flaw.message
  | unknownDataset name => "Unknown dataset: " ++ name
  | unknownName noun name =>
      "Parse error: unknown " ++ noun ++ " '" ++ name ++ "'"
  | settings cause =>
      "Configuration error: " ++ cause.message
  | data cause => "Data error: " ++ cause.message
  | model cause => "LLM error: " ++ cause.message

end Error

/- An error in data; an unknown dataset has its own kind. -/
def DataError.toError : DataError → Error
  | unknownDataset name => .unknownDataset name
  | cause => .data cause

/- The dataset of a name. -/
def Dataset.named (name : String) : Except Error Dataset :=
  match ofName? name with
  | some dataset => .ok dataset
  | none => .error (.unknownDataset name)

/- The component of a name. -/
def Component.named
    (name : String) : Except Error Component :=
  match ofName? name with
  | some component => .ok component
  | none => .error (.unknownName "component type" name)

/- The kind of chart of a name. -/
def Chart.named (name : String) : Except Error Chart :=
  match ofName? name with
  | some chart => .ok chart
  | none => .error (.unknownName "chart type" name)

/- The operator of a name. -/
def Operator.named
    (name : String) : Except Error Operator :=
  match ofName? name with
  | some operator => .ok operator
  | none => .error (.unknownName "filter operator" name)

/- The check that an interpretation is valid. -/
def Interpretation.validate
    (i : Interpretation) : Except Error Unit :=
  match i.flaw? with
  | some flaw => .error (.invalidInterpretation flaw)
  | none => .ok ()

end Dashboard

------------------------------------------------------------
-- Errors Of The Server
------------------------------------------------------------

namespace Dashboard

/- An error that the server answers with. -/
inductive ServerError where
  | invalidRequest (reason : String)
  | settings (cause : SettingsError)
  | data (cause : DataError)
deriving DecidableEq, Repr

namespace ServerError

/- The error in words. -/
def message : ServerError → String
  | invalidRequest reason => reason
  | settings cause =>
      "Configuration error: " ++ cause.message
  | data cause => "Data error: " ++ cause.message

/- The status of the answer. -/
def status : ServerError → Nat
  | invalidRequest _ => 400
  | _ => 500

end ServerError

/- A request for an unknown dataset is an invalid one. -/
def DataError.toServerError : DataError → ServerError
  | unknownDataset _ => .invalidRequest "Invalid data type"
  | cause => .data cause

end Dashboard
