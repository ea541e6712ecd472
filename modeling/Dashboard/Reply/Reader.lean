import Dashboard.Interpretation.Wire
import Dashboard.Json.Reader
import Dashboard.Reply.Shape
import Dashboard.Reply.Span

/-
  Reading interpretations out of the text of a reply.

  Key definitions include:
    * `ReplyError`
    * `Reply.readObject`
    * `Reply.readSingle`
    * `Reply.readMulti`
-/

------------------------------------------------------------
-- Errors
------------------------------------------------------------

namespace Dashboard

/-
  Why a reply gives no interpretation: it has no object, it
  has a text in braces that is no JSON, or the shape of an
  object is wrong.
-/
inductive ReplyError where
  | noJson
  | invalidJson (object : String)
  | mismatch (issues : List String)
deriving DecidableEq, Repr

namespace ReplyError

/- What is wrong with the shape of an object, in words. -/
def issuesText (issues : List String) : String :=
  "; ".intercalate issues

/-
  The error in words.  What is wrong with a text that is no
  JSON is explained by the reader of JSON.
-/
def message (explain : String → String) : ReplyError → String
  | noJson => "No JSON object in response"
  | invalidJson object => "Invalid JSON: " ++ explain object
  | mismatch issues => "Schema mismatch: " ++ issuesText issues

end ReplyError

end Dashboard

------------------------------------------------------------
-- Objects
------------------------------------------------------------

namespace Dashboard

namespace Reply

/- The parts of an interpretation that a reply may give. -/
def interpretationOf? (json : Json) : Option Interpretation :=
  match json.slots?
    ["componentType", "datasetType", "chartType", "filters",
      "title", "description"]
  with
  | some
      [component, dataset, chart, filters, title,
        description] => do
      let component ← component.required Component.ofJson?
      let dataset ← dataset.required Dataset.ofJson?
      let chart ←
        chart.defaulted none (Json.nullable Chart.ofJson?)
      let filters ←
        filters.defaulted none
          (Json.nullable (Json.list? Filter.ofJson?))
      let title ← title.required Json.string?
      let description ← description.required Json.string?
      return ⟨component, dataset, chart, filters, none, none,
        title, description⟩
  | _ => none

/-
  The interpretation in the text of an object.  An object of
  the right shape always has one.
-/
def readObject
    (text : List Char) :
    Except ReplyError Interpretation :=
  match Json.parse? (String.ofList text) with
  | none => .error (.invalidJson (String.ofList text))
  | some json =>
      match Shape.interpretation.issues json with
      | [] =>
          match interpretationOf? json with
          | some i => .ok i.normalize
          | none => .error (.mismatch [])
      | issues => .error (.mismatch issues)

end Reply

end Dashboard

------------------------------------------------------------
-- Replies
------------------------------------------------------------

namespace Dashboard

namespace Reply

/- The one interpretation of a reply. -/
def readSingle
    (text : String) : Except ReplyError Interpretation :=
  match wholeSpan? text.toList with
  | none => .error .noJson
  | some span => readObject span

/- The interpretations among results. -/
def accepted
    (results : List (Except ReplyError Interpretation)) :
    List Interpretation :=
  results.filterMap Except.toOption

/- The later one of two errors of the same kind. -/
def laterError
    (counts : ReplyError → Bool)
    (last : Option ReplyError)
    (result : Except ReplyError Interpretation) :
    Option ReplyError :=
  match result with
  | .error e => if counts e then some e else last
  | .ok _ => last

/- An error about JSON that does not parse. -/
def isInvalidJson : ReplyError → Bool
  | .invalidJson _ => true
  | _ => false

/-
  The error of results none of which is accepted: the last
  one about a shape, or else the last one at all.
-/
def lastError
    (results : List (Except ReplyError Interpretation)) :
    ReplyError :=
  let last := fun counts =>
    results.foldl (laterError counts) none
  ((last fun e => !isInvalidJson e).or
    (last isInvalidJson)).getD .noJson

/-
  All interpretations of a reply.  Objects that give none are
  passed over as long as another one does.
-/
def readMulti
    (text : String) :
    Except ReplyError (List Interpretation) :=
  match objects text.toList with
  | [] => .error .noJson
  | candidates =>
      let results := candidates.map readObject
      match accepted results with
      | [] => .error (lastError results)
      | interpretations => .ok interpretations

end Reply

end Dashboard
