/-
  Header fields of HTTP messages.

  Key definitions include:
    * `HttpHeader.isLegal`
    * `HttpHeader.value?`
-/

------------------------------------------------------------
-- Fields
------------------------------------------------------------

namespace Dashboard.HttpHeader

/-
  A text that may stand in a header field.  Of the control
  characters only the tab may.
-/
def isLegal (text : String) : Bool :=
  text.toList.all fun c =>
    c == '\t' || (' ' ≤ c && c.toNat != 0x7f)

/- A text with its ASCII letters in lowercase. -/
def lowercase (text : String) : String :=
  String.ofList (text.toList.map Char.toLower)

/- The value of a field, in whatever case it is named. -/
def value?
    (fields : List (String × String))
    (name : String) : Option String :=
  (fields.find? fun f => lowercase f.1 == name).map (·.2)

end Dashboard.HttpHeader
