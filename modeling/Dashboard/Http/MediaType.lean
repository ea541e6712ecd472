import Dashboard.Http.Header

/-
  Media types, as they stand in a header field.

  Key definitions include:
    * `MediaType`
    * `MediaType.ofText?`
    * `MediaType.isJson`
-/

------------------------------------------------------------
-- Media Types
------------------------------------------------------------

namespace Dashboard

/-
  A media type without its parameters.  The suffix is what
  follows the last plus sign.
-/
structure MediaType where
  kind : String
  subtype : String
  suffix : Option String
deriving DecidableEq, Repr

namespace MediaType

/- Whether a media type is one of JSON. -/
def isJson (type : MediaType) : Bool :=
  type.kind == "application" &&
    (type.subtype == "json" || type.suffix == some "json")

end MediaType

end Dashboard

------------------------------------------------------------
-- Parameters
------------------------------------------------------------

namespace Dashboard

namespace MediaType

/- The characters of a token. -/
def isToken (c : Char) : Bool :=
  c.isAlphanum ||
    ['!', '#', '$', '%', '&', Char.ofNat 0x27, '*', '+', '-',
      '.', '^', '_', Char.ofNat 0x60, '|', '~'].contains c

/- Where a reader of parameters stands. -/
inductive Place where
  | start
  | name
  | valueStart
  | value
  | quotedStart
  | quoted
  | quotedEnd
deriving DecidableEq, Repr

namespace Place

/-
  The next place, if the character may stand here.  A quoted
  value is not empty, so that a quotation mark right after
  the first one belongs to it.
-/
def next? (place : Place) (c : Char) : Option Place :=
  match place with
  | start =>
      if c = ' ' then
        some start
      else if isToken c then
        some name
      else
        none
  | name =>
      if isToken c then
        some name
      else if c = '=' then
        some valueStart
      else
        none
  | valueStart =>
      if c = '"' then
        some quotedStart
      else if isToken c then
        some value
      else
        none
  | value =>
      if isToken c then
        some value
      else if c = ';' then
        some start
      else
        none
  | quotedStart =>
      if ' ' ≤ c && c ≤ '~' then some quoted else none
  | quoted =>
      if c = '"' then
        some quotedEnd
      else if ' ' ≤ c && c ≤ '~' then
        some quoted
      else
        none
  | quotedEnd =>
      if c = ';' then
        some start
      else if c = ' ' then
        some quotedEnd
      else
        none

/- The places where parameters may end. -/
def isFinal : Place → Bool
  | name => false
  | quotedStart => false
  | quoted => false
  | _ => true

end Place

/- Whether a text is a list of parameters. -/
def areParameters (text : List Char) : Bool :=
  match text.foldlM Place.next? .start with
  | some place => place.isFinal
  | none => false

end MediaType

end Dashboard

------------------------------------------------------------
-- Reading
------------------------------------------------------------

namespace Dashboard

namespace MediaType

/-
  The subtype and its suffix.  A plus sign in front belongs
  to the subtype.
-/
def splitSuffix
    (text : List Char) : List Char × Option (List Char) :=
  let suffix := (text.reverse.takeWhile (· != '+')).reverse
  let subtype :=
    (text.reverse.dropWhile (· != '+')).tail.reverse
  if subtype.isEmpty then
    (text, none)
  else
    (subtype, some suffix)

/- The media type in a text, with or without parameters. -/
def ofText? (text : String) : Option MediaType :=
  let chars := text.toList.map Char.toLower
  let kind := chars.takeWhile isToken
  match chars.dropWhile isToken with
  | '/' :: rest =>
      let name := rest.takeWhile isToken
      let parameters :=
        match rest.dropWhile isToken with
        | [] => true
        | ';' :: after => areParameters after
        | _ => false
      if kind.isEmpty || name.isEmpty || !parameters then
        none
      else
        let (subtype, suffix) := splitSuffix name
        some
          ⟨String.ofList kind, String.ofList subtype,
            suffix.map String.ofList⟩
  | _ => none

end MediaType

end Dashboard
