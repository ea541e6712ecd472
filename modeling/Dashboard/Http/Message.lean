import Dashboard.Http.Header
import Dashboard.Json.Basic
import Dashboard.Text.Word

/-
  Requests and responses of HTTP.

  Key definitions include:
    * `HttpRequest`
    * `HttpResponse`
-/

------------------------------------------------------------
-- Requests
------------------------------------------------------------

namespace Dashboard

/- A request, with its target split into path and query. -/
structure HttpRequest where
  method : String
  path : String
  query : String
  headers : List (String × String)
  body : String
deriving DecidableEq, Repr

namespace HttpRequest

/- The characters of schemes. -/
def isSchemeChar (c : Char) : Bool :=
  (Text.isNameChar c && c != '_') || c == '+' || c == '-' ||
    c == '.'

/- What begins where an authority ends. -/
def endsAuthority (c : Char) : Bool :=
  c == '/' || c == '?' || c == '#'

/-
  A target without a scheme and an authority.  The path after
  an authority is never empty.  A target that is nothing but
  an authority has no path.
-/
def originForm (target : List Char) : List Char :=
  if target.head? == some '/' || target == ['*'] then
    target
  else
    match target.dropWhile isSchemeChar with
    | ':' :: '/' :: '/' :: rest =>
        match rest.dropWhile (!endsAuthority ·) with
        | '/' :: path => '/' :: path
        | other => '/' :: other
    | _ => []

/-
  The path and the query of a target.  A fragment belongs to
  neither.
-/
def splitTarget (target : String) : String × String :=
  let chars := (originForm target.toList).takeWhile (· != '#')
  (String.ofList (chars.takeWhile (· != '?')),
    String.ofList ((chars.dropWhile (· != '?')).drop 1))

/- The request for a target. -/
def ofTarget
    (method target : String)
    (headers : List (String × String))
    (body : String) : HttpRequest :=
  let (path, query) := splitTarget target
  ⟨method, path, query, headers, body⟩

/- The value of a header field. -/
def header?
    (request : HttpRequest)
    (name : String) : Option String :=
  HttpHeader.value? request.headers name

end HttpRequest

end Dashboard

------------------------------------------------------------
-- Responses
------------------------------------------------------------

namespace Dashboard

/- The content of a response. -/
inductive HttpContent where
  | empty
  | text (value : String)
  | json (value : Json)

/- A response. -/
structure HttpResponse where
  status : Nat
  headers : List (String × String)
  content : HttpContent

namespace HttpResponse

/- A response with a status alone. -/
def bare (status : Nat) : HttpResponse :=
  ⟨status, [], .empty⟩

/- A response with a JSON value. -/
def ofJson (status : Nat) (value : Json) : HttpResponse :=
  ⟨status, [("content-type", "application/json")],
    .json value⟩

/- A response with a text of some media type. -/
def ofText
    (status : Nat)
    (mediaType text : String) : HttpResponse :=
  ⟨status, [("content-type", mediaType)], .text text⟩

/- A response with a text that is meant to be read. -/
def plain (status : Nat) (text : String) : HttpResponse :=
  ofText status "text/plain; charset=utf-8" text

/- A response with more header fields. -/
def withHeaders
    (response : HttpResponse)
    (headers : List (String × String)) : HttpResponse :=
  { response with headers := response.headers ++ headers }

/- A response without its content. -/
def withoutContent
    (response : HttpResponse) : HttpResponse :=
  { response with content := .empty }

/- The value of a header field. -/
def header?
    (response : HttpResponse)
    (name : String) : Option String :=
  HttpHeader.value? response.headers name

end HttpResponse

end Dashboard
