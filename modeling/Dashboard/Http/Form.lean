import Dashboard.Text.Utf8
import Dashboard.Text.Word

/-
  The parameters in the query of an address.

  Key definitions include:
    * `Form.decode`
    * `Form.pairs`
    * `Form.value?`
-/

------------------------------------------------------------
-- Decoding
------------------------------------------------------------

namespace Dashboard.Form

/-
  Bytes with escapes resolved: a plus sign is a space, and a
  percent sign with two hexadecimal digits is the byte they
  mean.
-/
def unescape : List Char → List Nat
  | [] => []
  | '+' :: rest => 0x20 :: unescape rest
  | '%' :: a :: b :: rest =>
      match Text.digitValue? a, Text.digitValue? b with
      | some x, some y => (16 * x + y) :: unescape rest
      | _, _ => 0x25 :: unescape (a :: b :: rest)
  | c :: rest => Utf8.encodeChar c ++ unescape rest

/- The text that an escaped text stands for. -/
def decode (text : List Char) : String :=
  String.ofList (Utf8.decode (unescape text))

/-
  The pieces of a text between ampersands, when `piece`, in
  reverse, stands before it.
-/
def splitAfter
    (piece : List Char) :
    List Char → List (List Char)
  | [] => [piece.reverse]
  | c :: rest =>
      if c = '&' then
        piece.reverse :: splitAfter [] rest
      else
        splitAfter (c :: piece) rest

/- The name and the value of a piece. -/
def pairOf (piece : List Char) : String × String :=
  (decode (piece.takeWhile (· != '=')),
    decode ((piece.dropWhile (· != '=')).drop 1))

/- The parameters of a query in order. -/
def pairs (query : String) : List (String × String) :=
  ((splitAfter [] query.toList).filter
    (!·.isEmpty)).map pairOf

end Dashboard.Form

------------------------------------------------------------
-- Parameters
------------------------------------------------------------

namespace Dashboard.Form

/-
  The first of the names that is given a second time, when
  some names have been seen already.
-/
def repeated?
    (names seen : List String) :
    List (String × String) → Option String
  | [] => none
  | (name, _) :: rest =>
      if names.contains name then
        if seen.contains name then
          some name
        else
          repeated? names (name :: seen) rest
      else
        repeated? names seen rest

/- The value of a parameter, if it is given. -/
def value?
    (parameters : List (String × String))
    (name : String) : Option String :=
  parameters.lookup name

end Dashboard.Form
