/-
  Finding JSON objects in the text of a reply.

  Key definitions include:
    * `Reply.wholeSpan?`
    * `Reply.Scan`
    * `Reply.objects`

  A reply often wraps its objects in prose or in fences of
  code.  A single object is taken from the first opening to
  the last closing brace; several objects are told apart by
  counting braces.
-/

------------------------------------------------------------
-- One Span
------------------------------------------------------------

namespace Dashboard.Reply

/- The brace that opens an object. -/
def openBrace : Char := '\x7b'

/- The brace that closes an object. -/
def closeBrace : Char := '\x7d'

/-
  The text from the first opening brace to the last closing
  brace, if that stands behind it.
-/
def wholeSpan? (text : List Char) : Option (List Char) :=
  match
    ((text.dropWhile (· != openBrace)).reverse.dropWhile
      (· != closeBrace)).reverse
  with
  | [] => none
  | span => some span

end Dashboard.Reply

------------------------------------------------------------
-- Balanced Objects
------------------------------------------------------------

namespace Dashboard.Reply

/- Where a scan stands with respect to strings. -/
inductive Quoting where
  | none
  | string
  | escape
deriving DecidableEq, Repr

/-
  Where a scan stands: outside of all objects, or inside one
  with so many braces open.  The text of the object so far is
  kept in reverse.
-/
inductive Scan where
  | outside
  | inside
      (taken : List Char)
      (depth : Nat)
      (quoting : Quoting)
deriving DecidableEq, Repr

namespace Scan

/- How a character inside of a string changes the quoting. -/
def requote (quoting : Quoting) (c : Char) : Quoting :=
  match quoting with
  | .escape => .string
  | _ =>
      if c = '\\' then
        .escape
      else if c = '"' then
        .none
      else
        .string

/-
  One character further; the second part is the object that
  it completes.  The depth counts the open braces before the
  character, less one.
-/
def step (scan : Scan) (c : Char) :
    Scan × Option (List Char) :=
  match scan with
  | outside =>
      if c = openBrace then
        (inside [c] 0 .none, none)
      else
        (outside, none)
  | inside taken depth .none =>
      if c = '"' then
        (inside (c :: taken) depth .string, none)
      else if c = openBrace then
        (inside (c :: taken) (depth + 1) .none, none)
      else if c = closeBrace then
        match depth with
        | 0 => (outside, some (c :: taken).reverse)
        | less + 1 => (inside (c :: taken) less .none, none)
      else
        (inside (c :: taken) depth .none, none)
  | inside taken depth quoting =>
      (inside (c :: taken) depth (requote quoting c), none)

/- The objects that a text completes, and the last place. -/
def run (scan : Scan) :
    List Char → List (List Char) × Scan
  | [] => ([], scan)
  | c :: rest =>
      match scan.step c with
      | (next, none) => next.run rest
      | (next, some object) =>
          let (objects, last) := next.run rest
          (object :: objects, last)

end Scan

/-
  Every object of a text whose braces are balanced and that
  stands in no other one.  Braces in strings do not count,
  and an object that is never closed is none.
-/
def objects (text : List Char) : List (List Char) :=
  (Scan.outside.run text).1

end Dashboard.Reply
