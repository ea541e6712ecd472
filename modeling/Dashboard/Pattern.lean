import Dashboard.Text.Blank
import Dashboard.Text.Word

/-
  Patterns over texts, matched leftmost first.

  Key definitions include:
    * `Pattern`
    * `Pattern.follow`
    * `Pattern.find`

  Where a pattern allows several continuations they are tried
  in a fixed order: a run takes as many characters as it can
  and gives them back one by one, and of two alternatives the
  first is tried first.  The earliest place of the text from
  which any continuation succeeds decides the match.
-/

------------------------------------------------------------
-- Patterns
------------------------------------------------------------

namespace Dashboard

/-
  A pattern is built from single characters, runs of
  characters, word edges, sequences, ordered alternatives and
  groups.  The text of a group is reported with the match.
-/
inductive Pattern where
  | nothing
  | char (accepts : Char → Bool)
  | run (accepts : Char → Bool)
  | edge
  | both (first second : Pattern)
  | either (first second : Pattern)
  | group (body : Pattern)

namespace Pattern

/- At least one of the accepted characters. -/
def some1 (accepts : Char → Bool) : Pattern :=
  both (char accepts) (run accepts)

/- The body, or nothing where the body does not fit. -/
def optional (body : Pattern) : Pattern :=
  either body nothing

/- The patterns one after another. -/
def sequence (parts : List Pattern) : Pattern :=
  parts.foldr both nothing

/- The first of the patterns that fits. -/
def choice
    (first : Pattern) :
    List Pattern → Pattern
  | [] => first
  | second :: more => either first (choice second more)

/- The characters of a fixed text. -/
def text (wanted : String) : Pattern :=
  sequence (wanted.toList.map fun c => char (· == c))

/- At least one blank. -/
def blanks : Pattern :=
  some1 Text.isBlank

/- Any number of blanks. -/
def spacing : Pattern :=
  run Text.isBlank

end Pattern

end Dashboard

------------------------------------------------------------
-- Letters In Either Case
------------------------------------------------------------

namespace Dashboard

namespace Pattern

/-
  Two letters that differ in case only.  The long s counts
  as an s and the kelvin sign as a k.
-/
def sameLetter (wanted c : Char) : Bool :=
  wanted.toLower == c.toLower ||
    (wanted.toLower == 's' && c == 'ſ') ||
    (wanted.toLower == 'k' && c.toNat == 0x212A)

/- The characters of a fixed text in either case. -/
def letters (wanted : String) : Pattern :=
  sequence (wanted.toList.map fun c => char (sameLetter c))

/-
  The letters, digits and underscore, with the long s and
  the kelvin sign among the letters.
-/
def isNameLetter (c : Char) : Bool :=
  Text.isNameChar c || c == 'ſ' || c.toNat == 0x212A

end Pattern

end Dashboard

------------------------------------------------------------
-- Matching
------------------------------------------------------------

namespace Dashboard

/-
  A place in a text: the characters before it, the nearest
  one first, and the characters after it.
-/
structure Place where
  before : List Char
  after : List Char
deriving DecidableEq, Repr

/- A part of a text: the places where it starts and stops. -/
structure Span where
  start : Place
  stop : Place
deriving DecidableEq, Repr

/- The characters of a part of a text. -/
def Span.text (span : Span) : List Char :=
  (span.stop.before.take
    (span.stop.before.length -
      span.start.before.length)).reverse

/-
  What a pattern found: the part of the text, and the parts
  that its groups took, from left to right.
-/
structure Match where
  whole : Span
  groups : List Span
deriving DecidableEq, Repr

/- The text before the match. -/
def Match.head (found : Match) : List Char :=
  found.whole.start.before.reverse

/- The text of a group, if the group took part. -/
def Match.group?
    (found : Match)
    (index : Nat) :
    Option (List Char) :=
  found.groups[index]?.map Span.text

namespace Pattern

variable {α : Type}

/-
  Take a run of accepted characters, the longest first, and
  continue after it.
-/
def followRun
    (accepts : Char → Bool)
    (next : Place → Option α)
    (before : List Char) :
    List Char → Option α
  | [] => next ⟨before, []⟩
  | c :: rest =>
      if accepts c then
        (followRun accepts next (c :: before) rest).or
          (next ⟨before, c :: rest⟩)
      else
        next ⟨before, c :: rest⟩

/-
  Match a pattern at a place and continue after it with the
  groups found so far.
-/
def follow
    (pattern : Pattern)
    (place : Place)
    (groups : List Span)
    (next : Place → List Span → Option α) :
    Option α :=
  match pattern with
  | nothing => next place groups
  | char accepts =>
      match place.after with
      | [] => none
      | c :: rest =>
          if accepts c then
            next ⟨c :: place.before, rest⟩ groups
          else
            none
  | run accepts =>
      followRun accepts (fun stop => next stop groups)
        place.before place.after
  | edge =>
      if Text.isEdge place.before.head? place.after.head? then
        next place groups
      else
        none
  | both first second =>
      follow first place groups fun stop found =>
        follow second stop found next
  | either first second =>
      match follow first place groups next with
      | some result => some result
      | none => follow second place groups next
  | group body =>
      follow body place groups fun stop found =>
        next stop (found ++ [⟨place, stop⟩])

/- The match of a pattern that starts at a place. -/
def matchAt
    (pattern : Pattern)
    (start : Place) :
    Option Match :=
  pattern.follow start [] fun stop groups =>
    some ⟨⟨start, stop⟩, groups⟩

/- The first match at or after a place. -/
def findAfter
    (pattern : Pattern)
    (before : List Char) :
    List Char → Option Match
  | [] => pattern.matchAt ⟨before, []⟩
  | c :: rest =>
      match pattern.matchAt ⟨before, c :: rest⟩ with
      | some found => some found
      | none => pattern.findAfter (c :: before) rest

/- The first match anywhere in a text. -/
def find
    (pattern : Pattern)
    (text : List Char) :
    Option Match :=
  pattern.findAfter [] text

/- Whether a pattern fits anywhere in a text. -/
def fits
    (pattern : Pattern)
    (text : List Char) : Bool :=
  (pattern.find text).isSome

end Pattern

end Dashboard
