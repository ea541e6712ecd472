/-
  Finding one text inside another, and the pieces of a text.

  Key definitions include:
    * `Text.occurs`
    * `Text.lastOccurrence`
    * `Text.pieces`

  The empty text occurs everywhere, and its last occurrence
  is the end of the text that is searched.
-/

------------------------------------------------------------
-- Occurrences
------------------------------------------------------------

namespace Dashboard.Text

/- Whether `phrase` stands somewhere in the text. -/
def occurs (phrase : List Char) : List Char → Bool
  | [] => phrase.isEmpty
  | c :: rest =>
      phrase.isPrefixOf (c :: rest) || occurs phrase rest

/-
  The number of characters before the last place of the text
  at which `phrase` stands.
-/
def lastOccurrence
    (phrase : List Char) :
    List Char → Option Nat
  | [] => if phrase.isEmpty then some 0 else none
  | c :: rest =>
      match lastOccurrence phrase rest with
      | some place => some (place + 1)
      | none =>
          if phrase.isPrefixOf (c :: rest) then some 0 else none

end Dashboard.Text

------------------------------------------------------------
-- Pieces
------------------------------------------------------------

namespace Dashboard.Text

/-
  The pieces of a text, when the characters of `piece`, in
  reverse, stand directly before it.
-/
def piecesAfter
    (mark : Char)
    (piece : List Char) :
    List Char → List (List Char)
  | [] => [piece.reverse]
  | c :: rest =>
      if c = mark then
        piece.reverse :: piecesAfter mark [] rest
      else
        piecesAfter mark (c :: piece) rest

/- What stands between the places where a mark stands. -/
def pieces
    (mark : Char)
    (text : List Char) : List (List Char) :=
  piecesAfter mark [] text

end Dashboard.Text
