/-
  Blank characters, trimming, and the words between blanks.

  Key definitions include:
    * `Text.isBlank`
    * `Text.trim`
    * `Text.words`
-/

------------------------------------------------------------
-- Blank Characters
------------------------------------------------------------

namespace Dashboard.Text

/-
  The white space characters.  A zero width space, a byte
  order mark and the separators U+001C to U+001F are not
  among them.
-/
def isBlank (c : Char) : Bool :=
  let n := c.toNat
  (9 ≤ n && n ≤ 13) || n == 0x20 || n == 0x85 ||
    n == 0xA0 || n == 0x1680 ||
    (0x2000 ≤ n && n ≤ 0x200A) || n == 0x2028 ||
    n == 0x2029 || n == 0x202F || n == 0x205F || n == 0x3000

/- A text without its leading blanks. -/
def trimLeft (text : List Char) : List Char :=
  text.dropWhile isBlank

/- A text without its leading and its trailing blanks. -/
def trim (text : List Char) : List Char :=
  (trimLeft (trimLeft text).reverse).reverse

/- A text that holds nothing but blanks. -/
def blankOnly (text : String) : Bool :=
  text.toList.all isBlank

end Dashboard.Text

------------------------------------------------------------
-- Words
------------------------------------------------------------

namespace Dashboard.Text

/-
  The words of a text, when the characters of `word`, in
  reverse, stand directly before it.
-/
def wordsAfter
    (word : List Char) :
    List Char → List (List Char)
  | [] => if word.isEmpty then [] else [word.reverse]
  | c :: rest =>
      if isBlank c then
        if word.isEmpty then
          wordsAfter [] rest
        else
          word.reverse :: wordsAfter [] rest
      else
        wordsAfter (c :: word) rest

/- The maximal runs of characters that are not blank. -/
def words (text : List Char) : List (List Char) :=
  wordsAfter [] text

end Dashboard.Text
