import Dashboard.Number.Numeral
import Dashboard.Text.Word

/-
  JSON texts as they are written.

  Key definitions include:
    * `RawJson`
    * `RawJson.scan`
    * `RawJson.read?`

  A raw value keeps the members of an object in the order of
  the text, with repeated names, and it keeps the places where
  a string holds half of a surrogate pair, so that a reader
  that skips a value can overlook them.  Numbers are kept as
  they are written.
-/

------------------------------------------------------------
-- Raw Values
------------------------------------------------------------

namespace Dashboard

/-
  A JSON value as it is written.  A string that is no text has
  no content.
-/
inductive RawJson where
  | null
  | bool (value : Bool)
  | number (value : Numeral)
  | string (value : Option String)
  | array (items : List RawJson)
  | object (members : List (Option String × RawJson))

end Dashboard

------------------------------------------------------------
-- Strings
------------------------------------------------------------

namespace Dashboard

namespace RawJson

/-
  A string is written in units: characters that stand for
  themselves and numbers of sixteen bits.
-/
inductive Unit where
  | plain (c : Char)
  | code (n : Nat)
deriving DecidableEq, Repr

/- A number that opens a surrogate pair. -/
def opensPair (n : Nat) : Bool :=
  0xD800 ≤ n && n < 0xDC00

/- A number that closes a surrogate pair. -/
def closesPair (n : Nat) : Bool :=
  0xDC00 ≤ n && n < 0xE000

/- The character that a surrogate pair stands for. -/
def pairChar (high low : Nat) : Char :=
  Char.ofNat
    (0x10000 + (high - 0xD800) * 0x400 + (low - 0xDC00))

/- The text that units stand for. -/
def textOf? : List Unit → Option (List Char)
  | [] => some []
  | .plain c :: rest => (textOf? rest).map (c :: ·)
  | .code n :: rest =>
      if opensPair n then
        match rest with
        | .code m :: more =>
            if closesPair m then
              (textOf? more).map (pairChar n m :: ·)
            else
              none
        | _ => none
      else if closesPair n then
        none
      else
        (textOf? rest).map (Char.ofNat n :: ·)

/- Four hexadecimal digits at the start of a text. -/
def scanCode :
    List Char → Option (Nat × List Char)
  | a :: b :: c :: d :: rest =>
      match
        Text.digitValue? a, Text.digitValue? b,
          Text.digitValue? c, Text.digitValue? d
      with
      | some w, some x, some y, some z =>
          some (((w * 16 + x) * 16 + y) * 16 + z, rest)
      | _, _, _, _ => none
  | _ => none

/- The character that a letter after a backslash means. -/
def escaped? (c : Char) : Option Char :=
  if c = '"' || c = '\\' || c = '/' then
    some c
  else if c = 'b' then
    some '\x08'
  else if c = 'f' then
    some '\x0c'
  else if c = 'n' then
    some '\n'
  else if c = 'r' then
    some '\r'
  else if c = 't' then
    some '\t'
  else
    none

/- What follows a backslash, and the rest of the text. -/
def scanEscape :
    List Char → Option (Unit × List Char)
  | 'u' :: rest =>
      match scanCode rest with
      | some (n, after) => some (.code n, after)
      | none => none
  | c :: rest =>
      match escaped? c with
      | some d => some (.plain d, rest)
      | none => none
  | [] => none

/-
  The units up to the closing quotation mark, and the rest of
  the text.  Control characters have to be escaped.
-/
def scanUnits :
    Nat → List Char → Option (List Unit × List Char)
  | 0, _ => none
  | _, [] => none
  | fuel + 1, c :: rest =>
      if c = '"' then
        some ([], rest)
      else if c = '\\' then
        match scanEscape rest with
        | none => none
        | some (unit, after) =>
            match scanUnits fuel after with
            | none => none
            | some (units, last) => some (unit :: units, last)
      else if c.toNat < 32 then
        none
      else
        match scanUnits fuel rest with
        | none => none
        | some (units, last) => some (.plain c :: units, last)

/-
  The string whose opening quotation mark stands directly
  before the text, and the rest of the text.
-/
def scanString
    (text : List Char) :
    Option (Option String × List Char) :=
  match scanUnits text.length text with
  | none => none
  | some (units, rest) =>
      some ((textOf? units).map String.ofList, rest)

end RawJson

end Dashboard

------------------------------------------------------------
-- Numbers
------------------------------------------------------------

namespace Dashboard

namespace RawJson

/- The digits before the point, without a leading zero. -/
def scanWhole
    (text : List Char) :
    Option (List Char × List Char) :=
  let digits := text.takeWhile Text.isDigit
  let rest := text.dropWhile Text.isDigit
  match digits with
  | [] => none
  | '0' :: _ :: _ => none
  | _ => some (digits, rest)

/- The digits after a point, if there is a point. -/
def scanFraction
    (text : List Char) :
    Option (Option (List Char) × List Char) :=
  match text with
  | '.' :: rest =>
      let digits := rest.takeWhile Text.isDigit
      if digits.isEmpty then
        none
      else
        some (some digits, rest.dropWhile Text.isDigit)
  | _ => some (none, text)

/- The digits of an exponent with their sign. -/
def scanExponentDigits
    (negative : Bool)
    (text : List Char) :
    Option (Option Int × List Char) :=
  let digits := text.takeWhile Text.isDigit
  if digits.isEmpty then
    none
  else
    some
      (some (Binary.signed negative (Decimal.valueOf digits)),
        text.dropWhile Text.isDigit)

/- The exponent, if there is one. -/
def scanExponent
    (text : List Char) :
    Option (Option Int × List Char) :=
  match text with
  | [] => some (none, [])
  | mark :: rest =>
      if mark = 'e' || mark = 'E' then
        match rest with
        | '+' :: digits => scanExponentDigits false digits
        | '-' :: digits => scanExponentDigits true digits
        | digits => scanExponentDigits false digits
      else
        some (none, text)

/- The numeral at the start of a text without its sign. -/
def scanMagnitude
    (negative : Bool)
    (text : List Char) :
    Option (Numeral × List Char) :=
  match scanWhole text with
  | none => none
  | some (whole, afterWhole) =>
      match scanFraction afterWhole with
      | none => none
      | some (fraction, afterFraction) =>
          match scanExponent afterFraction with
          | none => none
          | some (exponent, rest) =>
              some
                (⟨negative, whole, fraction, exponent⟩, rest)

/- The numeral at the start of a text. -/
def scanNumber :
    List Char → Option (Numeral × List Char)
  | '-' :: rest => scanMagnitude true rest
  | text => scanMagnitude false text

end RawJson

end Dashboard

------------------------------------------------------------
-- Values
------------------------------------------------------------

namespace Dashboard

namespace RawJson

/- The characters that may stand between tokens. -/
def isSpace (c : Char) : Bool :=
  c == ' ' || c == '\n' || c == '\t' || c == '\r'

/- A text without its leading spaces. -/
def skip (text : List Char) : List Char :=
  text.dropWhile isSpace

/- The text after a fixed word, if it starts with it. -/
def afterWord?
    (word : String)
    (text : List Char) : Option (List Char) :=
  if word.toList.isPrefixOf text then
    some (text.drop word.length)
  else
    none

/- A value written as a fixed word, and the rest. -/
def scanWord
    (word : String)
    (value : RawJson)
    (text : List Char) :
    Option (RawJson × List Char) :=
  (afterWord? word text).map fun rest => (value, rest)

mutual

/- The value at the start of a text, and the rest. -/
def scanValue :
    Nat → List Char → Option (RawJson × List Char)
  | 0, _ => none
  | fuel + 1, text =>
      match skip text with
      | '[' :: rest =>
          match skip rest with
          | ']' :: after => some (array [], after)
          | _ =>
              (scanItems fuel rest).map fun r =>
                (array r.1, r.2)
      | '\x7b' :: rest =>
          match skip rest with
          | '\x7d' :: after => some (object [], after)
          | _ =>
              (scanMembers fuel rest).map fun r =>
                (object r.1, r.2)
      | '"' :: rest =>
          (scanString rest).map fun r => (string r.1, r.2)
      | 't' :: rest => scanWord "true" (bool true) ('t' :: rest)
      | 'f' :: rest =>
          scanWord "false" (bool false) ('f' :: rest)
      | 'n' :: rest => scanWord "null" null ('n' :: rest)
      | other =>
          (scanNumber other).map fun r => (number r.1, r.2)

/- The items of an array and the rest after its bracket. -/
def scanItems :
    Nat → List Char → Option (List RawJson × List Char)
  | 0, _ => none
  | fuel + 1, text =>
      match scanValue fuel text with
      | none => none
      | some (item, rest) =>
          match skip rest with
          | ']' :: after => some ([item], after)
          | ',' :: more =>
              (scanItems fuel more).map fun r =>
                (item :: r.1, r.2)
          | _ => none

/- The members of an object and the rest after its brace. -/
def scanMembers :
    Nat → List Char →
      Option (List (Option String × RawJson) × List Char)
  | 0, _ => none
  | fuel + 1, text =>
      match skip text with
      | '"' :: opened =>
          match scanString opened with
          | none => none
          | some (name, afterName) =>
              match skip afterName with
              | ':' :: afterColon =>
                  match scanValue fuel afterColon with
                  | none => none
                  | some (value, rest) =>
                      match skip rest with
                      | '\x7d' :: after =>
                          some ([(name, value)], after)
                      | ',' :: more =>
                          (scanMembers fuel more).map fun r =>
                            ((name, value) :: r.1, r.2)
                      | _ => none
              | _ => none
      | _ => none

end

/-
  The value at the start of a text, and the rest.  A level of
  nesting and an item each take at least one character, and
  neither takes more than two steps.
-/
def scan
    (text : List Char) :
    Option (RawJson × List Char) :=
  scanValue (2 * text.length + 2) text

/- The value that a whole text is. -/
def read? (text : List Char) : Option RawJson :=
  match scan text with
  | none => none
  | some (value, rest) =>
      if (skip rest).isEmpty then some value else none

end RawJson

end Dashboard
