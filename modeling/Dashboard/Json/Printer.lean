import Dashboard.Json.Basic

/-
  Writing JSON without spaces.

  Key definitions include:
    * `Json.escape`
    * `Json.write`
    * `Json.print`

  A string escapes the quotation mark, the backslash and the
  control characters, and nothing else.
-/

------------------------------------------------------------
-- Strings
------------------------------------------------------------

namespace Dashboard

namespace Json

/- The lowercase hexadecimal digit of a number below 16. -/
def hexDigit (n : Nat) : Char :=
  if n < 10 then
    Char.ofNat (n + 48)
  else
    Char.ofNat (n + 87)

/- One character of a string. -/
def escape (c : Char) : List Char :=
  if c = '"' then
    ['\\', '"']
  else if c = '\\' then
    ['\\', '\\']
  else if c = '\n' then
    ['\\', 'n']
  else if c = '\r' then
    ['\\', 'r']
  else if c = '\t' then
    ['\\', 't']
  else if c.toNat = 8 then
    ['\\', 'b']
  else if c.toNat = 12 then
    ['\\', 'f']
  else if c.toNat < 32 then
    ['\\', 'u', '0', '0', hexDigit (c.toNat / 16),
      hexDigit (c.toNat % 16)]
  else
    [c]

/- A string between quotation marks. -/
def writeString (text : List Char) : List Char :=
  '"' :: text.flatMap escape ++ ['"']

end Json

end Dashboard

------------------------------------------------------------
-- Values
------------------------------------------------------------

namespace Dashboard

namespace Json

/- An integer in decimal digits. -/
def writeInteger (n : Int) : List Char :=
  (if n < 0 then ['-'] else []) ++ Decimal.digitsOf n.natAbs

/- A number; one that is not finite becomes `null`. -/
def writeNumber : JsonNumber → List Char
  | .integer n => writeInteger n
  | .float x =>
      if x.isFinite then
        NumberStyle.data.write x
      else
        ['n', 'u', 'l', 'l']

mutual

/- A value without spaces. -/
def write : Json → List Char
  | null => ['n', 'u', 'l', 'l']
  | bool true => ['t', 'r', 'u', 'e']
  | bool false => ['f', 'a', 'l', 's', 'e']
  | number n => writeNumber n
  | string s => writeString s.toList
  | array items => '[' :: writeItems items
  | object members => '\x7b' :: writeMembers members

/- The items of an array, up to its closing bracket. -/
def writeItems : List Json → List Char
  | [] => [']']
  | item :: rest => write item ++ writeMoreItems rest

/- The items after the first one, each after a comma. -/
def writeMoreItems : List Json → List Char
  | [] => [']']
  | item :: rest => ',' :: write item ++ writeMoreItems rest

/- The members of an object, up to its closing brace. -/
def writeMembers : List (String × Json) → List Char
  | [] => ['\x7d']
  | (name, value) :: rest =>
      writeString name.toList ++
        ':' :: write value ++ writeMoreMembers rest

/- The members after the first one, each after a comma. -/
def writeMoreMembers : List (String × Json) → List Char
  | [] => ['\x7d']
  | (name, value) :: rest =>
      ',' :: writeString name.toList ++
        ':' :: write value ++ writeMoreMembers rest

end

/- A value as a string without spaces. -/
def print (json : Json) : String :=
  String.ofList json.write

end Json

end Dashboard
