/-
  Texts as bytes.

  Key definitions include:
    * `Utf8.encodeChar`
    * `Utf8.decode`

  Decoding never fails: each longest part of the bytes that
  begins no character becomes one replacement character.
-/

------------------------------------------------------------
-- Encoding
------------------------------------------------------------

namespace Dashboard.Utf8

/- The bytes of a character. -/
def encodeChar (c : Char) : List Nat :=
  let n := c.toNat
  if n < 0x80 then
    [n]
  else if n < 0x800 then
    [0xC0 + n / 0x40, 0x80 + n % 0x40]
  else if n < 0x10000 then
    [0xE0 + n / 0x1000, 0x80 + n / 0x40 % 0x40,
      0x80 + n % 0x40]
  else
    [0xF0 + n / 0x40000, 0x80 + n / 0x1000 % 0x40,
      0x80 + n / 0x40 % 0x40, 0x80 + n % 0x40]

end Dashboard.Utf8

------------------------------------------------------------
-- Decoding
------------------------------------------------------------

namespace Dashboard.Utf8

/-
  What a first byte announces: how many bytes follow it, and
  between which bounds the next one lies.
-/
def announced? (first : Nat) : Option (Nat × Nat × Nat) :=
  if 0xC2 ≤ first && first ≤ 0xDF then
    some (1, 0x80, 0xBF)
  else if first = 0xE0 then
    some (2, 0xA0, 0xBF)
  else if first = 0xED then
    some (2, 0x80, 0x9F)
  else if 0xE1 ≤ first && first ≤ 0xEF then
    some (2, 0x80, 0xBF)
  else if first = 0xF0 then
    some (3, 0x90, 0xBF)
  else if 0xF1 ≤ first && first ≤ 0xF3 then
    some (3, 0x80, 0xBF)
  else if first = 0xF4 then
    some (3, 0x80, 0x8F)
  else
    none

/- The character that stands for what is no text. -/
def replacement : Char := '\ufffd'

/-
  Take so many following bytes, the first of them between the
  bounds; what has been read so far is `value`.
-/
def follow
    (value low high : Nat) :
    Nat → List Nat → Char × List Nat
  | 0, rest => (Char.ofNat value, rest)
  | _ + 1, [] => (replacement, [])
  | count + 1, byte :: rest =>
      if low ≤ byte && byte ≤ high then
        follow (value * 0x40 + byte % 0x40) 0x80 0xBF count
          rest
      else
        (replacement, byte :: rest)

/- The character that bytes begin with, and the rest. -/
def decodeFirst
    (first : Nat)
    (rest : List Nat) : Char × List Nat :=
  if first < 0x80 then
    (Char.ofNat first, rest)
  else
    match announced? first with
    | none => (replacement, rest)
    | some (count, low, high) =>
        follow (first % Nat.pow 2 (6 - count)) low high count rest

/- Decode at most so many characters. -/
def decodeAtMost : Nat → List Nat → List Char
  | 0, _ => []
  | _ + 1, [] => []
  | count + 1, first :: rest =>
      let (c, after) := decodeFirst first rest
      c :: decodeAtMost count after

/- The text of bytes. -/
def decode (bytes : List Nat) : List Char :=
  decodeAtMost bytes.length bytes

end Dashboard.Utf8
