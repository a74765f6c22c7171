import IrcHarness.Json.Value

/-!
# Writing JSON

The compact text of a value: no blanks, fields in the order of their keys.
Texts escape the quote, the backslash and the control characters below the
blank, and nothing else.

A float is written with the fewest digits that read back. Numbers from 1e-5 up
to below 1e16 are written positionally and always with a fraction, all others
with an exponent whose sign is always there.

## Main definitions

* `Json.writeString`: A text in quotes.
* `Json.writeFloat`: A float.
* `Json.write`: A value.
-/

namespace IrcHarness

namespace Json

/-- How one character of a text is written. -/
def escapeChar (c : Char) : List Char :=
  match c with
  | '"' => ['\\', '"']
  | '\\' => ['\\', '\\']
  | '\x08' => ['\\', 'b']
  | '\x0c' => ['\\', 'f']
  | '\n' => ['\\', 'n']
  | '\r' => ['\\', 'r']
  | '\t' => ['\\', 't']
  | c =>
    if c.toNat < 0x20 then '\\' :: 'u' :: Digit.padded 4 (Digit.hexadecimal c.toNat) else [c]

/-- A text in quotes. -/
def writeString (s : String) : List Char :=
  '"' :: (s.toList.flatMap escapeChar ++ ['"'])

/-- The least power of ten that is written positionally. -/
def minPositional : Int := -5

/-- The least power of ten that is written with an exponent again. -/
def endPositional : Int := 16

/-- An integer and a power of ten, without the zeros at the end of the
    integer. -/
def withoutZeros (digits : List Char) (exponent : Int) : List Char × Int :=
  let kept := (digits.reverse.dropWhile (· = '0')).reverse
  (kept, exponent + (digits.length - kept.length : Nat))

/-- Digits in positional notation. The exponent is that of the last digit. -/
def positional (digits : List Char) (exponent : Int) : List Char :=
  if 0 ≤ exponent then digits ++ List.replicate exponent.toNat '0' ++ ['.', '0']
  else
    let places := (-exponent).toNat
    if digits.length ≤ places then
      '0' :: '.' :: (List.replicate (places - digits.length) '0' ++ digits)
    else
      digits.take (digits.length - places) ++ '.' :: digits.drop (digits.length - places)

/-- Digits with an exponent. The exponent given is that of the first digit. -/
def scientific (digits : List Char) (exponent : Int) : List Char :=
  let sign := if exponent < 0 then '-' else '+'
  let tail := 'e' :: sign :: Digit.decimal exponent.natAbs
  match digits with
  | [] => tail
  | [d] => d :: tail
  | d :: ds => d :: '.' :: (ds ++ tail)

/-- The text of a float without its sign. -/
def writeMagnitude (x : Binary64) : List Char :=
  if x.significand = 0 then ['0', '.', '0']
  else
    let found := Binary64.shortest x
    let (digits, exponent) := withoutZeros (Digit.decimal found.1) found.2
    let lead := exponent + (digits.length : Int) - 1
    if minPositional ≤ lead ∧ lead < endPositional then positional digits exponent
    else scientific digits lead

/-- The text of a float. -/
def writeFloat (x : Binary64) : List Char :=
  if x.negative then '-' :: writeMagnitude x else writeMagnitude x

/-- The text of a number. -/
def writeNumber : Number → List Char
  | .int n => Digit.signedDecimal n
  | .float x => writeFloat x

mutual

/-- The compact text of a value, as characters. -/
def writeChars : Json → List Char
  | .null => ['n', 'u', 'l', 'l']
  | .bool true => ['t', 'r', 'u', 'e']
  | .bool false => ['f', 'a', 'l', 's', 'e']
  | .number n => writeNumber n
  | .string s => writeString s
  | .array [] => ['[', ']']
  | .array (x :: xs) => '[' :: (writeChars x ++ writeItems xs)
  | .object [] => ['\x7b', '\x7d']
  | .object ((k, x) :: fs) => '\x7b' :: (writeString k ++ ':' :: (writeChars x ++ writeFields fs))

/-- The items behind the first one, and the bracket that closes the list. -/
def writeItems : List Json → List Char
  | [] => [']']
  | x :: xs => ',' :: (writeChars x ++ writeItems xs)

/-- The fields behind the first one, and the brace that closes the object. -/
def writeFields : List (String × Json) → List Char
  | [] => ['\x7d']
  | (k, x) :: fs => ',' :: (writeString k ++ ':' :: (writeChars x ++ writeFields fs))

end

/-- The compact text of a value. -/
def write (v : Json) : String :=
  String.ofList v.writeChars

end Json

end IrcHarness
