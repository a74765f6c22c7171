import IrcHarness.Json.Value

/-!
# Reading JSON

The value of a JSON text. The reader takes what it needs off the front of a
list of characters and hands back the rest. Nesting is bounded by an amount
that is taken from the length of the text, which no text can exceed.

A number without fraction and exponent is an integer as long as it fits 64
bits, signed or unsigned, and a float otherwise. Minus zero is a float, since
no integer has that sign. Of a float, as many digits count as fit 64 bits.

## Main definitions

* `Json.readNumber`: A number off the front of a text.
* `Json.readString`: A text off the front of a text, behind its first quote.
* `Json.readValue`: A value off the front of a text.
* `Json.read?`: The value of a whole text.
-/

namespace IrcHarness

namespace Json

/-- A text without the blanks in front. -/
def dropSpace (cs : List Char) : List Char :=
  cs.dropWhile fun c => c = ' ' || c = '\t' || c = '\n' || c = '\r'

/-- The largest integer. -/
def maxInteger : Nat := 18446744073709551615

/-- The largest magnitude of a negative integer. -/
def maxNegative : Nat := 9223372036854775808

/-- As many of the digits as give a number that fits, as that number, and the
    digits left over. -/
def fitting (n : Nat) : List Char → Nat × List Char
  | [] => (n, [])
  | c :: cs =>
    let next := Digit.read 10 [c] + 10 * n
    if next ≤ maxInteger then fitting next cs else (n, c :: cs)

/-- A float from its whole digits, its fraction digits and its exponent. -/
def floatOf (negative : Bool) (whole fraction : List Char) (exponent : Int) : Option Number :=
  let (n, left) := fitting 0 whole
  let (significand, power) : Nat × Int :=
    if left = [] then
      let (m, leftover) := fitting n fraction
      (m, exponent - ((fraction.length - leftover.length : Nat) : Int))
    else (n, exponent + (left.length : Int))
  match Binary64.ofDecimal significand power with
  | none => none
  | some x => some (.float (if negative then x.negate else x))

/-- An integer, or the float nearest to it when it does not fit. -/
def integerOf (negative : Bool) (whole : List Char) : Option Number :=
  let n := Digit.read 10 whole
  if negative then
    if n = 0 then some (.float Binary64.zero.negate)
    else if n ≤ maxNegative then some (.int (-(n : Int)))
    else floatOf true whole [] 0
  else if n ≤ maxInteger then some (.int n)
  else floatOf false whole [] 0

/-- An exponent off the front of a text, behind its letter. -/
def readExponent (cs : List Char) : Option (Int × List Char) :=
  let (negative, rest) : Bool × List Char := match cs with
    | '-' :: rest => (true, rest)
    | '+' :: rest => (false, rest)
    | _ => (false, cs)
  match rest.takeWhile (Digit.isDigitIn 10) with
  | [] => none
  | digits =>
    let n : Int := Digit.read 10 digits
    some (if negative then -n else n, rest.dropWhile (Digit.isDigitIn 10))

/-- A fraction off the front of a text, none when there is no point. -/
def readFraction : List Char → Option (Option (List Char) × List Char)
  | '.' :: rest =>
    match rest.takeWhile (Digit.isDigitIn 10) with
    | [] => none
    | digits => some (some digits, rest.dropWhile (Digit.isDigitIn 10))
  | cs => some (none, cs)

/-- A number off the front of a text. -/
def readNumber (cs : List Char) : Option (Number × List Char) :=
  let (negative, rest) : Bool × List Char := match cs with
    | '-' :: rest => (true, rest)
    | _ => (false, cs)
  match rest.takeWhile (Digit.isDigitIn 10) with
  | [] => none
  | whole =>
    if whole.head? = some '0' ∧ whole.length ≠ 1 then none
    else match readFraction (rest.dropWhile (Digit.isDigitIn 10)) with
      | none => none
      | some (fraction, rest) =>
        let digits := fraction.getD []
        match rest with
        | 'e' :: tail | 'E' :: tail =>
          match readExponent tail with
          | none => none
          | some (exponent, rest) =>
            (floatOf negative whole digits exponent).map fun n => (n, rest)
        | _ =>
          match fraction with
          | none => (integerOf negative whole).map fun n => (n, rest)
          | some _ => (floatOf negative whole digits 0).map fun n => (n, rest)

/-- Four hexadecimal digits off the front of a text. -/
def readUnit : List Char → Option (Nat × List Char)
  | a :: b :: c :: d :: rest =>
    if [a, b, c, d].all (Digit.isDigitIn 16) then some (Digit.read 16 [a, b, c, d], rest) else none
  | _ => none

/-- A character off the front of a text, behind the letter of its escape. Two
    halves of an encoding by sixteen bits make one character. -/
def readEscape : List Char → Option (Char × List Char)
  | 'u' :: rest =>
    match readUnit rest with
    | none => none
    | some (unit, rest) =>
      if unit < 0xD800 ∨ 0xDFFF < unit then some (Char.ofNat unit, rest)
      else match rest with
        | '\\' :: 'u' :: rest =>
          match readUnit rest with
          | none => none
          | some (low, rest) =>
            if unit < 0xDC00 ∧ 0xDC00 ≤ low ∧ low ≤ 0xDFFF then
              some (Char.ofNat (0x10000 + (unit - 0xD800) * 0x400 + (low - 0xDC00)), rest)
            else none
        | _ => none
  | '"' :: rest => some ('"', rest)
  | '\\' :: rest => some ('\\', rest)
  | '/' :: rest => some ('/', rest)
  | 'b' :: rest => some ('\x08', rest)
  | 'f' :: rest => some ('\x0c', rest)
  | 'n' :: rest => some ('\n', rest)
  | 'r' :: rest => some ('\r', rest)
  | 't' :: rest => some ('\t', rest)
  | _ => none

/-- The characters of a text behind its first quote, in reverse, and what
    follows its last quote. -/
def readString : Nat → List Char → List Char → Option (String × List Char)
  | 0, _, _ => none
  | _ + 1, _, [] => none
  | fuel + 1, read, c :: rest =>
    if c = '"' then some (String.ofList read.reverse, rest)
    else if c = '\\' then
      match readEscape rest with
      | none => none
      | some (d, rest) => readString fuel (d :: read) rest
    else if c.toNat < 0x20 then none
    else readString fuel (c :: read) rest

/-- A text without a word in front, none when it starts otherwise. -/
def dropWord : List Char → List Char → Option (List Char)
  | [], cs => some cs
  | w :: word, c :: cs => if w = c then dropWord word cs else none
  | _ :: _, [] => none

mutual

/-- A value off the front of a text. -/
def readValue : Nat → List Char → Option (Json × List Char)
  | 0, _ => none
  | fuel + 1, cs =>
    match dropSpace cs with
    | '"' :: rest => (readString (rest.length + 1) [] rest).map fun r => (.string r.1, r.2)
    | '[' :: rest =>
      match dropSpace rest with
      | ']' :: rest => some (.array [], rest)
      | rest => (readItems fuel rest).map fun r => (.array r.1, r.2)
    | '\x7b' :: rest =>
      match dropSpace rest with
      | '\x7d' :: rest => some (.object [], rest)
      | rest => (readEntries fuel rest).map fun r => (Json.ofFields r.1, r.2)
    | 't' :: rest => (dropWord ['r', 'u', 'e'] rest).map fun r => (.bool true, r)
    | 'f' :: rest => (dropWord ['a', 'l', 's', 'e'] rest).map fun r => (.bool false, r)
    | 'n' :: rest => (dropWord ['u', 'l', 'l'] rest).map fun r => (.null, r)
    | rest => (readNumber rest).map fun r => (.number r.1, r.2)

/-- The items of a list and the bracket that closes it. -/
def readItems : Nat → List Char → Option (List Json × List Char)
  | 0, _ => none
  | fuel + 1, cs =>
    match readValue fuel cs with
    | none => none
    | some (v, rest) =>
      match dropSpace rest with
      | ']' :: rest => some ([v], rest)
      | ',' :: rest => (readItems fuel rest).map fun r => (v :: r.1, r.2)
      | _ => none

/-- The assignments of an object and the brace that closes it. -/
def readEntries : Nat → List Char → Option (List (String × Json) × List Char)
  | 0, _ => none
  | fuel + 1, cs =>
    match dropSpace cs with
    | '"' :: rest =>
      match readString (rest.length + 1) [] rest with
      | none => none
      | some (key, rest) =>
        match dropSpace rest with
        | ':' :: rest =>
          match readValue fuel rest with
          | none => none
          | some (v, rest) =>
            match dropSpace rest with
            | '\x7d' :: rest => some ([(key, v)], rest)
            | ',' :: rest => (readEntries fuel rest).map fun r => ((key, v) :: r.1, r.2)
            | _ => none
        | _ => none
    | _ => none

end

/-- The value of a text that holds one value and nothing else. -/
def read? (text : String) : Option Json :=
  let cs := text.toList
  match readValue (2 * cs.length + 2) cs with
  | some (v, rest) => if dropSpace rest = [] then some v else none
  | none => none

end Json

end IrcHarness
