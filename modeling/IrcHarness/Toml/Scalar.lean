import IrcHarness.Text.Digit
import IrcHarness.Text.Ascii
import IrcHarness.History.Timestamp
import IrcHarness.Toml.Value

/-!
# TOML Scalars

Texts, numbers and points in time as TOML writes them. Each reader takes its
value off the front of a list of characters.

Texts come in four kinds: with escapes or literal, on one line or on several.
A text on several lines starts behind the first line end, has LF for every
line end, and may end in up to two quotes of its own kind in front of the
three that close it.

What starts with a digit is read as a point in time if it can be, else as a
float, else as an integer. A date has to exist. Underscores may stand between
digits only.

## Main definitions

* `Toml.dropNewline`: A line end off the front of a text.
* `Toml.readText`: A text of any kind.
* `Toml.readDatetime`, `Toml.readFloat`, `Toml.readInteger`: The rest.
-/

namespace IrcHarness

namespace Toml

/-- Blanks within a line. -/
def isBlank (c : Char) : Bool := c = ' ' || c = '\t'

/-- A text without blanks in front. -/
def dropBlanks (cs : List Char) : List Char := cs.dropWhile isBlank

/-- A text without a line end in front, which is LF or CR LF. -/
def dropNewline : List Char → Option (List Char)
  | '\n' :: rest => some rest
  | '\r' :: '\n' :: rest => some rest
  | _ => none

/-- Characters that a text on one line may hold as they are, quotes and
    backslashes apart. -/
def isPlain (c : Char) : Bool :=
  c = '\t' || (0x20 ≤ c.toNat && c.toNat ≠ 0x7F)

/-- A character by so many hexadecimal digits. -/
def readCodePoint (width : Nat) (cs : List Char) : Option (Char × List Char) :=
  let digits := cs.take width
  if digits.length = width ∧ digits.all (Digit.isDigitIn 16) then
    let n := Digit.read 16 digits
    if n < 0xD800 ∨ (0xDFFF < n ∧ n ≤ 0x10FFFF) then some (Char.ofNat n, cs.drop width) else none
  else none

/-- A character behind the backslash of its escape. -/
def readEscape : List Char → Option (Char × List Char)
  | 'b' :: rest => some ('\x08', rest)
  | 't' :: rest => some ('\t', rest)
  | 'n' :: rest => some ('\n', rest)
  | 'f' :: rest => some ('\x0c', rest)
  | 'r' :: rest => some ('\r', rest)
  | '"' :: rest => some ('"', rest)
  | '\\' :: rest => some ('\\', rest)
  | 'u' :: rest => readCodePoint 4 rest
  | 'U' :: rest => readCodePoint 8 rest
  | _ => none

/-- Line ends and blanks off the front of a text, at most `n` of them. -/
def dropLines : Nat → List Char → List Char
  | 0, cs => cs
  | n + 1, cs =>
    match cs with
    | c :: rest =>
      if isBlank c then dropLines n rest
      else match dropNewline cs with
        | some rest => dropLines n rest
        | none => cs
    | [] => []

/-- The rest of a text on one line, up to its closing quote. What was read so
    far is given in reverse. -/
def readLine (quote : Char) : Nat → List Char → List Char → Option (String × List Char)
  | 0, _, _ => none
  | _ + 1, _, [] => none
  | fuel + 1, read, c :: rest =>
    if c = quote then some (String.ofList read.reverse, rest)
    else if c = '\\' ∧ quote = '"' then
      match readEscape rest with
      | none => none
      | some (d, rest) => readLine quote fuel (d :: read) rest
    else if isPlain c then readLine quote fuel (c :: read) rest
    else none

/-- The rest of a text on several lines, up to its three closing quotes. What
    was read so far is given in reverse. -/
def readLines (quote : Char) : Nat → List Char → List Char → Option (String × List Char)
  | 0, _, _ => none
  | _ + 1, _, [] => none
  | fuel + 1, read, c :: rest =>
    if c = quote then
      let quotes := ((c :: rest).takeWhile (· = quote)).length
      if quotes < 3 then readLines quote fuel (c :: read) rest
      else
        let own := min (quotes - 3) 2
        some (String.ofList (List.replicate own quote ++ read).reverse, rest.drop (own + 2))
    else if c = '\\' ∧ quote = '"' then
      match dropNewline (dropBlanks rest) with
      | some rest => readLines quote fuel read (dropLines (rest.length + 1) rest)
      | none =>
        match readEscape rest with
        | none => none
        | some (d, rest) => readLines quote fuel (d :: read) rest
    else match dropNewline (c :: rest) with
      | some rest => readLines quote fuel ('\n' :: read) rest
      | none => if isPlain c then readLines quote fuel (c :: read) rest else none

/-- A text on one line, with its quotes. -/
def readLineText : List Char → Option (String × List Char)
  | '"' :: rest => readLine '"' (rest.length + 1) [] rest
  | '\'' :: rest => readLine '\'' (rest.length + 1) [] rest
  | _ => none

/-- The body of a text on several lines, behind its opening quotes. -/
def readLinesText (quote : Char) (cs : List Char) : Option (String × List Char) :=
  readLines quote (cs.length + 1) [] ((dropNewline cs).getD cs)

/-- A text of any kind, with its quotes. -/
def readText : List Char → Option (String × List Char)
  | '"' :: '"' :: '"' :: rest => readLinesText '"' rest
  | '\'' :: '\'' :: '\'' :: rest => readLinesText '\'' rest
  | cs => readLineText cs

/-- Digits behind a first one, each with an underscore allowed in front. The
    underscores are dropped. -/
def moreDigits (base : Nat) : List Char → List Char × List Char
  | [] => ([], [])
  | '_' :: c :: rest =>
    if Digit.isDigitIn base c then
      let r := moreDigits base rest
      (c :: r.1, r.2)
    else ([], '_' :: c :: rest)
  | c :: rest =>
    if Digit.isDigitIn base c then
      let r := moreDigits base rest
      (c :: r.1, r.2)
    else ([], c :: rest)

/-- Digits off the front of a text, with an underscore allowed between two of
    them. -/
def readDigits (base : Nat) : List Char → List Char × List Char
  | [] => ([], [])
  | c :: rest =>
    if Digit.isDigitIn base c then
      let r := moreDigits base rest
      (c :: r.1, r.2)
    else ([], c :: rest)

/-- The largest integer. -/
def maxInteger : Nat := 9223372036854775807

/-- A sign off the front of a text, and whether it is a minus. -/
def readSign : List Char → Bool × List Char
  | '-' :: rest => (true, rest)
  | '+' :: rest => (false, rest)
  | cs => (false, cs)

/-- Decimal digits off the front of a text, where a zero stands alone. -/
def readWhole : List Char → Option (List Char × List Char)
  | '0' :: rest => some (['0'], rest)
  | cs =>
    match readDigits 10 cs with
    | ([], _) => none
    | r => some r

/-- An integer in a base other than ten, behind its mark. -/
def readBased (base : Nat) (cs : List Char) : Option (Int × List Char) :=
  match readDigits base cs with
  | ([], _) => none
  | (digits, rest) =>
    let n := Digit.read base digits
    if n ≤ maxInteger then some (n, rest) else none

/-- An integer off the front of a text. -/
def readInteger : List Char → Option (Int × List Char)
  | '0' :: 'x' :: rest => readBased 16 rest
  | '0' :: 'o' :: rest => readBased 8 rest
  | '0' :: 'b' :: rest => readBased 2 rest
  | cs =>
    let (negative, rest) := readSign cs
    match readWhole rest with
    | none => none
    | some (digits, rest) =>
      let n := Digit.read 10 digits
      if negative then (if n ≤ maxInteger + 1 then some (-(n : Int), rest) else none)
      else if n ≤ maxInteger then some (n, rest) else none

/-- An exponent off the front of a text, none when there is none. -/
def readExponent : List Char → Option (Option Int × List Char)
  | c :: rest =>
    if c = 'e' ∨ c = 'E' then
      let (negative, rest) := readSign rest
      match readDigits 10 rest with
      | ([], _) => none
      | (digits, rest) =>
        let n : Int := Digit.read 10 digits
        some (some (if negative then -n else n), rest)
    else some (none, c :: rest)
  | [] => some (none, [])

/-- A fraction off the front of a text, none when there is none. -/
def readFraction : List Char → Option (Option (List Char) × List Char)
  | '.' :: rest =>
    match readDigits 10 rest with
    | ([], _) => none
    | (digits, rest) => some (some digits, rest)
  | cs => some (none, cs)

/-- With more digits than this in front of the point a number is out of the
    range of floats of 64 bits, and with two less it is not. -/
def maxFloatDigits : Int := 310

/-- Whether a magnitude, as an integer and a power of ten, is out of the range
    of floats of 64 bits. Halfway to the next power of two is out of range. -/
def isInfinite (digits : List Char) (exponent : Int) : Bool :=
  let significant := digits.dropWhile (· = '0')
  let lead : Int := (significant.length : Int) + exponent
  if significant = [] then false
  else if maxFloatDigits < lead then true
  else if lead < maxFloatDigits - 2 then false
  else
    let n := Digit.read 10 significant
    let limit := Nat.pow 2 1024 - Nat.pow 2 970
    if 0 ≤ exponent then limit ≤ n * Nat.pow 10 exponent.toNat
    else limit * Nat.pow 10 (-exponent).toNat ≤ n

/-- A float off the front of a text, which has a fraction, an exponent, or is
    one of the special ones. A float that would be positive infinity without
    saying so is refused. -/
def readFloat (cs : List Char) : Option (String × List Char) :=
  let taken (rest : List Char) : String := String.ofList (cs.take (cs.length - rest.length))
  let (negative, body) := readSign cs
  match body with
  | 'i' :: 'n' :: 'f' :: rest => some (taken rest, rest)
  | 'n' :: 'a' :: 'n' :: rest => some (taken rest, rest)
  | _ =>
    match readWhole body with
    | none => none
    | some (whole, rest) =>
      match readFraction rest with
      | none => none
      | some (fraction, rest) =>
        match readExponent rest with
        | none => none
        | some (exponent, rest) =>
          if fraction.isNone && exponent.isNone then none
          else
            let places := fraction.getD []
            let power := exponent.getD 0 - (places.length : Int)
            if !negative && isInfinite (whole ++ places) power then none
            else some (taken rest, rest)

/-- A time of day off the front of a text. -/
def dropTime (cs : List Char) : Option (List Char) := do
  let (hour, cs) ← Timestamp.readFixed 2 cs
  let cs ← Timestamp.readMark ':' cs
  let (minute, cs) ← Timestamp.readFixed 2 cs
  let cs ← Timestamp.readMark ':' cs
  let (second, cs) ← Timestamp.readFixed 2 cs
  if 23 < hour ∨ 59 < minute ∨ 60 < second then none
  else (Timestamp.readFraction cs).map Prod.snd

/-- A distance from UTC off the front of a text, or nothing. -/
def dropOffset (cs : List Char) : Option (List Char) :=
  match cs with
  | '\u2212' :: _ => some cs
  | 'Z' :: _ | 'z' :: _ | '+' :: _ | '-' :: _ => (Timestamp.readOffset cs).map Prod.snd
  | _ => some cs

/-- A point in time off the front of a text. A time of day may follow a date
    behind `T` or a blank, and a distance from UTC may follow both. -/
def readDatetime (cs : List Char) : Option (String × List Char) :=
  let taken (rest : List Char) : String := String.ofList (cs.take (cs.length - rest.length))
  match Timestamp.readDate cs with
  | some (_, rest) =>
    match rest with
    | c :: tail =>
      if c = 'T' ∨ c = 't' ∨ c = ' ' then
        match dropTime tail with
        | some behind => (dropOffset behind).map fun rest => (taken rest, rest)
        | none => if c = ' ' then some (taken rest, rest) else none
      else some (taken rest, rest)
    | [] => some (taken [], [])
  | none => (dropTime cs).map fun rest => (taken rest, rest)

end Toml

end IrcHarness
