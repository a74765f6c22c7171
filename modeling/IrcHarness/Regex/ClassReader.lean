import IrcHarness.Regex.Tree

/-!
# Reading Escapes and Classes

The small parts of a written expression: what a backslash introduces, and what
stands in brackets. In verbose mode blanks and comments may stand between
almost any two characters, so each function says where it skips them.

A `]` right behind the opening bracket, or behind the `^` there, is a member,
so no class is empty by its writing. Hyphens at the front are members too. The
operators `&&`, `--` and `~~` bind less tightly than standing side by side, and
all of them group to the left.

## Main definitions

* `Regex.skip`: Skip what verbose mode ignores.
* `Regex.Atom`, `Regex.readEscape`: What a backslash introduces.
* `Regex.readClass`: A bracketed class.
-/

namespace IrcHarness

namespace Regex

/-- Whether verbose mode skips a character. -/
def isBlank (c : Char) : Bool := Unicode.blank.contains c

/-- A text behind the end of its first line. -/
def behindLine : List Char → List Char
  | [] => []
  | c :: rest => if c = '\n' then rest else behindLine rest

/-- Skip blanks and comments at the front, at most `n` of them. -/
def skipBlanks : Nat → List Char → List Char
  | 0, cs => cs
  | _ + 1, [] => []
  | n + 1, c :: rest =>
    if isBlank c then skipBlanks n rest
    else if c = '#' then skipBlanks n (behindLine rest)
    else c :: rest

/-- Skip what is ignored at the front of a text, which is nothing unless in
    verbose mode. -/
def skip (verbose : Bool) (cs : List Char) : List Char :=
  if verbose then skipBlanks (cs.length + 1) cs else cs

/-- What an escape or a single character stands for. -/
inductive Atom where
  /-- One character. -/
  | literal (c : Char)
  /-- One character by two hexadecimal digits. -/
  | byte (c : Char)
  /-- The dot. -/
  | dot
  /-- A test. -/
  | anchor (a : Anchor)
  /-- A class with a letter. -/
  | short (kind : ShortClass) (negated : Bool)
  /-- A property. -/
  | property (query : PropertyQuery) (negated : Bool)

/-- The character with a code point, if there is one. -/
def charOf? (n : Nat) : Option Char :=
  if n < 0xD800 ∨ (0xDFFF < n ∧ n ≤ 0x10FFFF) then some (Char.ofNat n) else none

/-- Exactly so many hexadecimal digits. -/
def readDigits (verbose : Bool) : Nat → List Char → Option (List Char × List Char)
  | 0, cs => some ([], cs)
  | _ + 1, [] => none
  | n + 1, c :: rest =>
    if Digit.isDigitIn 16 c then
      (readDigits verbose n (skip verbose rest)).map fun r => (c :: r.1, r.2)
    else none

/-- The text up to a closing brace, at most `n` characters of it. -/
def readBraced (verbose : Bool) : Nat → List Char → Option (List Char × List Char)
  | 0, _ => none
  | n + 1, cs =>
    match skip verbose cs with
    | [] => none
    | '\x7d' :: rest => some ([], rest)
    | c :: rest => (readBraced verbose n rest).map fun r => (c :: r.1, r.2)

/-- A character by its code point, behind the letter of the escape. The letter
    says how many digits there are when they stand without braces. Two digits
    may mean a byte. -/
def readCodePoint (verbose : Bool) (width : Nat) (cs : List Char) :
    Option (Atom × List Char) :=
  match skip verbose cs with
  | '\x7b' :: rest =>
    match readBraced verbose (rest.length + 1) rest with
    | none => none
    | some (digits, rest) =>
      if digits = [] ∨ ¬ digits.all (Digit.isDigitIn 16) then none
      else (charOf? (Digit.read 16 digits)).map fun c => (.literal c, skip verbose rest)
  | rest =>
    match readDigits verbose width rest with
    | none => none
    | some (digits, rest) =>
      (charOf? (Digit.read 16 digits)).map fun c =>
        (if width = 2 then .byte c else .literal c, rest)

/-- What stands between the braces of a property, and whether it is negated. -/
def propertyQuery (text : List Char) : PropertyQuery × Bool :=
  let rec cutNotEqual : List Char → Option (List Char × List Char)
    | '!' :: '=' :: rest => some ([], rest)
    | c :: rest => (cutNotEqual rest).map fun r => (c :: r.1, r.2)
    | [] => none
  match cutNotEqual text with
  | some (name, value) => (.value name value, true)
  | none =>
    match (Split.cutAt ':' text).or (Split.cutAt '=' text) with
    | some (name, value) => (.value name value, false)
    | none => (.name text, false)

/-- A property, behind the letter of the escape. -/
def readProperty (verbose : Bool) (negated : Bool) (cs : List Char) :
    Option (Atom × List Char) :=
  match skip verbose cs with
  | [] => none
  | '\x7b' :: rest =>
    match readBraced verbose (rest.length + 1) rest with
    | none => none
    | some (text, rest) =>
      let (query, notEqual) := propertyQuery text
      some (.property query (negated != notEqual), rest)
  | c :: rest =>
    if c = '\\' then none else some (.property (.name [c]) negated, skip verbose rest)

/-- The characters that an escape always takes literally. -/
def isMeta (c : Char) : Bool :=
  ['\\', '.', '+', '*', '?', '(', ')', '|', '[', ']', '\x7b', '\x7d', '^', '$', '#', '&', '-',
    '~'].contains c

/-- Whether an escape that is not needed is accepted: for every other ASCII
    character but letters, digits and angle brackets. -/
def isEscapable (c : Char) : Bool :=
  isMeta c || (c.toNat < 0x80 && !c.isAlphanum && c ≠ '<' && c ≠ '>')

/-- A test for words with a name in braces, behind `\b`. What is in the braces
    is no name when it starts otherwise than names do. -/
def readWordTest (verbose : Bool) (cs : List Char) : Option (WordLook × List Char) :=
  let isNameChar (c : Char) : Bool := c.isAlpha || c = '-'
  match cs with
  | '\x7b' :: rest =>
    match skip verbose rest with
    | [] => none
    | c :: tail =>
      if !isNameChar c then some (.boundary, cs)
      else
        match readBraced verbose (tail.length + 2) (c :: tail) with
        | none => none
        | some (name, rest) =>
          if name = "start".toList then some (.start, rest)
          else if name = "end".toList then some (.stop, rest)
          else if name = "start-half".toList then some (.startHalf, rest)
          else if name = "end-half".toList then some (.stopHalf, rest)
          else none
  | _ => some (.boundary, cs)

/-- What a backslash introduces, behind it. -/
def readEscape (verbose : Bool) : List Char → Option (Atom × List Char)
  | [] => none
  | c :: rest =>
    match c with
    | 'x' => readCodePoint verbose 2 rest
    | 'u' => readCodePoint verbose 4 rest
    | 'U' => readCodePoint verbose 8 rest
    | 'p' => readProperty verbose false rest
    | 'P' => readProperty verbose true rest
    | 'd' => some (.short .digit false, rest)
    | 'D' => some (.short .digit true, rest)
    | 's' => some (.short .space false, rest)
    | 'S' => some (.short .space true, rest)
    | 'w' => some (.short .word false, rest)
    | 'W' => some (.short .word true, rest)
    | 'a' => some (.literal '\x07', rest)
    | 'f' => some (.literal '\x0c', rest)
    | 't' => some (.literal '\t', rest)
    | 'n' => some (.literal '\n', rest)
    | 'r' => some (.literal '\r', rest)
    | 'v' => some (.literal '\x0b', rest)
    | 'A' => some (.anchor .textStart, rest)
    | 'z' => some (.anchor .textEnd, rest)
    | 'b' => (readWordTest verbose rest).map fun r => (.anchor (.word r.1), r.2)
    | 'B' => some (.anchor (.word .noBoundary), rest)
    | '<' => some (.anchor (.word .start), rest)
    | '>' => some (.anchor (.word .stop), rest)
    | c => if isEscapable c then some (.literal c, rest) else none

/-- The classes of ASCII characters that have a name. -/
def namedClasses : List (String × List (Nat × Nat)) := [
  ("alnum", [(0x30, 0x39), (0x41, 0x5A), (0x61, 0x7A)]),
  ("alpha", [(0x41, 0x5A), (0x61, 0x7A)]),
  ("ascii", [(0x00, 0x7F)]),
  ("blank", [(0x09, 0x09), (0x20, 0x20)]),
  ("cntrl", [(0x00, 0x1F), (0x7F, 0x7F)]),
  ("digit", [(0x30, 0x39)]),
  ("graph", [(0x21, 0x7E)]),
  ("lower", [(0x61, 0x7A)]),
  ("print", [(0x20, 0x7E)]),
  ("punct", [(0x21, 0x2F), (0x3A, 0x40), (0x5B, 0x60), (0x7B, 0x7E)]),
  ("space", [(0x09, 0x0D), (0x20, 0x20)]),
  ("upper", [(0x41, 0x5A)]),
  ("word", [(0x30, 0x39), (0x41, 0x5A), (0x5F, 0x5F), (0x61, 0x7A)]),
  ("xdigit", [(0x30, 0x39), (0x41, 0x46), (0x61, 0x66)])]

/-- A named class such as `[:alpha:]`, behind its opening bracket, or nothing
    when there is none. -/
def readNamedClass : List Char → Option (ClassTree × List Char)
  | ':' :: rest =>
    let (negated, rest) : Bool × List Char := match rest with
      | '^' :: rest => (true, rest)
      | rest => (false, rest)
    match rest.dropWhile (· ≠ ':') with
    | ':' :: ']' :: tail =>
      let name := rest.takeWhile (· ≠ ':')
      (namedClasses.find? fun n => n.1.toList = name).map fun n =>
        (.named (CharSet.ofRanges n.2) negated, tail)
    | _ => none
  | _ => none

/-- The parts of a class side by side. -/
def unionOf : List ClassTree → ClassTree
  | [] => .empty
  | [c] => c
  | parts => .union parts

/-- A class behind an operator, joined with what stands in front of it. -/
def joinOp (pending : Option (ClassOp × ClassTree)) (c : ClassTree) : ClassTree :=
  match pending with
  | none => c
  | some (kind, left) => .op kind left c

/-- The character behind the next one, looking over what verbose mode skips and
    into the first comment. -/
def peekSkipping (verbose : Bool) : List Char → Option Char
  | [] => none
  | _ :: rest =>
    if !verbose then rest.head?
    else
      let behind := match rest.dropWhile isBlank with
        | '#' :: rest => rest.dropWhile isBlank
        | rest => rest
      behind.head?.or rest.head?

/-- One character or escape inside a class. -/
def readClassAtom (verbose : Bool) : List Char → Option (Atom × List Char)
  | [] => none
  | '\\' :: rest => readEscape verbose rest
  | c :: rest => some (.literal c, rest)

/-- An atom as a part of a class. The dot and the tests cannot be one. -/
def classPart? : Atom → Option ClassTree
  | .literal c => some (.literal c)
  | .byte c => some (.literal c)
  | .short kind negated => some (.short kind negated)
  | .property query negated => some (.property query negated)
  | .dot => none
  | .anchor _ => none

/-- One character, escape or range inside a class. -/
def readClassPart (verbose : Bool) (cs : List Char) : Option (ClassTree × List Char) :=
  match readClassAtom verbose cs with
  | none => none
  | some (first, rest) =>
    match skip verbose rest with
    | [] => none
    | c :: tail =>
      let ahead := peekSkipping verbose (c :: tail)
      if c ≠ '-' ∨ ahead = some ']' ∨ ahead = some '-' then
        (classPart? first).map fun part => (part, c :: tail)
      else match readClassAtom verbose (skip verbose tail) with
        | none => none
        | some (last, rest) =>
          match classPart? first, classPart? last with
          | some (.literal lo), some (.literal hi) =>
            if lo ≤ hi then some (.range lo hi, rest) else none
          | _, _ => none

/-- The front of a class behind its opening bracket: whether it is negated, and
    the members that a `]` or hyphens there are. -/
def readClassFront (verbose : Bool) (cs : List Char) :
    Option (Bool × List ClassTree × List Char) :=
  let rec hyphens : List Char → Nat → Nat × List Char
    | _, 0 => (0, [])
    | '-' :: rest, n + 1 =>
      let r := hyphens (skip verbose rest) n
      (r.1 + 1, r.2)
    | cs, _ + 1 => (0, cs)
  let (negated, cs) : Bool × List Char := match skip verbose cs with
    | '^' :: rest => (true, skip verbose rest)
    | cs => (false, cs)
  let (count, cs) := hyphens cs (cs.length + 1)
  match count, cs with
  | _, [] => none
  | 0, ']' :: rest => some (negated, [.literal ']'], skip verbose rest)
  | n, cs => some (negated, List.replicate n (.literal '-'), cs)

/-- The rest of a class up to the bracket that closes it. What was read so far
    are the parts behind the last operator, in reverse, and that operator. -/
def readClassBody (verbose : Bool) :
    Nat → Option (ClassOp × ClassTree) → List ClassTree → List Char →
      Option (ClassTree × List Char)
  | 0, _, _, _ => none
  | fuel + 1, pending, parts, cs =>
    let soFar := joinOp pending (unionOf parts.reverse)
    match skip verbose cs with
    | [] => none
    | ']' :: rest => some (soFar, rest)
    | '&' :: '&' :: rest => readClassBody verbose fuel (some (.inter, soFar)) [] rest
    | '-' :: '-' :: rest => readClassBody verbose fuel (some (.diff, soFar)) [] rest
    | '~' :: '~' :: rest => readClassBody verbose fuel (some (.symmDiff, soFar)) [] rest
    | '[' :: rest =>
      match readNamedClass rest with
      | some (part, rest) => readClassBody verbose fuel pending (part :: parts) rest
      | none =>
        match readClassFront verbose rest with
        | none => none
        | some (negated, front, rest) =>
          match readClassBody verbose fuel none front.reverse rest with
          | none => none
          | some (inner, rest) =>
            readClassBody verbose fuel pending (.bracketed inner negated :: parts) rest
    | rest =>
      match readClassPart verbose rest with
      | none => none
      | some (part, rest) => readClassBody verbose fuel pending (part :: parts) rest

/-- A bracketed class, behind its opening bracket. -/
def readClass (verbose : Bool) (cs : List Char) : Option (ClassTree × List Char) :=
  match readClassFront verbose cs with
  | none => none
  | some (negated, front, rest) =>
    (readClassBody verbose (rest.length + 1) none front.reverse rest).map fun r =>
      (.bracketed r.1 negated, r.2)

end Regex

end IrcHarness
