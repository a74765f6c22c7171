import IrcHarness.Toml.Document
import IrcHarness.Toml.Scalar

/-!
# Reading TOML

The statements of a text, and the table that they make. A line holds a header
or an assignment, or nothing but blanks and a comment. Arrays may run over
several lines and hold comments, and may end in a comma; tables in braces stay
on one line and may not.

Values inside of values and keys with many parts are limited, so that a table
is never nested more deeply than the programs that use it can follow.

## Main definitions

* `Toml.readKey`: A dotted key.
* `Toml.readValue`: A value.
* `Toml.readStatements`: The statements of a text.
* `Toml.parse?`: The table of a text.
-/

namespace IrcHarness

namespace Toml

/-- A text without a comment in front, which ends at the end of the line and
    holds no control characters but tabs. -/
def dropComment : List Char → Option (List Char)
  | '#' :: rest =>
    match rest.dropWhile isPlain with
    | [] => some []
    | tail => if (dropNewline tail).isSome then some tail else none
  | cs => some cs

/-- What may follow a statement on its line: blanks and a comment. -/
def finishLine (cs : List Char) : Option (List Char) :=
  match dropComment (dropBlanks cs) with
  | none => none
  | some [] => some []
  | some rest => dropNewline rest

/-- Blanks, comments and line ends off the front of a text, at most `n` of
    them. A comment has to be closed by a line end. -/
def dropFiller : Nat → List Char → Option (List Char)
  | 0, cs => some cs
  | n + 1, cs =>
    match cs with
    | [] => some []
    | c :: rest =>
      if isBlank c then dropFiller n rest
      else if c = '#' then
        match dropComment cs with
        | none => none
        | some tail =>
          match dropNewline tail with
          | none => none
          | some tail => dropFiller n tail
      else match dropNewline cs with
        | some tail => dropFiller n tail
        | none => some cs

/-- Whether a key may hold a character without quotes. -/
def isBareKeyChar (c : Char) : Bool :=
  c.isAlphanum || c = '_' || c = '-'

/-- One part of a dotted key. -/
def readSimpleKey (cs : List Char) : Option (String × List Char) :=
  match cs.takeWhile isBareKeyChar with
  | [] => readLineText cs
  | key => some (String.ofList key, cs.dropWhile isBareKeyChar)

/-- The deepest nesting that is accepted, and the most parts of a key. -/
def maxDepth : Nat := 79

/-- The parts of a dotted key with the blanks around them, at most `n`. -/
def readKeyParts : Nat → List Char → Option (List String × List Char)
  | 0, _ => none
  | n + 1, cs =>
    match readSimpleKey (dropBlanks cs) with
    | none => none
    | some (key, rest) =>
      match dropBlanks rest with
      | '.' :: rest => (readKeyParts n rest).map fun r => (key :: r.1, r.2)
      | rest => some ([key], rest)

/-- A dotted key with the blanks around it. -/
def readKey (cs : List Char) : Option (List String × List Char) :=
  readKeyParts maxDepth cs

/-- The parts of a key in front of the last, and the last. -/
def splitKey : List String → Option (List String × String)
  | [] => none
  | [key] => some ([], key)
  | key :: rest => (splitKey rest).map fun r => (key :: r.1, r.2)

/-- A truth value or a number or a point in time. -/
def readPlain (cs : List Char) : Option (Value × List Char) :=
  match cs with
  | 't' :: 'r' :: 'u' :: 'e' :: rest => some (.bool true, rest)
  | 'f' :: 'a' :: 'l' :: 's' :: 'e' :: rest => some (.bool false, rest)
  | _ =>
    match readDatetime cs with
    | some (text, rest) => some (.datetime text, rest)
    | none =>
      match readFloat cs with
      | some (text, rest) => some (.float text, rest)
      | none => (readInteger cs).map fun r => (.integer r.1, r.2)

mutual

/-- A value, at a given depth of nesting. -/
def readValue : Nat → Nat → List Char → Option (Value × List Char)
  | 0, _, _ => none
  | fuel + 1, depth, cs =>
    match cs with
    | [] => none
    | '"' :: _ => (readText cs).map fun r => (.string r.1, r.2)
    | '\'' :: _ => (readText cs).map fun r => (.string r.1, r.2)
    | '[' :: rest =>
      if maxDepth ≤ depth then none
      else (readItems fuel (depth + 1) rest).map fun r => (.array r.1, r.2)
    | '\x7b' :: rest =>
      if maxDepth ≤ depth then none
      else match dropBlanks rest with
        | '\x7d' :: rest => some (.inlineTable .explicit [], rest)
        | rest =>
          match readAssignments fuel (depth + 1) rest with
          | none => none
          | some (assignments, rest) => (inlineTable? assignments).map fun t => (t, rest)
    | _ => readPlain cs

/-- The items of an array and the bracket that closes it. -/
def readItems : Nat → Nat → List Char → Option (List Value × List Char)
  | 0, _, _ => none
  | fuel + 1, depth, cs =>
    match dropFiller (cs.length + 1) cs with
    | none => none
    | some (']' :: rest) => some ([], rest)
    | some rest =>
      match readValue fuel depth rest with
      | none => none
      | some (v, rest) =>
        match dropFiller (rest.length + 1) rest with
        | some (']' :: rest) => some ([v], rest)
        | some (',' :: rest) => (readItems fuel depth rest).map fun r => (v :: r.1, r.2)
        | _ => none

/-- The assignments in braces and the brace that closes them. -/
def readAssignments : Nat → Nat → List Char →
    Option (List (List String × String × Value) × List Char)
  | 0, _, _ => none
  | fuel + 1, depth, cs =>
    match readKey cs with
    | some (key, '=' :: rest) =>
      match splitKey key, readValue fuel depth (dropBlanks rest) with
      | some (path, last), some (v, rest) =>
        match dropBlanks rest with
        | '\x7d' :: rest => some ([(path, last, v)], rest)
        | ',' :: rest =>
          (readAssignments fuel depth rest).map fun r => ((path, last, v) :: r.1, r.2)
        | _ => none
      | _, _ => none
    | _ => none

end

/-- A header, behind its first bracket. -/
def readHeader (cs : List Char) : Option (Statement × List Char) :=
  match cs with
  | '[' :: rest =>
    match readKey rest with
    | some (path, ']' :: ']' :: rest) => some (.element path, rest)
    | _ => none
  | _ =>
    match readKey cs with
    | some (path, ']' :: rest) => some (.header path, rest)
    | _ => none

/-- An assignment on a line of its own. -/
def readAssignment (cs : List Char) : Option (Statement × List Char) :=
  match readKey cs with
  | some (key, '=' :: rest) =>
    match splitKey key, readValue (2 * rest.length + 2) 0 (dropBlanks rest) with
    | some (path, last), some (v, rest) => some (.assign path last v, rest)
    | _, _ => none
  | _ => none

/-- The statements of a text, read over at most `n` lines. -/
def readStatements : Nat → List Char → Option (List Statement)
  | 0, _ => none
  | n + 1, cs =>
    match dropBlanks cs with
    | [] => some []
    | c :: rest =>
      if c = '#' ∨ c = '\n' ∨ c = '\r' then
        match finishLine (c :: rest) with
        | none => none
        | some rest => readStatements n rest
      else
        match (if c = '[' then readHeader rest else readAssignment (c :: rest)) with
        | none => none
        | some (s, rest) =>
          match finishLine rest with
          | none => none
          | some rest => (readStatements n rest).map fun ss => s :: ss

/-- A text without the mark that may stand in front of it. -/
def dropMark : List Char → List Char
  | '\ufeff' :: rest => rest
  | cs => cs

/-- The table of a text. -/
def parse? (text : String) : Option Entries :=
  let cs := dropMark text.toList
  (readStatements (cs.length + 1) cs).bind document?

end Toml

end IrcHarness
