/-!
# Tag Values on the Wire

A tag value may hold any character, but on the wire a blank ends the tags and
a semicolon ends the tag. Five characters are therefore written as a backslash
and a letter. Reading is more lenient than writing: a backslash in front of
any other character stands for that character alone, and only a backslash with
nothing behind it is an error.

The name of a tag is what is left of its key without the mark of a client-only
tag and without the vendor. It must not be empty.

## Main definitions

* `TagValue.escape`: A value as it is written.
* `TagValue.unescape`: The value that a written text means.
* `TagKey.name`: The name inside a key.

## Theorems

* `unescape_escape`: Writing loses nothing.
-/

namespace IrcHarness

namespace TagValue

/-- How one character of a value is written. -/
def escapeChar (c : Char) : List Char :=
  match c with
  | ';' => ['\\', ':']
  | ' ' => ['\\', 's']
  | '\\' => ['\\', '\\']
  | '\r' => ['\\', 'r']
  | '\n' => ['\\', 'n']
  | c => [c]

/-- A value as it is written. -/
def escape (cs : List Char) : List Char :=
  cs.flatMap escapeChar

/-- The character that a backslash and a letter mean. -/
def meaning (c : Char) : Char :=
  match c with
  | ':' => ';'
  | 's' => ' '
  | 'r' => '\r'
  | 'n' => '\n'
  | c => c

/-- The value that a written text means, unless it ends in a lone
    backslash. -/
def unescape : List Char → Option (List Char)
  | [] => some []
  | [c] => if c = '\\' then none else some [c]
  | c :: d :: rest =>
    if c = '\\' then (unescape rest).map (meaning d :: ·)
    else (unescape (d :: rest)).map (c :: ·)

theorem unescape_cons_of_ne {c : Char} (h : c ≠ '\\') (cs : List Char) :
    unescape (c :: cs) = (unescape cs).map (c :: ·) := by
  cases cs <;> simp [unescape, h]

theorem unescape_backslash (d : Char) (cs : List Char) :
    unescape ('\\' :: d :: cs) = (unescape cs).map (meaning d :: ·) := by
  simp [unescape]

theorem unescape_escape (cs : List Char) : unescape (escape cs) = some cs := by
  induction cs with
  | nil => rfl
  | cons c cs ih =>
      rw [show escape (c :: cs) = escapeChar c ++ escape cs from rfl]
      unfold escapeChar
      split
      case h_6 =>
        rw [List.cons_append, List.nil_append, unescape_cons_of_ne (by assumption), ih,
          Option.map_some]
      all_goals
        rw [List.cons_append, List.cons_append, List.nil_append, unescape_backslash, ih]
        rfl

end TagValue

namespace TagKey

/-- What stands behind the last occurrence of a character, everything when it
    does not occur. -/
def behindLast (mark : Char) (cs : List Char) : List Char :=
  (cs.reverse.takeWhile (· ≠ mark)).reverse

/-- A key without the mark of a client-only tag. -/
def withoutMark : List Char → List Char
  | '+' :: rest => rest
  | cs => cs

/-- The name inside a key, without the mark of a client-only tag and without
    the vendor. -/
def name (key : List Char) : List Char :=
  behindLast '/' (withoutMark key)

end TagKey

end IrcHarness
