import IrcHarness.Unicode.Later

/-!
# Quoted Text

Text shown inside an error message. It stands in double quotes, and whatever a
reader could not see or could mistake is escaped: the quote and the backslash,
control characters, and every character that has no form of its own or that
would combine with the one before it. Letters that are shown as nothing, such
as the filler of a syllable, count among these; the two sound marks that have a
width of their own do not. The most frequent control characters have a letter,
the rest are written by code point.

A single quote stays as it is, since double quotes are around the text.

## Main definitions

* `Quoted.escape`: How one character is written.
* `Quoted.write`: A text in quotes.
-/

namespace IrcHarness

namespace Quoted

/-- Sound marks of half width, which stand beside the character before them. -/
def soundMarks : CharSet :=
  CharSet.ofChars ['\uFF9E', '\uFF9F']

/-- The characters that combine with the one before them. -/
def combining : CharSet :=
  CharSet.diff (CharSet.union Unicode.graphemeExtend Unicode.laterExtending) soundMarks

/-- The characters that are written by code point. -/
def hidden : CharSet :=
  CharSet.unions [combining, CharSet.diff Unicode.unprintable Unicode.laterAssigned,
    Unicode.listed "DI"]

/-- The ASCII characters that have a form, all of which can be seen. The tables
    need not be asked about them. -/
def isPlain (c : Char) : Bool :=
  ' ' ≤ c && c ≤ '~'

/-- A character written by its code point. -/
def byCodePoint (c : Char) : List Char :=
  '\\' :: 'u' :: '\x7b' :: (Digit.hexadecimal c.toNat ++ ['\x7d'])

/-- How one character is written between the quotes. -/
def escape (c : Char) : List Char :=
  match c with
  | '\x00' => ['\\', '0']
  | '\t' => ['\\', 't']
  | '\r' => ['\\', 'r']
  | '\n' => ['\\', 'n']
  | '"' => ['\\', '"']
  | '\\' => ['\\', '\\']
  | c => if !isPlain c && hidden.contains c then byCodePoint c else [c]

/-- A text in double quotes. -/
def write (s : String) : String :=
  String.ofList ('"' :: (s.toList.flatMap escape ++ ['"']))

end Quoted

end IrcHarness
