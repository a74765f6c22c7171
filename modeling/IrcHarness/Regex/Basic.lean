import IrcHarness.Unicode.Property

/-!
# Regular Expressions

What a regular expression means. Which of several matches is preferred plays
no part in it, since only whether there is a match is ever asked: greedy and
lazy repetition mean the same, and a group that captures means what stands in
it. An expression tells them apart all the same, because they count when its
size is taken.

`Spans text r i j` says that `r` matches the piece of the text between the
positions `i` and `j`. Positions count characters, and a test such as `^` or
`\b` matches the empty piece where the characters on either side are right.

## Main definitions

* `Look`: A test of a position.
* `Look.holds`: Whether a test holds between two characters.
* `Regex`: A regular expression.
* `Regex.Spans`: Which pieces of a text an expression matches.
-/

namespace IrcHarness

/-- A test of where a word begins or ends. -/
inductive WordLook where
  /-- A word character on exactly one side. -/
  | boundary
  /-- Word characters on both sides or on neither. -/
  | noBoundary
  /-- A word character behind only. -/
  | start
  /-- A word character in front only. -/
  | stop
  /-- No word character in front. -/
  | startHalf
  /-- No word character behind. -/
  | stopHalf
deriving DecidableEq, Repr

/-- A test of a position in a text. -/
inductive Look where
  /-- The start of the text. -/
  | textStart
  /-- The end of the text. -/
  | textEnd
  /-- The start of a line, for lines that end in LF, or also in CR and CR LF. -/
  | lineStart (crlf : Bool)
  /-- The end of a line, for lines that end in LF, or also in CR and CR LF. -/
  | lineEnd (crlf : Bool)
  /-- A test for words of any script, or of ASCII characters only. -/
  | word (kind : WordLook) (ascii : Bool)
deriving DecidableEq, Repr

namespace Look

/-- The word characters among ASCII. -/
def asciiWord : CharSet :=
  CharSet.ofRanges [(0x30, 0x39), (0x41, 0x5A), (0x5F, 0x5F), (0x61, 0x7A)]

/-- Whether there is a character and it belongs to a word. -/
def isWord (ascii : Bool) : Option Char → Bool
  | none => false
  | some c => if ascii then asciiWord.contains c else Unicode.word.contains c

/-- Whether a test of words holds, given which sides have a word character. -/
def wordHolds (kind : WordLook) (before after : Bool) : Bool :=
  match kind with
  | .boundary => before != after
  | .noBoundary => before == after
  | .start => !before && after
  | .stop => before && !after
  | .startHalf => !before
  | .stopHalf => !after

/-- Whether a test holds between two characters, of which either is missing at
    an end of the text. -/
def holds (look : Look) (before after : Option Char) : Bool :=
  match look with
  | .textStart => before = none
  | .textEnd => after = none
  | .lineStart false => before = none || before = some '\n'
  | .lineEnd false => after = none || after = some '\n'
  | .lineStart true =>
    before = none || before = some '\n' || (before = some '\r' && after != some '\n')
  | .lineEnd true =>
    after = none || after = some '\r' || (after = some '\n' && before != some '\r')
  | .word kind ascii => wordHolds kind (isWord ascii before) (isWord ascii after)

end Look

/-- A regular expression. -/
inductive Regex where
  /-- The empty piece. -/
  | empty
  /-- One character of a set. -/
  | chars (s : CharSet)
  /-- The empty piece, where a test holds. -/
  | look (l : Look)
  /-- One expression and then another. -/
  | cat (a b : Regex)
  /-- One expression or another. -/
  | alt (a b : Regex)
  /-- An expression so many times: at least `least`, and at most `most` if that
      is given. -/
  | times (r : Regex) (least : Nat) (most : Option Nat) (greedy : Bool)
  /-- An expression whose piece is captured. -/
  | group (r : Regex)
deriving Repr

namespace Regex

/-- The character in front of a position. -/
def before? (text : List Char) (i : Nat) : Option Char :=
  if i = 0 then none else text[i - 1]?

/-- Which pieces of a text an expression matches. -/
inductive Spans (text : List Char) : Regex → Nat → Nat → Prop where
  | empty {i : Nat} (h : i ≤ text.length) : Spans text .empty i i
  | chars {s : CharSet} {i : Nat} {c : Char} (h : text[i]? = some c) (hc : s.contains c) :
      Spans text (.chars s) i (i + 1)
  | look {l : Look} {i : Nat} (h : i ≤ text.length) (hl : l.holds (before? text i) text[i]?) :
      Spans text (.look l) i i
  | cat {a b : Regex} {i j k : Nat} (ha : Spans text a i j) (hb : Spans text b j k) :
      Spans text (.cat a b) i k
  | altLeft {a b : Regex} {i j : Nat} (h : Spans text a i j) : Spans text (.alt a b) i j
  | altRight {a b : Regex} {i j : Nat} (h : Spans text b i j) : Spans text (.alt a b) i j
  | timesNil {r : Regex} {most : Option Nat} {greedy : Bool} {i : Nat}
      (h : i ≤ text.length) : Spans text (.times r 0 most greedy) i i
  | timesNeeded {r : Regex} {least : Nat} {most : Option Nat} {greedy : Bool} {i j k : Nat}
      (hm : ∀ m, most = some m → 0 < m) (hr : Spans text r i j)
      (hs : Spans text (.times r least (most.map (· - 1)) greedy) j k) :
      Spans text (.times r (least + 1) most greedy) i k
  | timesMore {r : Regex} {most : Option Nat} {greedy : Bool} {i j k : Nat}
      (hm : ∀ m, most = some m → 0 < m) (hr : Spans text r i j)
      (hs : Spans text (.times r 0 (most.map (· - 1)) greedy) j k) :
      Spans text (.times r 0 most greedy) i k
  | group {r : Regex} {i j : Nat} (h : Spans text r i j) : Spans text (.group r) i j

/-- Whether some piece of a text matches. -/
def Occurs (text : List Char) (r : Regex) : Prop :=
  ∃ i j, Spans text r i j

end Regex

end IrcHarness
