import IrcHarness.Text.Digit
import IrcHarness.Text.Split

/-!
# Sets of Characters

A set of code points as its runs. Character properties, character classes of
regular expressions and the characters that quoted text must escape are all
sets of this kind, and they are few runs over a large space: some hundreds of
runs describe the letters of every script.

Runs are kept in ascending order and apart from each other. `ofRanges` brings
any list of runs into that form, every operation ends in it, and membership
may therefore stop at the first run that starts behind the code point asked
for.

## Main definitions

* `CharSet`: A set of code points.
* `CharSet.contains`: Membership.
* `CharSet.ofRanges`: The set that a list of runs in any order describes.
* `CharSet.union`, `CharSet.inter`, `CharSet.diff`, `CharSet.compl`: The
  Boolean operations.
* `CharSet.ofText`: The set that rows of hexadecimal runs describe.
-/

namespace IrcHarness

/-- A set of code points, as runs in ascending order that do not touch. -/
structure CharSet where
  /-- First and last code point of each run. -/
  ranges : List (Nat × Nat)
deriving Repr, DecidableEq

namespace CharSet

/-- The largest code point. -/
def maxCodePoint : Nat := 0x10FFFF

/-- The set without members. -/
def empty : CharSet := ⟨[]⟩

/-- Every code point. -/
def all : CharSet := ⟨[(0, maxCodePoint)]⟩

/-- Whether a code point lies in one of the runs, which are in order. -/
def containsIn : List (Nat × Nat) → Nat → Bool
  | [], _ => false
  | (lo, hi) :: rest, n =>
    if n < lo then false else if n ≤ hi then true else containsIn rest n

/-- Whether a character is a member. -/
def contains (s : CharSet) (c : Char) : Bool :=
  containsIn s.ranges c.toNat

/-- Join runs that overlap or touch, from the left, carrying the run that is
    still open. -/
def mergeFrom (lo hi : Nat) : List (Nat × Nat) → List (Nat × Nat)
  | [] => [(lo, hi)]
  | (lo', hi') :: rest =>
    if lo' ≤ hi + 1 then mergeFrom lo (max hi hi') rest
    else (lo, hi) :: mergeFrom lo' hi' rest

/-- The set that a list of runs describes, whatever their order. -/
def ofRanges (runs : List (Nat × Nat)) : CharSet :=
  match (runs.filter fun r => r.1 ≤ r.2).mergeSort fun a b => a.1 ≤ b.1 with
  | [] => empty
  | (lo, hi) :: rest => ⟨mergeFrom lo hi rest⟩

/-- The characters from `lo` to `hi`. -/
def range (lo hi : Char) : CharSet :=
  ofRanges [(lo.toNat, hi.toNat)]

/-- The set with one member. -/
def single (c : Char) : CharSet := range c c

/-- The set of the characters listed. -/
def ofChars (cs : List Char) : CharSet :=
  ofRanges (cs.map fun c => (c.toNat, c.toNat))

/-- The members of either set. -/
def union (s t : CharSet) : CharSet :=
  ofRanges (s.ranges ++ t.ranges)

/-- The gaps that runs leave from `start` on. -/
def gapsFrom (start : Nat) : List (Nat × Nat) → List (Nat × Nat)
  | [] => if start ≤ maxCodePoint then [(start, maxCodePoint)] else []
  | (lo, hi) :: rest =>
    if start < lo then (start, lo - 1) :: gapsFrom (hi + 1) rest else gapsFrom (hi + 1) rest

/-- Every code point that is no member. -/
def compl (s : CharSet) : CharSet :=
  ⟨gapsFrom 0 s.ranges⟩

/-- The members of both sets. -/
def inter (s t : CharSet) : CharSet :=
  compl (union (compl s) (compl t))

/-- The members of the first set that are not in the second. -/
def diff (s t : CharSet) : CharSet :=
  inter s (compl t)

/-- The members of exactly one of the sets. -/
def symmDiff (s t : CharSet) : CharSet :=
  union (diff s t) (diff t s)

/-- The members of at least one of the sets of a list. -/
def unions (sets : List CharSet) : CharSet :=
  ofRanges (sets.flatMap CharSet.ranges)

/-- Whether every member is an ASCII character. -/
def isAscii (s : CharSet) : Bool :=
  s.ranges.all fun r => r.2 < 0x80

/-- One run, written as a code point or as two joined by a hyphen. -/
def rangeOfText (cs : List Char) : Nat × Nat :=
  match Split.pieces '-' cs with
  | [lo, hi] => (Digit.read 16 lo, Digit.read 16 hi)
  | _ => (Digit.read 16 cs, Digit.read 16 cs)

/-- The set described by rows of runs in hexadecimal, the runs of a row
    separated by blanks. -/
def ofText (rows : List String) : CharSet :=
  ofRanges (rows.flatMap fun row => (Split.pieces ' ' row.toList).map rangeOfText)

end CharSet

end IrcHarness
