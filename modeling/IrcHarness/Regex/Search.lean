import IrcHarness.Regex.Basic

/-!
# Searching

Deciding whether an expression matches a piece of a text. Positions are
handled as sets, and a set is a number whose bits say which positions belong
to it. For a given text every leaf of an expression becomes such a set: a set
of characters becomes the positions of its members, a test the positions where
it holds. From then on matching is arithmetic on numbers.

`ends` maps the positions where a match may start to those where it may end.
A sequence composes these maps, a choice joins them, and a repetition applies
the same map again. Positions never move to the left, so applying a map again
and again comes to a set that does not change after at most one step for each
position, and the loop may stop there; no text makes the search take more than
that, however repetitions are nested.

## Main definitions

* `Regex.Placed`: An expression whose leaves are sets of positions.
* `Regex.place`: An expression laid onto a text.
* `Regex.Placed.ends`: Where matches end that start in a set of positions.
* `Regex.occurs`: Whether some piece of a text matches.
-/

namespace IrcHarness

namespace Regex

/-- An expression laid onto a text, with sets of positions as its leaves. -/
inductive Placed where
  /-- The empty piece. -/
  | empty
  /-- One character at one of the positions. -/
  | step (positions : Nat)
  /-- The empty piece at one of the positions. -/
  | test (positions : Nat)
  /-- One expression and then another. -/
  | cat (a b : Placed)
  /-- One expression or another. -/
  | alt (a b : Placed)
  /-- An expression so many times. -/
  | times (r : Placed) (least : Nat) (most : Option Nat)

/-- A set of positions with one more position in front, the others moved up by
    one. -/
def prepend (b : Bool) (positions : Nat) : Nat :=
  2 * positions + (if b then 1 else 0)

/-- The positions of the characters of a set. -/
def charPositions (s : CharSet) : List Char → Nat
  | [] => 0
  | c :: rest => prepend (s.contains c) (charPositions s rest)

/-- The positions where a test holds, behind a given character. -/
def lookPositions (l : Look) (before : Option Char) : List Char → Nat
  | [] => prepend (l.holds before none) 0
  | c :: rest => prepend (l.holds before (some c)) (lookPositions l (some c) rest)

/-- An expression laid onto a text. -/
def place (text : List Char) : Regex → Placed
  | .empty => .empty
  | .chars s => .step (charPositions s text)
  | .look l => .test (lookPositions l none text)
  | .cat a b => .cat (place text a) (place text b)
  | .alt a b => .alt (place text a) (place text b)
  | .times r least most _ => .times (place text r) least most
  | .group r => place text r

/-- Apply a map of sets so many times, or until the set stays the same. -/
def iterate (f : Nat → Nat) : Nat → Nat → Nat
  | 0, positions => positions
  | n + 1, positions =>
    let next := f positions
    if next = positions then positions else iterate f n next

/-- Every set that a map leads to in at most so many steps, joined. -/
def reach (f : Nat → Nat) (n : Nat) (positions : Nat) : Nat :=
  iterate (fun p => p ||| f p) n positions

/-- Where matches end that start in a set of positions. The first argument is
    the number of positions of the text. -/
def Placed.ends (size : Nat) : Placed → Nat → Nat
  | .empty, positions => positions
  | .step at_, positions => (positions &&& at_) <<< 1
  | .test at_, positions => positions &&& at_
  | .cat a b, positions => b.ends size (a.ends size positions)
  | .alt a b, positions => a.ends size positions ||| b.ends size positions
  | .times r least most, positions =>
    let needed := iterate (r.ends size) least positions
    match most with
    | none => reach (r.ends size) size needed
    | some m => if m < least then 0 else reach (r.ends size) (m - least) needed

/-- Whether some piece of a text matches. -/
def occurs (r : Regex) (text : List Char) : Bool :=
  let size := text.length + 1
  (place text r).ends size (Nat.pow 2 size - 1) != 0

end Regex

end IrcHarness
