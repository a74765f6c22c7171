import IrcHarness.Regex.Basic

/-!
# Regular Expressions as Written

The parts of a regular expression before it is known what they mean, which
depends on the flags in force where they stand: whether letter case counts,
what `.`, `^` and `$` match, and whether characters are those of every script
or ASCII characters only.

Nesting is limited, and the limit counts what is written, so it is taken from
this form: repetitions, groups, bracketed classes, choices, sequences and
operations on classes count, single characters and tests do not.

## Main definitions

* `Regex.ClassTree`: A part of a bracketed class.
* `Regex.Tree`: A part of an expression.
* `Regex.Tree.depth`: How deep an expression is nested.
-/

namespace IrcHarness

namespace Regex

/-- A flag that changes what the parts of an expression mean. -/
inductive Flag where
  /-- `i`: letter case does not count. -/
  | ignoreCase
  /-- `m`: `^` and `$` match at lines. -/
  | multiLine
  /-- `s`: `.` matches line ends too. -/
  | dotAll
  /-- `U`: lazy and greedy repetition change places. -/
  | swapGreed
  /-- `u`: characters of every script. -/
  | unicode
  /-- `R`: lines may end in CR LF. -/
  | crlf
  /-- `x`: blanks and comments are skipped. -/
  | verbose
deriving DecidableEq, Repr

/-- Flags that are set or cleared together. -/
abbrev FlagChanges := List (Flag × Bool)

/-- The classes with a letter. -/
inductive ShortClass where
  /-- `d`: decimal digits. -/
  | digit
  /-- `s`: white space. -/
  | space
  /-- `w`: word characters. -/
  | word
deriving DecidableEq, Repr

/-- A property of characters, as asked for by name. -/
inductive PropertyQuery where
  /-- A category, script or yes-or-no property. -/
  | name (name : List Char)
  /-- A property and one of its values. -/
  | value (property value : List Char)
deriving Repr

/-- How two classes are put together. -/
inductive ClassOp where
  /-- `&&`: the members of both. -/
  | inter
  /-- `--`: the members of the first only. -/
  | diff
  /-- `~~`: the members of exactly one. -/
  | symmDiff
deriving DecidableEq, Repr

/-- A part of a bracketed class. -/
inductive ClassTree where
  /-- Nothing. -/
  | empty
  /-- One character. -/
  | literal (c : Char)
  /-- All characters between two. -/
  | range (lo hi : Char)
  /-- A class of ASCII characters, written `[:name:]`. -/
  | named (members : CharSet) (negated : Bool)
  /-- A class with a letter. -/
  | short (kind : ShortClass) (negated : Bool)
  /-- A property. -/
  | property (query : PropertyQuery) (negated : Bool)
  /-- A class in brackets. -/
  | bracketed (inner : ClassTree) (negated : Bool)
  /-- Several parts side by side. -/
  | union (parts : List ClassTree)
  /-- Two classes put together. -/
  | op (kind : ClassOp) (left right : ClassTree)
deriving Repr

/-- The tests that are written as such. -/
inductive Anchor where
  /-- `^` -/
  | caret
  /-- `$` -/
  | dollar
  /-- `\A` -/
  | textStart
  /-- `\z` -/
  | textEnd
  /-- A test for words. -/
  | word (kind : WordLook)
deriving DecidableEq, Repr

/-- A part of an expression. -/
inductive Tree where
  /-- Nothing. -/
  | empty
  /-- Flags that hold up to the end of the group. -/
  | flags (changes : FlagChanges)
  /-- One character. -/
  | literal (c : Char)
  /-- One character by two hexadecimal digits, which is a byte where characters
      are ASCII only. -/
  | byte (c : Char)
  /-- The dot. -/
  | dot
  /-- A test. -/
  | anchor (a : Anchor)
  /-- A class. -/
  | chars (c : ClassTree)
  /-- A repetition, with a question mark behind it or without. -/
  | times (t : Tree) (least : Nat) (most : Option Nat) (marked : Bool)
  /-- A group that captures, or one with flags of its own. -/
  | group (captures : Bool) (changes : FlagChanges) (t : Tree)
  /-- A choice. -/
  | alternation (branches : List Tree)
  /-- A sequence. -/
  | concat (parts : List Tree)
deriving Repr

mutual

/-- How deep a class is nested. -/
def ClassTree.depth : ClassTree → Nat
  | .bracketed inner _ => inner.depth + 1
  | .union parts => ClassTree.depthOf parts + 1
  | .op _ left right => max left.depth right.depth + 1
  | _ => 0

/-- How deep the deepest of several parts is nested. -/
def ClassTree.depthOf : List ClassTree → Nat
  | [] => 0
  | c :: rest => max c.depth (ClassTree.depthOf rest)

end

mutual

/-- How deep an expression is nested. -/
def Tree.depth : Tree → Nat
  | .chars c => c.depth
  | .times t _ _ _ => t.depth + 1
  | .group _ _ t => t.depth + 1
  | .alternation branches => Tree.depthOf branches + 1
  | .concat parts => Tree.depthOf parts + 1
  | _ => 0

/-- How deep the deepest of several parts is nested. -/
def Tree.depthOf : List Tree → Nat
  | [] => 0
  | t :: rest => max t.depth (Tree.depthOf rest)

end

/-- The deepest nesting that is accepted. -/
def maxDepth : Nat := 250

end Regex

end IrcHarness
