import IrcHarness.Regex.Basic
import IrcHarness.Text.Utf8

/-!
# Simplified Expressions

The form in which an expression is weighed. Characters in a row are one
literal, sequences and choices do not stand directly inside others of their
kind, a set with one member is a literal, a choice of single characters or of
sets is a set, and what all branches of a choice begin with stands in front of
the choice. A repetition of the empty piece happens at most once.

The constructors `Form.sequence`, `Form.choice` and `Form.repeated` keep an
expression in this form, provided that their arguments are. A form still knows
which groups capture, and no two groups count as the same.

## Main definitions

* `Regex.Form`: A simplified expression.
* `Regex.Form.same`: Whether two forms are the same.
* `Regex.Form.minLength`: The length of the shortest piece that matches.
* `Regex.Form.startsText`, `Regex.Form.endsText`: Whether a match can only
  stand at an end of the text.
* `Regex.form`: The form of an expression.
-/

namespace IrcHarness

namespace Regex

/-- A simplified expression. -/
inductive Form where
  /-- The empty piece. -/
  | empty
  /-- Characters in a row, at least one. -/
  | literal (cs : List Char)
  /-- One character of a set. -/
  | chars (s : CharSet)
  /-- The empty piece, where a test holds. -/
  | look (l : Look)
  /-- A repetition. -/
  | times (f : Form) (least : Nat) (most : Option Nat) (greedy : Bool)
  /-- A group that captures. -/
  | group (f : Form)
  /-- At least two forms one after the other. -/
  | sequence (parts : List Form)
  /-- At least two branches. -/
  | choice (branches : List Form)

namespace Form

mutual

/-- Whether two forms are the same. A group is the same as no other form. -/
def same : Form → Form → Bool
  | .empty, .empty => true
  | .literal cs, .literal ds => cs = ds
  | .chars s, .chars t => s = t
  | .look l, .look m => l = m
  | .times f least most greedy, .times g least' most' greedy' =>
    least = least' && most = most' && greedy = greedy' && same f g
  | .sequence fs, .sequence gs => sameAll fs gs
  | .choice fs, .choice gs => sameAll fs gs
  | _, _ => false

/-- Whether two lists of forms are the same. -/
def sameAll : List Form → List Form → Bool
  | [], [] => true
  | f :: fs, g :: gs => same f g && sameAll fs gs
  | _, _ => false

end

mutual

/-- The number of characters of the shortest piece that matches, or nothing when
    none does for want of a character. -/
def minLength : Form → Option Nat
  | .empty => some 0
  | .literal cs => some cs.length
  | .chars s => if s.ranges = [] then none else some 1
  | .look _ => some 0
  | .times f least _ _ => (minLength f).map (least * ·)
  | .group f => minLength f
  | .sequence fs => minLengthTogether fs
  | .choice fs => minLengthAmong fs

/-- The sum of the shortest pieces of several forms. -/
def minLengthTogether : List Form → Option Nat
  | [] => some 0
  | f :: fs =>
    match minLength f, minLengthTogether fs with
    | some m, some n => some (m + n)
    | _, _ => none

/-- The least of the shortest pieces of several forms, of which there is at
    least one. -/
def minLengthAmong : List Form → Option Nat
  | [] => none
  | [f] => minLength f
  | f :: fs =>
    match minLength f, minLengthAmong fs with
    | some m, some n => some (min m n)
    | _, _ => none

end

mutual

/-- Whether a form matches the empty piece only. -/
def isZeroWidth : Form → Bool
  | .empty => true
  | .literal _ => false
  | .chars _ => false
  | .look _ => true
  | .times f _ most _ => most.isSome && isZeroWidth f
  | .group f => isZeroWidth f
  | .sequence fs => areZeroWidth fs
  | .choice fs => areZeroWidth fs

/-- Whether all of several forms match the empty piece only. -/
def areZeroWidth : List Form → Bool
  | [] => true
  | f :: fs => isZeroWidth f && areZeroWidth fs

end

mutual

/-- Whether a match can only start at the start of the text, as far as a test in
    front of every character tells. -/
def startsText : Form → Bool
  | .look l => l = .textStart
  | .times f least _ _ => least ≠ 0 && startsText f
  | .group f => startsText f
  | .sequence fs => firstStartsText fs
  | .choice fs => allStartText fs
  | _ => false

/-- Whether a sequence has such a test in front of every character. -/
def firstStartsText : List Form → Bool
  | [] => false
  | f :: fs => startsText f || (isZeroWidth f && firstStartsText fs)

/-- Whether every branch of a choice has such a test. -/
def allStartText : List Form → Bool
  | [] => true
  | f :: fs => startsText f && allStartText fs

end

mutual

/-- Whether a match can only end at the end of the text, as far as a test behind
    every character tells. -/
def endsText : Form → Bool
  | .look l => l = .textEnd
  | .times f least _ _ => least ≠ 0 && endsText f
  | .group f => endsText f
  | .sequence fs => lastEndsText fs
  | .choice fs => allEndText fs
  | _ => false

/-- Whether a sequence has such a test behind every character. -/
def lastEndsText : List Form → Bool
  | [] => false
  | f :: fs => lastEndsText fs || (areZeroWidth fs && endsText f)

/-- Whether every branch of a choice has such a test. -/
def allEndText : List Form → Bool
  | [] => true
  | f :: fs => endsText f && allEndText fs

end

/-- The form of a set of characters. -/
def ofSet (s : CharSet) : Form :=
  let s := if CharSet.containsIn s.ranges 0xD800 then CharSet.diff s Unicode.surrogates else s
  match s.ranges with
  | [(lo, hi)] => if lo = hi then .literal [Char.ofNat lo] else .chars s
  | _ => .chars s

/-- The parts that a form puts into a sequence. -/
def parts : Form → List Form
  | .empty => []
  | .sequence fs => fs
  | f => [f]

/-- The form of parts in a row. -/
def ofParts : List Form → Form
  | [] => .empty
  | [f] => f
  | fs => .sequence fs

/-- Parts in a row, with a literal at the end of the first joined to a literal
    at the front of the second. -/
def joinParts : List Form → List Form → List Form
  | [], gs => gs
  | [.literal cs], .literal ds :: gs => .literal (cs ++ ds) :: gs
  | f :: fs, gs => f :: joinParts fs gs

/-- One form and then another. -/
def append (f g : Form) : Form :=
  ofParts (joinParts f.parts g.parts)

/-- The branches that a form puts into a choice. -/
def branches : Form → List Form
  | .choice fs => fs
  | f => [f]

/-- The only character of a form. -/
def character? : Form → Option Char
  | .literal [c] => some c
  | _ => none

/-- The set of a form. -/
def set? : Form → Option CharSet
  | .chars s => some s
  | _ => none

/-- The parts of a sequence. -/
def sequence? : Form → Option (List Form)
  | .sequence fs => some fs
  | _ => none

/-- What all sequences begin with. -/
def commonFront : List (List Form) → List Form
  | [] => []
  | [fs] => fs
  | fs :: rest =>
    ((fs.zip (commonFront rest)).takeWhile fun p => p.1.same p.2).map Prod.fst

/-- The set that a choice amounts to, if every branch is a single character or
    every branch is a set. -/
def mergedSet? (fs : List Form) : Option CharSet :=
  match fs.mapM character? with
  | some cs => some (CharSet.ofChars cs)
  | none => (fs.mapM set?).map CharSet.unions

/-- A choice whose branches have nothing in front in common. -/
def plainChoice (fs : List Form) : Form :=
  match fs.flatMap branches with
  | [] => .chars CharSet.empty
  | [f] => f
  | fs =>
    match mergedSet? fs with
    | some s => ofSet s
    | none => .choice fs

/-- A choice. What all branches begin with is put in front. What is left of the
    branches then has nothing in front in common, for a choice that is left as
    a whole of one branch would have had it put in front itself. -/
def ofBranches (fs : List Form) : Form :=
  match plainChoice fs with
  | .choice fs =>
    match fs.mapM sequence? with
    | none => .choice fs
    | some sequences =>
      let front := commonFront sequences
      if front.isEmpty then .choice fs
      else
        append (.sequence front)
          (plainChoice (sequences.map fun parts => ofParts (parts.drop front.length)))
  | f => f

/-- A repetition. -/
def repeated (f : Form) (least : Nat) (most : Option Nat) (greedy : Bool) : Form :=
  let (least, most) : Nat × Option Nat :=
    if f.isZeroWidth then (min least 1, some (min (most.getD 1) 1)) else (least, most)
  if most = some 0 then .empty
  else if least = 1 ∧ most = some 1 then f
  else .times f least most greedy

end Form

mutual

/-- The form of an expression. -/
def form : Regex → Form
  | .empty => .empty
  | .chars s => Form.ofSet s
  | .look l => .look l
  | .cat a b => Form.append (form a) (form b)
  | .alt a b => Form.ofBranches (form a :: branchForms b)
  | .times r least most greedy => Form.repeated (form r) least most greedy
  | .group r => .group (form r)

/-- The forms of the branches of a choice, which hang to the left of a chain
    that ends in the empty set. -/
def branchForms : Regex → List Form
  | .alt a b => form a :: branchForms b
  | _ => []

end

end Regex

end IrcHarness
