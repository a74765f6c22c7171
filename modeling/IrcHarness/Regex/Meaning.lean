import IrcHarness.Regex.Extent
import IrcHarness.Regex.Reader
import IrcHarness.Unicode.Lookup

/-!
# The Meaning of Written Expressions

From a tree to an expression, under the flags in force. Flags set in a group
end with it; flags set in one branch of a choice go on into the next.

When letter case does not count, a set gets the case variants of its members
before it is negated, and each side of an operator on classes does before they
are put together. Without characters of every script, sets may hold ASCII
characters only, so that a negated class is an error there. A character by
itself may be any.

An expression whose machines would be too large is refused.

## Main definitions

* `Regex.Flags`: The flags in force.
* `Regex.classMeaning`: The set that a class means.
* `Regex.Tree.meaning`: The expression that a tree means.
* `Regex.compile?`: The expression that a text means.
-/

namespace IrcHarness

namespace Regex

/-- The flags in force. -/
structure Flags where
  /-- Letter case does not count. -/
  ignoreCase : Bool
  /-- `^` and `$` match at lines. -/
  multiLine : Bool
  /-- The dot matches line ends too. -/
  dotAll : Bool
  /-- Repetitions are lazy, and greedy with a question mark behind them. -/
  swapGreed : Bool
  /-- Characters are those of every script. -/
  unicode : Bool
  /-- Lines may end in CR LF. -/
  crlf : Bool

/-- The flags at the start of an expression. -/
def Flags.initial : Flags := ⟨false, false, false, false, true, false⟩

/-- The flags after some of them are set or cleared. -/
def Flags.change (f : Flags) (changes : FlagChanges) : Flags :=
  { ignoreCase := applyTo changes .ignoreCase f.ignoreCase
    multiLine := applyTo changes .multiLine f.multiLine
    dotAll := applyTo changes .dotAll f.dotAll
    swapGreed := applyTo changes .swapGreed f.swapGreed
    unicode := applyTo changes .unicode f.unicode
    crlf := applyTo changes .crlf f.crlf }

/-- A set with the other case of its ASCII letters. -/
def foldAscii (s : CharSet) : CharSet :=
  let letters := List.range 26
  CharSet.ofRanges (s.ranges ++ letters.flatMap fun i =>
    let upper := 0x41 + i
    let lower := 0x61 + i
    if CharSet.containsIn s.ranges upper || CharSet.containsIn s.ranges lower then
      [(upper, upper), (lower, lower)]
    else [])

/-- A set as the flags take it: with case variants when case does not count. -/
def Flags.fold (f : Flags) (s : CharSet) : CharSet :=
  if f.ignoreCase then (if f.unicode then Unicode.foldCase s else foldAscii s) else s

/-- A set, if the flags allow it. -/
def Flags.allow (f : Flags) (s : CharSet) : Option CharSet :=
  if f.unicode || s.isAscii then some s else none

/-- The members of a set, or all others. -/
def negateIf (negated : Bool) (s : CharSet) : CharSet :=
  if negated then s.compl else s

/-- A set with case variants and then negated, if the flags allow it. -/
def Flags.foldAndNegate (f : Flags) (negated : Bool) (s : CharSet) : Option CharSet :=
  f.allow (negateIf negated (f.fold s))

/-- The members of a class with a letter. -/
def shortMembers (unicode : Bool) : ShortClass → CharSet
  | .digit => if unicode then Unicode.digit else CharSet.ofRanges [(0x30, 0x39)]
  | .space => if unicode then Unicode.blank else CharSet.ofRanges [(0x09, 0x0D), (0x20, 0x20)]
  | .word => if unicode then Unicode.word else Look.asciiWord

/-- The members of a property. -/
def propertyMembers : PropertyQuery → Option CharSet
  | .name name => Unicode.named? name
  | .value property value => Unicode.valued? property value

mutual

/-- The set that a class means, if the flags allow it. -/
def classMeaning (f : Flags) : ClassTree → Option CharSet
  | .empty => some CharSet.empty
  | .literal c => f.allow (CharSet.single c)
  | .range lo hi => f.allow (CharSet.range lo hi)
  | .named members negated => f.foldAndNegate negated members
  | .short kind negated => f.allow (negateIf negated (shortMembers f.unicode kind))
  | .property query negated =>
    if f.unicode then (propertyMembers query).bind (f.foldAndNegate negated) else none
  | .bracketed inner negated => (classMeaning f inner).bind (f.foldAndNegate negated)
  | .union parts => unionMeaning f parts
  | .op kind left right =>
    match classMeaning f left, classMeaning f right with
    | some left, some right =>
      let left := f.fold left
      let right := f.fold right
      some (match kind with
        | .inter => CharSet.inter left right
        | .diff => CharSet.diff left right
        | .symmDiff => CharSet.symmDiff left right)
    | _, _ => none

/-- The set that parts of a class mean together. -/
def unionMeaning (f : Flags) : List ClassTree → Option CharSet
  | [] => some CharSet.empty
  | c :: rest =>
    match classMeaning f c, unionMeaning f rest with
    | some s, some t => some (CharSet.union s t)
    | _, _ => none

end

/-- The set that the dot means. -/
def dotMembers (f : Flags) : Option CharSet :=
  if !f.unicode then none
  else if f.dotAll then some CharSet.all
  else if f.crlf then some (CharSet.ofChars ['\r', '\n']).compl
  else some (CharSet.single '\n').compl

/-- The test that an anchor means. -/
def anchorLook (f : Flags) : Anchor → Look
  | .caret => if f.multiLine then .lineStart f.crlf else .textStart
  | .dollar => if f.multiLine then .lineEnd f.crlf else .textEnd
  | .textStart => .textStart
  | .textEnd => .textEnd
  | .word kind => .word kind (!f.unicode)

mutual

/-- The expression that a tree means, and the flags in force behind it. -/
def Tree.meaning (f : Flags) : Tree → Option (Regex × Flags)
  | .empty => some (.empty, f)
  | .flags changes => some (.empty, f.change changes)
  | .literal c => some (.chars (f.fold (CharSet.single c)), f)
  | .byte c => (f.allow (CharSet.single c)).map fun s => (.chars (f.fold s), f)
  | .dot => (dotMembers f).map fun s => (.chars s, f)
  | .anchor a => some (.look (anchorLook f a), f)
  | .chars c => (classMeaning f c).map fun s => (.chars s, f)
  | .times t least most marked =>
    (Tree.meaning f t).map fun r => (.times r.1 least most (marked == f.swapGreed), f)
  | .group captures changes t =>
    (Tree.meaning (f.change changes) t).map fun r => (if captures then .group r.1 else r.1, f)
  | .alternation branches => Tree.choiceMeaning f branches
  | .concat parts => Tree.sequenceMeaning f parts

/-- The choice of several branches, with flags going on from one to the next.
    The branches hang to the left of a chain that ends in the empty set. -/
def Tree.choiceMeaning (f : Flags) : List Tree → Option (Regex × Flags)
  | [] => some (.chars CharSet.empty, f)
  | t :: rest =>
    match Tree.meaning f t with
    | none => none
    | some (r, f) => (Tree.choiceMeaning f rest).map fun s => (.alt r s.1, s.2)

/-- Several parts one after the other. -/
def Tree.sequenceMeaning (f : Flags) : List Tree → Option (Regex × Flags)
  | [] => some (.empty, f)
  | t :: rest =>
    match Tree.meaning f t with
    | none => none
    | some (r, f) => (Tree.sequenceMeaning f rest).map fun s => (.cat r s.1, s.2)

end

/-- The expression that a text means, unless the text is malformed, asks for
    what its flags do not allow, or means too large an expression. -/
def compile? (source : List Char) : Option Regex :=
  match Tree.read? source with
  | none => none
  | some t =>
    match Tree.meaning Flags.initial t with
    | none => none
    | some (r, _) => if (form r).fits then some r else none

end Regex

end IrcHarness
