import IrcHarness.Regex.ClassReader
import IrcHarness.Unicode.Later

/-!
# Reading Regular Expressions

The tree of a written expression. Sequences are read from left to right, a
repetition takes the part in front of it, and a bar starts a new branch. Flags
that are set in the middle of a group hold up to its end. Only one of them,
verbose mode, matters while reading; the others are kept in the tree.

What this dialect does not have is refused: tests that look ahead or behind,
references to groups, and octal escapes.

## Main definitions

* `Regex.Input`: What is left to read, and what reading depends on.
* `Regex.readFlags`: The flags behind `(?`.
* `Regex.readCount`: The bounds of a counted repetition.
* `Regex.readBranches`: The branches up to the end of a group.
* `Regex.Tree.read?`: The tree of a whole expression.
-/

namespace IrcHarness

namespace Regex

/-- What is left to read, and what reading depends on. -/
structure Input where
  /-- The characters left. -/
  rest : List Char
  /-- Whether blanks and comments are skipped. -/
  verbose : Bool
  /-- The names that groups have so far. -/
  names : List (List Char)

/-- The flag with a letter. -/
def flagOf? : Char → Option Flag
  | 'i' => some .ignoreCase
  | 'm' => some .multiLine
  | 's' => some .dotAll
  | 'U' => some .swapGreed
  | 'u' => some .unicode
  | 'R' => some .crlf
  | 'x' => some .verbose
  | _ => none

/-- Flags up to a colon or a closing parenthesis, which is left. A hyphen, at
    most one and not the last, clears the flags behind it. No flag comes
    twice. -/
def readFlags (changes : FlagChanges) (cleared : Bool) : List Char →
    Option (FlagChanges × List Char)
  | [] => none
  | ':' :: rest => some (changes.reverse, ':' :: rest)
  | ')' :: rest => some (changes.reverse, ')' :: rest)
  | '-' :: rest =>
    match rest with
    | [] => none
    | c :: _ =>
      if cleared ∨ c = ':' ∨ c = ')' then none else readFlags changes true rest
  | c :: rest =>
    match flagOf? c with
    | none => none
    | some f =>
      if changes.any fun change => change.1 = f then none
      else readFlags ((f, !cleared) :: changes) cleared rest

/-- What changes make of a flag. -/
def applyTo (changes : FlagChanges) (f : Flag) (old : Bool) : Bool :=
  match changes.find? fun change => change.1 = f with
  | some change => change.2
  | none => old

/-- Whether a character may stand in the name of a group. -/
def isNameChar (first : Bool) (c : Char) : Bool :=
  let letter := Unicode.alphabetic.contains c || Unicode.laterAlphabetic.contains c
  let number := Unicode.numeric.contains c || Unicode.laterNumeric.contains c
  if first then c = '_' || letter
  else c = '_' || c = '.' || c = '[' || c = ']' || letter || number

/-- The name of a group, behind its opening bracket. -/
def readName (cs : List Char) : Option (List Char × List Char) :=
  match cs.dropWhile (· ≠ '>') with
  | '>' :: rest =>
    match cs.takeWhile (· ≠ '>') with
    | [] => none
    | c :: name =>
      if isNameChar true c && name.all (isNameChar false) then some (c :: name, rest) else none
  | _ => none

/-- The largest count of a repetition. -/
def maxCount : Nat := 4294967295

/-- Decimal digits, between which verbose mode skips, at most `n` of them. -/
def readDecimalDigits (verbose : Bool) : Nat → List Char → List Char × List Char
  | 0, cs => ([], cs)
  | _ + 1, [] => ([], [])
  | n + 1, c :: rest =>
    if Digit.isDigitIn 10 c then
      let r := readDecimalDigits verbose n (skip verbose rest)
      (c :: r.1, r.2)
    else ([], c :: rest)

/-- A count with blanks around it. -/
def readDecimal (verbose : Bool) (cs : List Char) : Option (Nat × List Char) :=
  match readDecimalDigits verbose (cs.length + 1) (cs.dropWhile isBlank) with
  | ([], _) => none
  | (digits, rest) =>
    let n := Digit.read 10 digits
    if n ≤ maxCount then some (n, skip verbose (rest.dropWhile isBlank)) else none

/-- The bounds of a counted repetition, behind its opening brace. -/
def readCount (verbose : Bool) (cs : List Char) :
    Option ((Nat × Option Nat) × List Char) :=
  match readDecimal verbose (skip verbose cs) with
  | none => none
  | some (least, '\x7d' :: rest) => some ((least, some least), rest)
  | some (least, ',' :: rest) =>
    match skip verbose rest with
    | '\x7d' :: rest => some ((least, none), rest)
    | rest =>
      match readDecimal verbose rest with
      | some (most, '\x7d' :: rest) =>
        if least ≤ most then some ((least, some most), rest) else none
      | _ => none
  | some _ => none

/-- Whether a question mark stands in front of a text, and the text without
    it. -/
def readMark : List Char → Bool × List Char
  | '?' :: rest => (true, rest)
  | cs => (false, cs)

/-- Parts side by side, given in reverse. -/
def concatOf : List Tree → Tree
  | [] => .empty
  | [t] => t
  | parts => .concat parts.reverse

/-- Branches of a choice, given in reverse. -/
def alternationOf : List Tree → Tree
  | [] => .empty
  | [t] => t
  | branches => .alternation branches.reverse

/-- Whether a part can be repeated. Flags cannot. -/
def isRepeatable : Tree → Bool
  | .empty => false
  | .flags _ => false
  | _ => true

/-- The part that an atom is. -/
def atomTree : Atom → Tree
  | .literal c => .literal c
  | .byte c => .byte c
  | .dot => .dot
  | .anchor a => .anchor a
  | .short kind negated => .chars (.short kind negated)
  | .property query negated => .chars (.property query negated)

/-- One character or escape. -/
def readAtom (verbose : Bool) : List Char → Option (Atom × List Char)
  | [] => none
  | '\\' :: rest => readEscape verbose rest
  | '.' :: rest => some (.dot, rest)
  | '^' :: rest => some (.anchor .caret, rest)
  | '$' :: rest => some (.anchor .dollar, rest)
  | c :: rest => some (.literal c, rest)

/-- What an opening parenthesis introduces. -/
inductive Opening where
  /-- Flags that hold from here on. -/
  | flags (changes : FlagChanges)
  /-- A group that captures, or one with flags of its own, whose branches
      follow. -/
  | group (captures : Bool) (changes : FlagChanges)

/-- The front of a group, behind its opening parenthesis. -/
def readOpening (input : Input) : Option (Opening × Input) :=
  match skip input.verbose input.rest with
  | '?' :: '=' :: _ => none
  | '?' :: '!' :: _ => none
  | '?' :: '<' :: '=' :: _ => none
  | '?' :: '<' :: '!' :: _ => none
  | '?' :: 'P' :: '<' :: rest | '?' :: '<' :: rest =>
    match readName rest with
    | none => none
    | some (name, rest) =>
      if input.names.contains name then none
      else some (.group true [], { input with rest, names := name :: input.names })
  | '?' :: rest =>
    match readFlags [] false rest with
    | some (changes, ')' :: rest) =>
      if changes = [] then none else some (.flags changes, { input with rest })
    | some (changes, ':' :: rest) => some (.group false changes, { input with rest })
    | _ => none
  | rest => some (.group true [], { input with rest })

/-- Repeat the last of the parts, which are given in reverse. -/
def repeatLast (least : Nat) (most : Option Nat) (marked : Bool) :
    List Tree → Option (List Tree)
  | [] => none
  | t :: parts => if isRepeatable t then some (.times t least most marked :: parts) else none

/-- The branches up to the end of a group or of the text. Parts of the last
    branch and the branches in front of it are given in reverse. -/
def readBranches : Nat → Input → List Tree → List Tree → Option (Tree × Input)
  | 0, _, _, _ => none
  | fuel + 1, input, parts, branches =>
    let at_ (rest : List Char) : Input := { input with rest }
    match skip input.verbose input.rest with
    | [] => some (alternationOf (concatOf parts :: branches), at_ [])
    | ')' :: rest => some (alternationOf (concatOf parts :: branches), at_ (')' :: rest))
    | '|' :: rest => readBranches fuel (at_ rest) [] (concatOf parts :: branches)
    | '(' :: rest =>
      match readOpening (at_ rest) with
      | none => none
      | some (.flags changes, input) =>
        readBranches fuel { input with verbose := applyTo changes .verbose input.verbose }
          (.flags changes :: parts) branches
      | some (.group captures changes, input) =>
        match readBranches fuel { input with verbose := applyTo changes .verbose input.verbose }
            [] [] with
        | some (t, inner) =>
          match inner.rest with
          | ')' :: rest =>
            readBranches fuel { inner with rest, verbose := input.verbose }
              (.group captures changes t :: parts) branches
          | _ => none
        | none => none
    | '[' :: rest =>
      match readClass input.verbose rest with
      | none => none
      | some (c, rest) => readBranches fuel (at_ rest) (.chars c :: parts) branches
    | '?' :: rest =>
      let (marked, rest) := readMark rest
      match repeatLast 0 (some 1) marked parts with
      | none => none
      | some parts => readBranches fuel (at_ rest) parts branches
    | '*' :: rest =>
      let (marked, rest) := readMark rest
      match repeatLast 0 none marked parts with
      | none => none
      | some parts => readBranches fuel (at_ rest) parts branches
    | '+' :: rest =>
      let (marked, rest) := readMark rest
      match repeatLast 1 none marked parts with
      | none => none
      | some parts => readBranches fuel (at_ rest) parts branches
    | '\x7b' :: rest =>
      match readCount input.verbose rest with
      | none => none
      | some ((least, most), rest) =>
        let (marked, rest) := readMark (skip input.verbose rest)
        match repeatLast least most marked parts with
        | none => none
        | some parts => readBranches fuel (at_ rest) parts branches
    | rest =>
      match readAtom input.verbose rest with
      | none => none
      | some (a, rest) => readBranches fuel (at_ rest) (atomTree a :: parts) branches

/-- The tree of a whole expression, unless it is malformed or nested too
    deeply. -/
def Tree.read? (source : List Char) : Option Tree :=
  match readBranches (source.length + 2) ⟨source, false, []⟩ [] [] with
  | some (t, input) => if input.rest = [] ∧ t.depth ≤ maxDepth then some t else none
  | none => none

end Regex

end IrcHarness
