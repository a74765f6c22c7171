import IrcHarness.Regex.Meaning
import IrcHarness.Regex.Search

/-!
# Full Matches

Expressions that are meant to match a whole text and not a piece of it. The
text of the expression is put into a group between `^` and `$`, and the result
is searched for. For an expression that is well formed by itself this asks for
a match of the whole text. A text that closes the group and opens another one
is well formed only inside, and its branches are anchored at one end each.

## Main definitions

* `FullRegex`: An expression with its text.
* `FullRegex.compile?`: The expression of a text, between anchors.
* `FullRegex.matches`: Whether an expression matches a text.
-/

namespace IrcHarness

/-- An expression that stands between anchors, and its text without them. -/
structure FullRegex where
  /-- The text as written. -/
  source : String
  /-- The expression with its anchors. -/
  anchored : Regex
deriving Repr

namespace FullRegex

/-- A text put into a group between `^` and `$`. -/
def anchor (source : List Char) : List Char :=
  ['^', '(', '?', ':'] ++ source ++ [')', '$']

/-- The expression of a text, if it is well formed between its anchors. -/
def compile? (source : String) : Option FullRegex :=
  (Regex.compile? (anchor source.toList)).map fun r => ⟨source, r⟩

/-- Whether an expression matches a text. -/
def «matches» (r : FullRegex) (text : String) : Bool :=
  r.anchored.occurs text.toList

end FullRegex

end IrcHarness
