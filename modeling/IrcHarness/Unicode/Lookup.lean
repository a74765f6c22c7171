import IrcHarness.Unicode.Age
import IrcHarness.Unicode.Boundary
import IrcHarness.Unicode.CaseChange

/-!
# Properties by Name

What a property asked for by name holds. Names are compared loosely. A name by
itself is a property that a character has or lacks, a category or a script. A
name with a value is a property that gives each character one of several
values.

Three short names of categories are short for other properties too, and are
taken for the category.

## Main definitions

* `named?`: The characters that a name by itself stands for.
* `valued?`: The characters to which a property gives a value.
-/

namespace IrcHarness

namespace Unicode

/-- The characters with the yes-or-no property of the given loose name. -/
def binaryProperty? (loose : List Char) : Option CharSet :=
  (derivedProperty? loose).or
    ((listedProperty? loose).or ((contribution? loose).or (caseChange? loose)))

/-- The characters that a name by itself stands for. -/
def named? (name : List Char) : Option CharSet :=
  let loose := looseName name
  let other := (category? loose).or (script? loose)
  if loose = "cf".toList ∨ loose = "sc".toList ∨ loose = "lc".toList then other
  else (binaryProperty? loose).or other

/-- The characters to which the named property gives the named value. -/
def valued? (property value : List Char) : Option CharSet :=
  let property := looseName property
  let value := looseName value
  if isNamed ["gc", "General_Category"] property then category? value
  else if isNamed ["sc", "Script"] property then script? value
  else if isNamed ["scx", "Script_Extensions"] property then scriptExtension? value
  else if isNamed ["age"] property then age? value
  else if isNamed ["GCB", "Grapheme_Cluster_Break"] property then graphemeClass? value
  else if isNamed ["WB", "Word_Break"] property then wordClass? value
  else if isNamed ["SB", "Sentence_Break"] property then sentenceClass? value
  else none

end Unicode

end IrcHarness
