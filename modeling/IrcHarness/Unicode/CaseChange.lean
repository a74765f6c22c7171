import IrcHarness.Unicode.Folding
import IrcHarness.Unicode.Property

/-!
# Changes of Letter Case

Which characters a change of letter case replaces. The groups of characters
that differ in case only settle nearly all of it: a member of a group changes
to lower case when it is upper case or title case, and to upper case when it is
not upper case. Beside them stand the characters that become several, such as
the sharp s, and the few scripts whose case forms are used one-sidedly.

## Main definitions

* `changesWhenLowercased`, `changesWhenUppercased`, `changesWhenTitlecased`,
  `changesWhenCasefolded`: What each change replaces.
* `caseChange?`: The characters with the property of a given name.
-/

namespace IrcHarness

namespace Unicode

/-- Characters without a counterpart of their own that become others, mostly
    several, in upper case. -/
def expandedInUpperCase : List String := [
  "131 149 1F0 587 1E96-1E9A 1F50 1F52 1F54 1F56 1FB2 1FB4 1FB6-1FB7 1FC2 1FC4 1FC6-1FC7 1FD2",
  "1FD6-1FD7 1FE2 1FE4 1FE6-1FE7 1FF2 1FF4 1FF6-1FF7 FB00-FB04 FB13-FB17"]

/-- Capital digraphs, of which title case leaves the first letter only. -/
def capitalDigraphs : List String := [
  "1C4 1C7 1CA 1F1"]

/-- Georgian letters, which title case leaves alone. -/
def withoutTitleCase : List String := [
  "10D0-10FA 10FD-10FF"]

/-- Characters that stay in lower case and are replaced by case folding. -/
def foldedOnly : List String := [
  "B5 DF 149 17F 345 3C2 3D0-3D1 3D5-3D6 3F0-3F1 3F5 587 13F8-13FD 1C80-1C88 1E9A-1E9B 1F80-1F87",
  "1F90-1F97 1FA0-1FA7 1FB2-1FB4 1FB7 1FC2-1FC4 1FC7 1FF2-1FF4 1FF7 AB70-ABBF FB00-FB06 FB13-FB17"]

/-- Cherokee letters, which case folding leaves in upper case. -/
def foldedUpward : List String := [
  "13A0-13F5"]

/-- Characters that differ from others in letter case only. -/
def withCaseVariants : CharSet :=
  CharSet.ofRanges (caseGroups.flatMap fun group => group.map fun n => (n, n))

/-- Characters that differ from their lower case. The capital I with a dot has
    a lower case of two characters. -/
def changesWhenLowercased : CharSet :=
  CharSet.union (CharSet.ofRanges [(0x130, 0x130)])
    (CharSet.inter withCaseVariants (CharSet.union uppercase (CharSet.ofText categoryLt)))

/-- Characters that differ from their upper case. -/
def changesWhenUppercased : CharSet :=
  CharSet.union (CharSet.ofText expandedInUpperCase) (CharSet.diff withCaseVariants uppercase)

/-- Characters that differ from their title case. -/
def changesWhenTitlecased : CharSet :=
  CharSet.diff
    (CharSet.union (CharSet.ofText capitalDigraphs)
      (CharSet.diff changesWhenUppercased (CharSet.ofText categoryLt)))
    (CharSet.ofText withoutTitleCase)

/-- Characters that case folding replaces. -/
def changesWhenCasefolded : CharSet :=
  CharSet.diff (CharSet.union (CharSet.ofText foldedOnly) changesWhenLowercased)
    (CharSet.ofText foldedUpward)

/-- The characters with the property of the given loose name. -/
def caseChange? (loose : List Char) : Option CharSet :=
  if isNamed ["CWL", "Changes_When_Lowercased"] loose then some changesWhenLowercased
  else if isNamed ["CWU", "Changes_When_Uppercased"] loose then some changesWhenUppercased
  else if isNamed ["CWT", "Changes_When_Titlecased"] loose then some changesWhenTitlecased
  else if isNamed ["CWCF", "Changes_When_Casefolded"] loose then some changesWhenCasefolded
  else if isNamed ["CWCM", "Changes_When_Casemapped"] loose then
    some (CharSet.unions [changesWhenLowercased, changesWhenUppercased, changesWhenTitlecased])
  else none

end Unicode

end IrcHarness
