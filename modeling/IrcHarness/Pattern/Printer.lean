import IrcHarness.Json.Printer
import IrcHarness.Pattern.Basic
import IrcHarness.Text.Quoted

/-!
# Writing Patterns

How a pattern is shown in a report. Literals are JSON, the wildcard is
`<any>`, expressions stand between slashes, and open collections end in two
dots.

## Main definitions

* `Pattern.write`: The text of a pattern.
-/

namespace IrcHarness

namespace Pattern

mutual

/-- The text of a pattern, as characters. -/
def writeChars : Pattern → List Char
  | .literal v => v.writeChars
  | .wildcard => "<any>".toList
  | .regex r => '/' :: (r.source.toList ++ ['/'])
  | .notRegex r => '!' :: '/' :: (r.source.toList ++ ['/'])
  | .map required isOpen =>
    '\x7b' :: (writeEntries required ++ openMark isOpen required.isEmpty ++ ['\x7d'])
  | .list items isOpen =>
    '[' :: (writeItems items ++ openMark isOpen items.isEmpty ++ [']'])
  | .listRemainder items remainder minRemaining =>
    '[' :: (writeItems items ++ (if items.isEmpty then [] else [',', ' ']) ++
      writeChars remainder ++ "... (at least ".toList ++ Digit.decimal minRemaining ++ [')', ']'])

/-- The mark of an open collection, with a comma in front unless it is
    empty. -/
def openMark (isOpen isEmpty : Bool) : List Char :=
  if isOpen then (if isEmpty then ['.', '.'] else [',', ' ', '.', '.']) else []

/-- Items with a comma between each two. -/
def writeItems : List Pattern → List Char
  | [] => []
  | [p] => writeChars p
  | p :: q :: rest => writeChars p ++ ',' :: ' ' :: writeItems (q :: rest)

/-- Entries with a comma between each two. -/
def writeEntries : List (String × Pattern) → List Char
  | [] => []
  | [(key, p)] => (Quoted.write key).toList ++ ':' :: ' ' :: writeChars p
  | (key, p) :: e :: rest =>
    (Quoted.write key).toList ++
      ':' :: ' ' :: (writeChars p ++ ',' :: ' ' :: writeEntries (e :: rest))

end

/-- The text of a pattern. -/
def write (p : Pattern) : String :=
  String.ofList p.writeChars

end Pattern

end IrcHarness
