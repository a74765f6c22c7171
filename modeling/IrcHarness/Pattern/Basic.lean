import IrcHarness.Json.Value
import IrcHarness.Regex.Full

/-!
# Patterns

What a value has to look like. Patterns are compared with JSON values, and
also with the absence of a value: a key that an object lacks, or a position
behind the end of a list. Only the wildcard accepts absence.

Collections are closed or open. A closed map lists every key that is allowed,
a closed list every item, and open ones allow more of either.

`Satisfies` says what accepting means, case by case and without an order of
visiting. It is stated for lists through their positions, so that an item of a
pattern that no item of the list stands across is compared with absence.

## Main definitions

* `Pattern`: A pattern.
* `Pattern.closedMap`, `Pattern.openList` and the like: Building patterns.
* `Pattern.Satisfies`: Which values a pattern accepts.
-/

namespace IrcHarness

/-- What a value has to look like. -/
inductive Pattern where
  /-- Equal to a value. -/
  | literal (v : Json)
  /-- Anything, also nothing. -/
  | wildcard
  /-- A text that an expression matches as a whole. -/
  | regex (r : FullRegex)
  /-- A text that an expression does not match as a whole. -/
  | notRegex (r : FullRegex)
  /-- An object with the required keys, and no others unless it is open. -/
  | map (required : List (String × Pattern)) (isOpen : Bool)
  /-- A list with the items, and no more unless it is open. -/
  | list (items : List Pattern) (isOpen : Bool)
  /-- A list with the items and behind them at least so many others that all
      look alike. -/
  | listRemainder (items : List Pattern) (remainder : Pattern) (minRemaining : Nat)
deriving Repr

namespace Pattern

instance : Inhabited Pattern := ⟨.wildcard⟩

/-- A text that is equal to the given one. -/
def text (s : String) : Pattern := .literal (.string s)

/-- An object with exactly these keys. A later entry for a key replaces an
    earlier one. -/
def closedMap (entries : List (String × Pattern)) : Pattern :=
  .map (Fields.ofList entries) false

/-- An object with at least these keys. -/
def openMap (entries : List (String × Pattern)) : Pattern :=
  .map (Fields.ofList entries) true

/-- A list of exactly these items. -/
def closedList (items : List Pattern) : Pattern :=
  .list items false

/-- A list that starts with these items. -/
def openList (items : List Pattern) : Pattern :=
  .list items true

/-- Whether a pattern is the wildcard. -/
def isWildcard : Pattern → Bool
  | .wildcard => true
  | _ => false

mutual

/-- Which values, or the absence of one, a pattern accepts. -/
def Satisfies : Option Json → Pattern → Prop
  | _, .wildcard => True
  | value, .literal v => ∃ w, value = some w ∧ Json.same w v = true
  | value, .regex r => ∃ s, value = some (.string s) ∧ r.matches s = true
  | value, .notRegex r => ∃ s, value = some (.string s) ∧ r.matches s = false
  | value, .map required isOpen =>
    ∃ fields, value = some (.object fields) ∧ SatisfiesFields fields required ∧
      (isOpen = false → ∀ f ∈ fields, Fields.hasKey f.1 required)
  | value, .list items isOpen =>
    ∃ elems, value = some (.array elems) ∧ SatisfiesItems elems items ∧
      (isOpen = false → elems.length = items.length)
  | value, .listRemainder items remainder minRemaining =>
    ∃ elems, value = some (.array elems) ∧ SatisfiesItems elems items ∧
      (∀ e ∈ elems.drop items.length, Satisfies (some e) remainder) ∧
      minRemaining ≤ elems.length - items.length

/-- Whether the fields of an object are as required, key by key. -/
def SatisfiesFields (fields : List (String × Json)) : List (String × Pattern) → Prop
  | [] => True
  | (key, p) :: rest =>
    Satisfies (Fields.find? key fields) p ∧ SatisfiesFields fields rest

/-- Whether a list has the items, position by position. -/
def SatisfiesItems : List Json → List Pattern → Prop
  | _, [] => True
  | elems, p :: rest => Satisfies elems.head? p ∧ SatisfiesItems elems.tail rest

end

end Pattern

end IrcHarness
