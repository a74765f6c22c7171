import IrcHarness.Json.Fields
import IrcHarness.Numeric.Binary64

/-!
# JSON Values

The values that patterns are checked against. Numbers keep their kind: an
integer and a float are never equal, whatever their values, and two floats
are equal when their values are, for which the sign of zero does not count.

The fields of an object are in the order of their keys, and no key comes
twice. `Json.ofFields` builds objects from assignments in any order.

## Main definitions

* `Json.Number`, `Json`: Numbers and values.
* `Json.ofFields`: An object from assignments.
* `Json.same`: Equality of values.
* `Json.get?`: The value under a key of an object.
-/

namespace IrcHarness

/-- A number, which is an integer or a float. -/
inductive Json.Number where
  /-- An integer. -/
  | int (n : Int)
  /-- A number written with a fraction or an exponent, or out of the range of
      integers. -/
  | float (x : Binary64)
deriving DecidableEq, Repr

/-- A JSON value. -/
inductive Json where
  /-- The value `null`. -/
  | null
  /-- A truth value. -/
  | bool (b : Bool)
  /-- A number. -/
  | number (n : Json.Number)
  /-- A text. -/
  | string (s : String)
  /-- A list of values. -/
  | array (items : List Json)
  /-- Values under keys, in the order of the keys. -/
  | object (fields : List (String × Json))
deriving Repr

namespace Json

instance : Inhabited Json := ⟨.null⟩

/-- The object that assignments in any order describe. -/
def ofFields (entries : List (String × Json)) : Json :=
  .object (Fields.ofList entries)

/-- A natural number as a value. -/
def ofNat (n : Nat) : Json := .number (.int n)

/-- A text that may be missing, as a text or `null`. -/
def ofOption : Option String → Json
  | none => .null
  | some s => .string s

/-- The value under a key, none when the value is no object. -/
def get? (key : String) : Json → Option Json
  | .object fields => Fields.find? key fields
  | _ => none

/-- Equality of numbers of one kind. -/
def Number.same : Number → Number → Bool
  | .int m, .int n => m = n
  | .float x, .float y => Binary64.same x y
  | _, _ => false

mutual

/-- Equality of values. -/
def same : Json → Json → Bool
  | .null, .null => true
  | .bool a, .bool b => a = b
  | .number m, .number n => Number.same m n
  | .string s, .string t => s = t
  | .array xs, .array ys => sameItems xs ys
  | .object fs, .object gs => sameFields fs gs
  | _, _ => false

/-- Equality of lists of values, item by item. -/
def sameItems : List Json → List Json → Bool
  | [], [] => true
  | x :: xs, y :: ys => same x y && sameItems xs ys
  | _, _ => false

/-- Equality of fields, which are in the same order on both sides. -/
def sameFields : List (String × Json) → List (String × Json) → Bool
  | [], [] => true
  | (k, x) :: fs, (l, y) :: gs => k = l && same x y && sameFields fs gs
  | _, _ => false

end

end Json

end IrcHarness
