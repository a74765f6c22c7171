import IrcHarness.Pattern.Printer

/-!
# Checking Patterns

The walk that compares a value with a pattern and stops at the first place
where they part. Required keys are visited in their order, list items from
left to right, then the items behind them, and what concerns a collection as a
whole comes last: keys that are not allowed, the length, the least number of
items left.

The walk knows where it is as an address of keys and positions, and the report
shows the address, what was expected there, and what was found.

## Main definitions

* `Step`, `Address`: Where in a value a pattern is compared.
* `Mismatch`: The first place where a value departs from a pattern.
* `Pattern.check`: The walk.
* `Pattern.accepts`: Whether the walk finds nothing.
* `AssertionFailure`: A report on a mismatch.
* `Pattern.assert`: The walk over a whole value, with a report.
-/

namespace IrcHarness

/-- A step from a value to a part of it. -/
inductive Step where
  /-- To the value under a key. -/
  | key (k : String)
  /-- To the item at a position. -/
  | index (i : Nat)
deriving DecidableEq, Repr

/-- The steps from the root of a value to a part of it. -/
abbrev Address := List Step

namespace Address

/-- A path as text. A key stands behind a dot, unless nothing has been written
    yet. -/
def extend (path : String) : Step → String
  | .key k => if path.isEmpty then k else path ++ "." ++ k
  | .index i => path ++ "[" ++ String.ofList (Digit.decimal i) ++ "]"

/-- An address as text. -/
def path (address : Address) : String :=
  address.foldl extend ""

/-- An address as a report shows it. -/
def display (address : Address) : String :=
  if (path address).isEmpty then "<root>" else path address

end Address

/-- The first place where a value departs from a pattern. -/
structure Mismatch where
  /-- The place. -/
  address : Address
  /-- What was expected there. -/
  expected : String
  /-- What is there. -/
  actual : Option Json

namespace Pattern

/-- A value or its absence, as a report shows it. -/
def describe : Option Json → String
  | some v => v.write
  | none => "<absent>"

mutual

/-- Compare a value, or its absence, with a pattern. -/
def check (address : Address) (value : Option Json) : Pattern → Option Mismatch
  | .wildcard => none
  | .literal v =>
    match value with
    | some w => if Json.same w v then none else some ⟨address, write (.literal v), value⟩
    | none => some ⟨address, write (.literal v), value⟩
  | .regex r =>
    match value with
    | some (.string s) =>
      if r.matches s then none else some ⟨address, write (.regex r), value⟩
    | _ => some ⟨address, write (.regex r), value⟩
  | .notRegex r =>
    match value with
    | some (.string s) =>
      if r.matches s then some ⟨address, write (.notRegex r), value⟩ else none
    | _ => some ⟨address, write (.notRegex r), value⟩
  | .map required isOpen =>
    match value with
    | some (.object fields) =>
      match checkFields address fields required with
      | some mismatch => some mismatch
      | none =>
        if isOpen then none
        else (fields.find? fun f => !Fields.hasKey f.1 required).map fun f =>
          ⟨address ++ [.key f.1], "<absent>", some f.2⟩
    | _ => some ⟨address, write (.map required isOpen), value⟩
  | .list items isOpen =>
    match value with
    | some (.array elems) =>
      match checkItems address 0 elems items with
      | some mismatch => some mismatch
      | none =>
        if isOpen ∨ elems.length = items.length then none
        else some ⟨address, String.ofList (Digit.decimal items.length) ++ " items " ++
          write (.list items isOpen), value⟩
    | _ => some ⟨address, write (.list items isOpen), value⟩
  | .listRemainder items remainder minRemaining =>
    match value with
    | some (.array elems) =>
      match checkItems address 0 elems items with
      | some mismatch => some mismatch
      | none =>
        let rest := elems.drop items.length
        match rest.zipIdx.findSome? fun e =>
            check (address ++ [.index (items.length + e.2)]) (some e.1) remainder with
        | some mismatch => some mismatch
        | none =>
          if rest.length < minRemaining then
            some ⟨address, write (.listRemainder items remainder minRemaining), value⟩
          else none
    | _ => some ⟨address, write (.listRemainder items remainder minRemaining), value⟩

/-- Compare the fields of an object with what is required, key by key. -/
def checkFields (address : Address) (fields : List (String × Json)) :
    List (String × Pattern) → Option Mismatch
  | [] => none
  | (key, p) :: rest =>
    match check (address ++ [.key key]) (Fields.find? key fields) p with
    | some mismatch => some mismatch
    | none => checkFields address fields rest

/-- Compare a list with items, from a position on. -/
def checkItems (address : Address) (i : Nat) (elems : List Json) :
    List Pattern → Option Mismatch
  | [] => none
  | p :: rest =>
    match check (address ++ [.index i]) elems.head? p with
    | some mismatch => some mismatch
    | none => checkItems address (i + 1) elems.tail rest

end

/-- Whether a pattern accepts a value. -/
def accepts (p : Pattern) (v : Json) : Bool :=
  (check [] (some v) p).isNone

end Pattern

/-- A report on a value that departs from a pattern. -/
structure AssertionFailure where
  /-- What was being checked. -/
  context : String
  /-- The place of the first mismatch. -/
  path : String
  /-- What was expected there. -/
  expected : String
  /-- What is there. -/
  actual : String
  /-- The whole pattern. -/
  fullExpected : String
  /-- The whole value. -/
  fullActual : String
deriving DecidableEq, Repr

/-- The wording of a report. -/
def AssertionFailure.message (f : AssertionFailure) : String :=
  f.context ++ ": mismatch at " ++ f.path ++ ": expected " ++ f.expected ++ ", got " ++ f.actual ++
    "\n  expected: " ++ f.fullExpected ++ "\n  actual:   " ++ f.fullActual

/-- Compare a value with a pattern and report the first mismatch. -/
def Pattern.assert (context : String) (v : Json) (p : Pattern) : Except AssertionFailure Unit :=
  match p.check [] (some v) with
  | none => .ok ()
  | some mismatch => .error
    { context
      path := mismatch.address.display
      expected := mismatch.expected
      actual := describe mismatch.actual
      fullExpected := p.write
      fullActual := describe (some v) }

end IrcHarness
