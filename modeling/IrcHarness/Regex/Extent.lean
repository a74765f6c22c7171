import IrcHarness.Regex.ByteRow
import Std.Data.HashMap

/-!
# The Size of an Expression

How large the machines are that recognise an expression byte by byte. There are
two of them, one that reads forward and one that reads backward from the end of
a match. An expression is accepted if both fit into ten mebibytes, so the size is
taken exactly, by going through the construction of each machine without
keeping it.

A machine is put together from states. Each part of an expression has a state
where it is entered and one where it is left, and putting two parts together
sets the next state of the one that the first is left at. States come in three
kinds. A plain state has one next state. A fork has a list of them, and each
time it gets a further one it grows. A switch has a list of byte ranges with a
next state for each. Most parts are left at a plain state, but a repetition
without upper bound is left at its fork, so what follows makes it grow once
more.

Sets beyond ASCII take many states, of which equal ones are shared as far as a
small table remembers them. A new state takes the place of an older one there,
and the place depends on the numbers of the states it leads to, that is, on how
many states the machine has already.

## Main definitions

* `Regex.Extent`: How far the construction of a machine has come.
* `Regex.Memo`: The table of states that can be shared.
* `Regex.Trie`: Literals that share what they begin with.
* `Regex.Form.extend`: What a form adds to a machine.
* `Regex.Form.fits`: Whether both machines of a form are small enough.
-/

namespace IrcHarness

namespace Regex

/-- How far the construction of a machine has come. -/
structure Extent where
  /-- The number of states, which is also the number of the next one. -/
  states : Nat
  /-- The bytes of the lists that forks and switches hold. -/
  listed : Nat

namespace Extent

/-- The bytes of a state without its list. -/
def stateBytes : Nat := 32

/-- The bytes of a next state in the list of a fork. -/
def forkBytes : Nat := 4

/-- The bytes of a range with its next state in the list of a switch. -/
def switchBytes : Nat := 8

/-- The bytes of the largest machine that is accepted. -/
def maxBytes : Nat := 10485760

/-- The bytes of a machine so far. -/
def bytes (e : Extent) : Nat :=
  stateBytes * e.states + e.listed

/-- Add states and bytes of lists, if the machine does not get too large. -/
def add (e : Extent) (states listed : Nat) : Option Extent :=
  let e : Extent := ⟨e.states + states, e.listed + listed⟩
  if e.bytes ≤ maxBytes then some e else none

/-- What a part adds when another follows: nothing if it is left at a plain
    state, and an entry if it is left at a fork. -/
def linkBytes (atFork : Bool) : Nat :=
  if atFork then forkBytes else 0

end Extent

/-- States that can be shared, each at a place that what it leads to decides. -/
structure Memo where
  /-- The number of places. -/
  places : Nat
  /-- What the state at a place leads to, and its number. -/
  entries : Std.HashMap Nat (List Nat × Nat)

namespace Memo

/-- A table with so many places. -/
def ofPlaces (places : Nat) : Memo := ⟨places, ∅⟩

/-- The place of a state that leads to something, by a hash that takes in one
    number after the other. -/
def place (m : Memo) (key : List Nat) : Nat :=
  let hash := key.foldl (fun (h : UInt64) n => (h ^^^ UInt64.ofNat n) * 1099511628211)
    14695981039346656037
  hash.toNat % m.places

/-- The number of the state that leads to something: one that the table holds,
    or a new one with so many bytes in its list. -/
def share (m : Memo) (key : List Nat) (listed : Nat) (e : Extent) :
    Option (Nat × Memo × Extent) :=
  let place := m.place key
  let known := match m.entries[place]? with
    | some (key', state) => if key = key' then some state else none
    | none => none
  match known with
  | some state => some (state, m, e)
  | none =>
    (e.add 1 listed).map fun e' =>
      (e.states, ⟨m.places, m.entries.insert place (key, e.states)⟩, e')

end Memo

/-- The switch that tells rows apart by their first range, with those for the
    ranges behind it, of which there are at most `depth`. All rows lead to the
    same state in the end. -/
def shareRows (last : Nat) : Nat → List ByteRow → Memo → Extent → Option (Nat × Memo × Extent)
  | 0, _, m, e => some (last, m, e)
  | depth + 1, rows, m, e =>
    let groups := rows.splitBy fun a b => a.head? == b.head?
    let step : List Nat × Memo × Extent → List ByteRow → Option (List Nat × Memo × Extent)
      | acc, [] | acc, [] :: _ => some acc
      | (key, m, e), [range] :: _ => some (last :: range.2 :: range.1 :: key, m, e)
      | (key, m, e), (range :: row) :: rows =>
        match shareRows last depth (row :: rows.map List.tail) m e with
        | none => none
        | some (state, m, e) => some (state :: range.2 :: range.1 :: key, m, e)
    match groups.foldlM step ([], m, e) with
    | none => none
    | some (key, m, e) => m.share key.reverse (groups.length * Extent.switchBytes) e

/-- The states of a row that is read from its last byte, each leading to the one
    for the byte in front of it. -/
def shareBackward : ByteRow → Nat → Memo → Extent → Option (Memo × Extent)
  | [], _, m, e => some (m, e)
  | range :: row, next, m, e =>
    match m.share [next, range.1, range.2] 0 e with
    | none => none
    | some (state, m, e) => shareBackward row state m e

/-- The rows of a set that is read backward, each an entry of a fork. -/
def shareRowsBackward (first : Nat) : List ByteRow → Memo → Extent → Option Extent
  | [], _, e => some e
  | row :: rows, m, e =>
    match shareBackward row first m e with
    | none => none
    | some (m, e) =>
      match e.add 0 Extent.forkBytes with
      | none => none
      | some e => shareRowsBackward first rows m e

/-- What a set of characters adds to a machine. -/
def extendBySet (backward : Bool) (s : CharSet) (e : Extent) : Option Extent :=
  if s.isAscii then e.add 2 (s.ranges.length * Extent.switchBytes)
  else if backward then
    (e.add 2 0).bind (shareRowsBackward (e.states + 1) (byteRows s) (Memo.ofPlaces 1000))
  else
    (e.add 1 0).bind fun e' =>
      (shareRows e.states 4 (byteRows s) (Memo.ofPlaces 10000) e').map fun r => r.2.2

/-- Literals that share what they begin with. The literals are in order of
    preference, so an arrow that comes after the end of a literal is kept apart
    from those before it. -/
inductive Trie where
  /-- The arrows between one end of a literal and the next, and those behind the
      last end. -/
  | node (closed : List (List (UInt8 × Trie))) (current : List (UInt8 × Trie))

namespace Trie

/-- A trie without literals. -/
def empty : Trie := .node [] []

/-- Whether no arrow leads on. -/
def isLeaf : Trie → Bool
  | .node closed current => current.isEmpty && closed.all List.isEmpty

/-- Follow the arrow for a byte, which is put in its place among the others if
    it is not there. -/
def follow (b : UInt8) (f : Trie → Trie) : List (UInt8 × Trie) → List (UInt8 × Trie)
  | [] => [(b, f empty)]
  | (c, t) :: rest =>
    if b < c then (b, f empty) :: (c, t) :: rest
    else if b = c then (c, f t) :: rest
    else (c, t) :: follow b f rest

/-- Add a literal. -/
def insert : List UInt8 → Trie → Trie
  | [], .node closed current =>
    if (Trie.node closed current).isLeaf && !closed.isEmpty then .node closed current
    else .node (closed ++ [current]) []
  | b :: bytes, .node closed current =>
    .node closed (follow b (fun t => insert bytes t) current)

/-- The states and lists for arrows that stand together: a plain state if there
    is one, a switch if there are several, and an entry of the fork. -/
def arrowsExtent (count : Nat) : Extent :=
  if count = 0 then ⟨0, 0⟩
  else if count = 1 then ⟨1, Extent.forkBytes⟩
  else ⟨1, count * Extent.switchBytes + Extent.forkBytes⟩

/-- Two extents together. -/
def plus (a b : Extent) : Extent := ⟨a.states + b.states, a.listed + b.listed⟩

mutual

/-- The states and lists of a trie. A leaf has none, since the arrow to it leads
    to the end. -/
def extent : Trie → Extent
  | .node closed current =>
    if (Trie.node closed current).isLeaf then ⟨0, 0⟩
    else
      plus ⟨1, closed.length * Extent.forkBytes⟩
        (plus (closedExtent closed)
          (plus (arrowsExtent current.length) (currentExtent current)))

/-- The states and lists of several lists of arrows. -/
def closedExtent : List (List (UInt8 × Trie)) → Extent
  | [] => ⟨0, 0⟩
  | arrows :: rest =>
    plus (plus (arrowsExtent arrows.length) (currentExtent arrows)) (closedExtent rest)

/-- The states and lists of the tries that arrows lead to. -/
def currentExtent : List (UInt8 × Trie) → Extent
  | [] => ⟨0, 0⟩
  | (_, t) :: rest => plus (extent t) (currentExtent rest)

end

/-- The trie of several literals. -/
def ofLiterals (backward : Bool) (literals : List (List Char)) : Trie :=
  literals.foldl (fun t cs =>
    let bytes := Utf8.encode cs
    insert (if backward then bytes.reverse else bytes) t) empty

end Trie

/-- So many copies of a part in a row. Each step says whether its copy is left
    at a fork, and `atFork` says so of what stands in front. -/
def extendByCopies (step : Extent → Option (Extent × Bool)) :
    Nat → Bool → Extent → Option (Extent × Bool)
  | 0, atFork, e => some (e, atFork)
  | n + 1, atFork, e =>
    match step e with
    | none => none
    | some (e, leavesFork) =>
      match e.add 0 (Extent.linkBytes atFork) with
      | none => none
      | some e => extendByCopies step n leavesFork e

/-- So many copies of a part that may be left out, each behind a fork of its
    own. -/
def extendByOptional (step : Extent → Option (Extent × Bool)) :
    Nat → Bool → Extent → Option (Extent × Bool)
  | 0, atFork, e => some (e, atFork)
  | n + 1, atFork, e =>
    match (e.add 1 (Extent.linkBytes atFork + 2 * Extent.forkBytes)).bind step with
    | none => none
    | some (e, leavesFork) => extendByOptional step n leavesFork e

/-- A part that is repeated, of which the shortest piece has the length given. -/
def extendByTimes (step : Extent → Option (Extent × Bool)) (minLength : Option Nat)
    (least : Nat) (most : Option Nat) (e : Extent) : Option (Extent × Bool) := do
  match most with
  | none =>
    if least = 0 then
      if minLength.any (0 < ·) then
        let (e, atFork) ← step (← e.add 1 0)
        return (← e.add 0 (Extent.forkBytes + Extent.linkBytes atFork), true)
      else
        let (e, atFork) ← step e
        return (← e.add 3 (4 * Extent.forkBytes + Extent.linkBytes atFork), false)
    else
      let (e, atFork) ← extendByCopies step least false e
      return (← e.add 1 (Extent.forkBytes + Extent.linkBytes atFork), true)
  | some most =>
    if least = most then extendByCopies step least false e
    else if least = 0 ∧ most = 1 then
      let (e, atFork) ← step (← e.add 1 0)
      return (← e.add 1 (2 * Extent.forkBytes + Extent.linkBytes atFork), false)
    else
      let (e, atFork) ←
        if least = 0 then (e.add 1 0).map fun e => (e, false)
        else extendByCopies step least false e
      let (e, atFork) ← extendByOptional step (most - least) atFork (← e.add 1 0)
      return (← e.add 0 (Extent.linkBytes atFork), false)

namespace Form

/-- The characters of a literal. -/
def literal? : Form → Option (List Char)
  | .literal cs => some cs
  | _ => none

mutual

/-- What a form adds to a machine, and whether it is left at a fork. Groups are
    not captured when reading backward. -/
def extend (backward : Bool) : Form → Extent → Option (Extent × Bool)
  | .empty, e => (e.add 1 0).map fun e => (e, false)
  | .literal cs, e => (e.add (Utf8.encode cs).length 0).map fun e => (e, false)
  | .chars s, e => (extendBySet backward s e).map fun e => (e, false)
  | .look _, e => (e.add 1 0).map fun e => (e, false)
  | .times f least most _, e => extendByTimes (extend backward f) f.minLength least most e
  | .group f, e =>
    if backward then extend backward f e
    else
      match (e.add 1 0).bind (extend backward f) with
      | none => none
      | some (e, atFork) => (e.add 1 (Extent.linkBytes atFork)).map fun e => (e, false)
  | .sequence fs, e =>
    if backward then (extendBackward fs e).map fun r => (r.1, r.2.getD false)
    else extendForward fs false e
  | .choice fs, e =>
    match fs.mapM literal? with
    | some literals =>
      let t := (Trie.ofLiterals backward literals).extent
      (e.add (t.states + 1) t.listed).map fun e => (e, false)
    | none => (extendByBranches backward 0 fs e).map fun e => (e, false)

/-- What forms in a row add, the first one first. -/
def extendForward : List Form → Bool → Extent → Option (Extent × Bool)
  | [], atFork, e => some (e, atFork)
  | f :: fs, atFork, e =>
    match extend false f e with
    | none => none
    | some (e, leavesFork) =>
      (e.add 0 (Extent.linkBytes atFork)).bind (extendForward fs leavesFork)

/-- What forms in a row add, the last one first. -/
def extendBackward : List Form → Extent → Option (Extent × Option Bool)
  | [], e => some (e, none)
  | f :: fs, e =>
    match extendBackward fs e with
    | none => none
    | some (e, atFork) =>
      match extend true f e with
      | none => none
      | some (e, leavesFork) =>
        (e.add 0 (Extent.linkBytes (atFork.getD false))).map fun e => (e, some leavesFork)

/-- What the branches of a choice add. The fork in front of them and the state
    behind them come after the second branch. -/
def extendByBranches (backward : Bool) : Nat → List Form → Extent → Option Extent
  | _, [], e => some e
  | n, f :: fs, e =>
    match extend backward f e with
    | none => none
    | some (e, atFork) =>
      (e.add (if n = 1 then 2 else 0) (Extent.forkBytes + Extent.linkBytes atFork)).bind
        (extendByBranches backward (n + 1) fs)

end

/-- A machine before the first part of an expression. Where a match may start
    at any byte, three states take the bytes in front of it. -/
def beginning (anchored : Bool) : Extent :=
  if anchored then ⟨1, 0⟩ else ⟨3, Extent.switchBytes + 2 * Extent.forkBytes⟩

/-- Whether the machine that reads forward is small enough. The whole match is
    captured, and one state stands for it. -/
def fitsForward (f : Form) : Bool :=
  let whole := extend false (.group f) (beginning f.startsText)
  (whole.bind fun r => r.1.add 1 0).isSome

/-- Whether the machine that reads backward is small enough. -/
def fitsBackward (f : Form) : Bool :=
  let whole := extend true f (beginning f.endsText)
  (whole.bind fun r => r.1.add 1 (Extent.linkBytes r.2)).isSome

/-- Whether both machines of a form are small enough. -/
def fits (f : Form) : Bool :=
  f.fitsForward && f.fitsBackward

end Form

end Regex

end IrcHarness
