import IrcHarness.Proofs.Pattern.Walk

/-!
# What the Walk Accepts

The walk finds nothing exactly when the value satisfies the pattern. What that
means is said without an order of visiting and without a place: there is one
condition for each kind of pattern, and for a collection it is a condition on
its parts, each of which may be absent (`Semantics`). A relation that meets
these conditions is the only one, since the parts of a pattern are smaller than
the pattern.

Absence goes through all of this. Only the wildcard accepts it, so a list that
is shorter than the items asked for can satisfy a pattern only if every item
that it lacks is a wildcard.

## Main definitions

* `Pattern.Semantics`: The conditions, one for each kind of pattern.

## Theorems

* `satisfies_closedList_iff`: A closed list relates items one by one.
* `satisfies_closedMap_iff`: A closed map asks for its keys and no others.
* `semantics_satisfies`: `Satisfies` meets the conditions.
* `Semantics.iff_parts`: The conditions ask for two tests and for the parts.
* `Semantics.check_iff`: The walk decides whatever meets the conditions.
* `check_decides_satisfies`: The walk decides `Satisfies`.
-/

namespace IrcHarness

namespace Pattern

/-- The conditions that say which values, or the absence of one, satisfy a
    pattern, one for each kind of pattern. -/
structure Semantics (S : Option Json → Pattern → Prop) : Prop where
  /-- Everything satisfies the wildcard, and so does absence. -/
  wildcard : ∀ value, S value .wildcard
  /-- Absence satisfies nothing else. -/
  absent : ∀ p, S none p → p = .wildcard
  /-- A literal is satisfied by the values equal to it. -/
  literal : ∀ w v, S (some w) (.literal v) ↔ Json.same w v = true
  /-- An expression is satisfied by the texts that it matches. -/
  regex : ∀ w r, S (some w) (.regex r) ↔ ∃ s, w = .string s ∧ r.matches s = true
  /-- The texts that an expression does not match. -/
  notRegex : ∀ w r, S (some w) (.notRegex r) ↔ ∃ s, w = .string s ∧ r.matches s = false
  /-- A map is satisfied by the objects that have at each required key, or lack
      there, what satisfies the pattern for it. A closed one allows no other
      key. -/
  map : ∀ w required isOpen, S (some w) (.map required isOpen) ↔
    ∃ fields, w = .object fields ∧ (∀ e ∈ required, S (Fields.find? e.1 fields) e.2) ∧
      (isOpen = false → ∀ f ∈ fields, ∃ q, (f.1, q) ∈ required)
  /-- A list is satisfied by the lists that have at each position, or lack there,
      what satisfies the item. A closed one asks for the same length. -/
  list : ∀ w items isOpen, S (some w) (.list items isOpen) ↔
    ∃ elems, w = .array elems ∧ (∀ (i : Nat) q, items[i]? = some q → S elems[i]? q) ∧
      (isOpen = false → elems.length = items.length)
  /-- A list with a remainder is satisfied by the lists that satisfy its items
      and have enough other items behind them, each of which satisfies the
      remainder. -/
  listRemainder : ∀ w items remainder least, S (some w) (.listRemainder items remainder least) ↔
    ∃ elems, w = .array elems ∧ (∀ (i : Nat) q, items[i]? = some q → S elems[i]? q) ∧
      (∀ e ∈ elems.drop items.length, S (some e) remainder) ∧
      least ≤ (elems.drop items.length).length

theorem satisfiesFields_iff (fields : List (String × Json)) (required : List (String × Pattern)) :
    SatisfiesFields fields required ↔
      ∀ e ∈ required, Satisfies (Fields.find? e.1 fields) e.2 := by
  induction required with
  | nil => exact iff_of_true trivial fun e h => absurd h List.not_mem_nil
  | cons e rest ih => rw [SatisfiesFields, List.forall_mem_cons, ih]

/-- The items of a list are satisfied position by position. -/
theorem satisfiesItems_iff (elems : List Json) (items : List Pattern) :
    SatisfiesItems elems items ↔ ∀ (i : Nat) q, items[i]? = some q → Satisfies elems[i]? q := by
  induction items generalizing elems with
  | nil => exact iff_of_true trivial fun i q h => absurd h.symm (Option.some_ne_none q)
  | cons p rest ih =>
      rw [SatisfiesItems, ih, List.head?_eq_getElem?]
      constructor
      · rintro ⟨hfirst, hrest⟩ i q hq
        cases i with
        | zero =>
            rw [List.getElem?_cons_zero, Option.some.injEq] at hq
            exact hq ▸ hfirst
        | succ i =>
            have hnext := hrest i q hq
            rwa [List.getElem?_tail] at hnext
      · intro h
        refine ⟨h 0 p rfl, fun i q hq => ?_⟩
        rw [List.getElem?_tail]
        exact h (i + 1) q hq

theorem eq_wildcard_of_satisfies_none {p : Pattern} (h : Satisfies none p) : p = .wildcard := by
  -- Every other pattern asks for a value to be there.
  cases p with
  | wildcard => rfl
  | literal v => rcases h with ⟨w, hw, _⟩; cases hw
  | regex r => rcases h with ⟨s, hs, _⟩; cases hs
  | notRegex r => rcases h with ⟨s, hs, _⟩; cases hs
  | map required isOpen => rcases h with ⟨fields, hf, _⟩; cases hf
  | list items isOpen => rcases h with ⟨elems, he, _⟩; cases he
  | listRemainder items remainder least => rcases h with ⟨elems, he, _⟩; cases he

section Collections

variable (value : Option Json)

theorem satisfies_map_iff (required : List (String × Pattern)) (isOpen : Bool) :
    Satisfies value (.map required isOpen) ↔
      ∃ fields, value = some (.object fields) ∧
        (∀ e ∈ required, Satisfies (Fields.find? e.1 fields) e.2) ∧
        (isOpen = false → ∀ f ∈ fields, ∃ q, (f.1, q) ∈ required) := by
  rw [Satisfies]
  simp only [satisfiesFields_iff, Fields.hasKey_iff]

theorem satisfies_list_iff (items : List Pattern) (isOpen : Bool) :
    Satisfies value (.list items isOpen) ↔
      ∃ elems, value = some (.array elems) ∧
        (∀ (i : Nat) q, items[i]? = some q → Satisfies elems[i]? q) ∧
        (isOpen = false → elems.length = items.length) := by
  rw [Satisfies]
  simp only [satisfiesItems_iff]

theorem satisfies_listRemainder_iff (items : List Pattern) (remainder : Pattern) (least : Nat) :
    Satisfies value (.listRemainder items remainder least) ↔
      ∃ elems, value = some (.array elems) ∧
        (∀ (i : Nat) q, items[i]? = some q → Satisfies elems[i]? q) ∧
        (∀ e ∈ elems.drop items.length, Satisfies (some e) remainder) ∧
        least ≤ (elems.drop items.length).length := by
  rw [Satisfies]
  simp only [satisfiesItems_iff, List.length_drop]

/-- A closed list is satisfied item by item, by a list of its length. -/
theorem satisfies_closedList_iff (items : List Pattern) :
    Satisfies value (closedList items) ↔
      ∃ elems, value = some (.array elems) ∧
        List.Forall₂ (fun x p => Satisfies (some x) p) elems items := by
  rw [closedList, satisfies_list_iff]
  refine exists_congr fun elems => and_congr_right fun _ => ?_
  rw [List.forall₂_iff_get]
  constructor
  · rintro ⟨hitems, hclosed⟩
    refine ⟨hclosed rfl, fun i h h' => ?_⟩
    have hitem := hitems i (items.get ⟨i, h'⟩) (List.getElem?_eq_getElem h')
    rwa [List.getElem?_eq_getElem h] at hitem
  · rintro ⟨hlength, hitems⟩
    refine ⟨fun i p hp => ?_, fun _ => hlength⟩
    rcases List.getElem?_eq_some_iff.1 hp with ⟨hi, rfl⟩
    rw [List.getElem?_eq_getElem (hlength ▸ hi)]
    exact hitems i (hlength ▸ hi) hi

/-- A closed map is satisfied by the objects that have what it asks for, entry by entry,
    and no other key. -/
theorem satisfies_closedMap_iff {entries : List (String × Pattern)}
    (hd : (entries.map Prod.fst).Nodup) :
    Satisfies value (closedMap entries) ↔
      ∃ fields, value = some (.object fields) ∧
        (∀ e ∈ entries, Satisfies (Fields.find? e.1 fields) e.2) ∧
        ∀ f ∈ fields, ∃ q, (f.1, q) ∈ entries := by
  rw [closedMap, satisfies_map_iff]
  simp only [(Fields.ofList_perm hd).mem_iff, true_implies]

end Collections

/-- `Satisfies` meets the conditions. -/
theorem semantics_satisfies : Semantics Satisfies where
  wildcard value := trivial
  absent p h := eq_wildcard_of_satisfies_none h
  literal w v := by
    rw [Satisfies]
    exact ⟨fun ⟨u, hu, hsame⟩ => Option.some.inj hu ▸ hsame, fun hsame => ⟨w, rfl, hsame⟩⟩
  regex w r := by
    rw [Satisfies]
    simp only [Option.some.injEq]
  notRegex w r := by
    rw [Satisfies]
    simp only [Option.some.injEq]
  map w required isOpen := by
    rw [satisfies_map_iff]
    simp only [Option.some.injEq]
  list w items isOpen := by
    rw [satisfies_list_iff]
    simp only [Option.some.injEq]
  listRemainder w items remainder least := by
    rw [satisfies_listRemainder_iff]
    simp only [Option.some.injEq]

variable {S : Option Json → Pattern → Prop}

/-- The conditions ask of a value to pass the test in front of its parts and the
    test behind them, and of its parts to satisfy what they are for. -/
theorem Semantics.iff_parts (hS : Semantics S) (value : Option Json) (p : Pattern) :
    S value p ↔
      Fits value p ∧ (∀ s w q, Part value p s w q → S w q) ∧ Complete value p := by
  cases value with
  | none =>
      refine ⟨fun h => ?_, fun h => ?_⟩
      · rw [hS.absent p h]
        exact ⟨.wildcard none, fun s w q hpart => (nomatch hpart), trivial⟩
      · cases h.1 with
        | wildcard => exact hS.wildcard none
  | some w =>
      cases p with
      | wildcard =>
          exact iff_of_true (hS.wildcard _)
            ⟨.wildcard _, fun s w q hpart => (nomatch hpart), trivial⟩
      | literal v =>
          rw [hS.literal]
          constructor
          · intro h
            exact ⟨.literal h, fun s w q hpart => (nomatch hpart), trivial⟩
          · rintro ⟨hfits, -⟩
            cases hfits with
            | literal h => exact h
      | regex r =>
          rw [hS.regex]
          constructor
          · rintro ⟨s, rfl, h⟩
            exact ⟨.regex h, fun s w q hpart => (nomatch hpart), trivial⟩
          · rintro ⟨hfits, -⟩
            cases hfits with
            | regex h => exact ⟨_, rfl, h⟩
      | notRegex r =>
          rw [hS.notRegex]
          constructor
          · rintro ⟨s, rfl, h⟩
            exact ⟨.notRegex h, fun s w q hpart => (nomatch hpart), trivial⟩
          · rintro ⟨hfits, -⟩
            cases hfits with
            | notRegex h => exact ⟨_, rfl, h⟩
      | map required isOpen =>
          rw [hS.map]
          constructor
          · rintro ⟨fields, rfl, hfields, hclosed⟩
            refine ⟨.map .., fun s w q hpart => ?_, fun _ he hopen f hf => ?_⟩
            · cases hpart with
              | key h => exact hfields _ h
            · cases he
              exact (Fields.hasKey_iff ..).2 (hclosed hopen f hf)
          · rintro ⟨hfits, hparts, hcomplete⟩
            cases hfits with
            | map fields required isOpen =>
                refine ⟨fields, rfl, fun e he => hparts _ _ _ (.key he), fun hopen f hf => ?_⟩
                exact (Fields.hasKey_iff ..).1 (hcomplete _ rfl hopen f hf)
      | list items isOpen =>
          rw [hS.list]
          constructor
          · rintro ⟨elems, rfl, hitems, hclosed⟩
            refine ⟨.list .., fun s w q hpart => ?_, fun _ he hopen => ?_⟩
            · cases hpart with
              | item h => exact hitems _ _ h
            · cases he
              exact hclosed hopen
          · rintro ⟨hfits, hparts, hcomplete⟩
            cases hfits with
            | list elems items isOpen =>
                exact ⟨elems, rfl, fun i q hq => hparts _ _ _ (.item hq), hcomplete _ rfl⟩
      | listRemainder items remainder least =>
          rw [hS.listRemainder]
          constructor
          · rintro ⟨elems, rfl, hitems, hbehind, hleast⟩
            rw [List.length_drop] at hleast
            refine ⟨.listRemainder .., fun s w q hpart => ?_, fun _ he => ?_⟩
            · cases hpart with
              | front h => exact hitems _ _ h
              | @behind _ _ _ _ i e hi he =>
                  -- The item stands among those that are left.
                  refine hbehind e (List.mem_of_getElem? (i := i - items.length) ?_)
                  rw [List.getElem?_drop, Nat.add_sub_of_le hi, he]
            · cases he
              exact hleast
          · rintro ⟨hfits, hparts, hcomplete⟩
            cases hfits with
            | listRemainder elems items remainder least =>
                refine ⟨elems, rfl, fun i q hq => hparts _ _ _ (.front hq), fun e he => ?_, ?_⟩
                · rcases List.mem_iff_getElem?.1 he with ⟨i, hi⟩
                  rw [List.getElem?_drop] at hi
                  exact hparts _ _ _ (.behind (Nat.le_add_right _ _) hi)
                · rw [List.length_drop]
                  exact hcomplete _ rfl

/-- The walk decides whatever meets the conditions, wherever it starts. -/
theorem Semantics.check_iff (hS : Semantics S) (address : Address) (value : Option Json)
    (p : Pattern) : check address value p = none ↔ S value p := by
  induction p using induction_on_parts generalizing address value with
  | h p ih =>
      rw [check_eq_none_iff_parts, hS.iff_parts]
      refine and_congr_right fun _ => and_congr_left fun _ => ?_
      exact forall_congr' fun s => forall_congr' fun w => forall_congr' fun q =>
        forall_congr' fun hpart => ih value s w q hpart (address ++ [s]) w

theorem accepts_iff (p : Pattern) (v : Json) : p.accepts v = true ↔ Satisfies (some v) p := by
  rw [accepts, Option.isNone_iff_eq_none, semantics_satisfies.check_iff]

/-- The walk finds nothing exactly when the value, or its absence, satisfies the
    pattern, where satisfying is the relation that the conditions describe. A
    list that is too short for the items in front satisfies a pattern with a
    remainder only if wildcards are all that it lacks, and nothing has to be
    left. -/
theorem check_decides_satisfies (address : Address) (value : Option Json) (p : Pattern) :
    Semantics Satisfies ∧ (check address value p = none ↔ Satisfies value p) ∧
      ∀ elems items remainder least, value = some (.array elems) →
        p = .listRemainder items remainder least → elems.length < items.length →
        Satisfies value p →
        (∀ i q, elems.length ≤ i → items[i]? = some q → q = .wildcard) ∧ least = 0 := by
  refine ⟨semantics_satisfies, semantics_satisfies.check_iff address value p, ?_⟩
  rintro elems items remainder least rfl rfl hshort hsat
  rcases (semantics_satisfies.listRemainder _ items remainder least).1 hsat with
    ⟨elems', he, hitems, _, hleast⟩
  cases he
  constructor
  · intro i q hi hq
    have habsent := hitems i q hq
    rw [List.getElem?_eq_none hi] at habsent
    exact eq_wildcard_of_satisfies_none habsent
  · rw [List.length_drop] at hleast
    omega

end Pattern

end IrcHarness
