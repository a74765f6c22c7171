import IrcHarness.Proofs.Pattern.Semantics

/-!
# Weaker Patterns

A pattern is made to ask for less by changes in it. Some part of it becomes the
wildcard, a closed collection is opened, an open one loses a required key or its last
items, or fewer others have to follow. A change may be made anywhere in the pattern,
under keys, among items and in what follows them (`Weakens`), and any number of
changes may be made one after the other.

None of them loses a match, absence included (`satisfied_of_weakens`). A required key
or an item can only be taken out of an open collection, since in a closed one it is
what allows the key or the length. The proof is by induction on where the change is
made: the value has the same parts as before, and the part that is for the changed
pattern satisfies it.

## Main definitions

* `Pattern.Weakens`: One change that makes a pattern ask for less.

## Theorems

* `satisfied_of_weakens`: One change loses no match.
* `check_eq_none_of_weakened`: Any number of changes lose none.
-/

namespace IrcHarness

namespace Pattern

/-- One change that makes a pattern ask for less. -/
inductive Weakens : Pattern → Pattern → Prop where
  /-- The pattern becomes the wildcard. -/
  | wildcard (p : Pattern) : Weakens p .wildcard
  /-- A closed map is opened. -/
  | openMap (required : List (String × Pattern)) :
      Weakens (.map required false) (.map required true)
  /-- A closed list is opened. -/
  | openList (items : List Pattern) : Weakens (.list items false) (.list items true)
  /-- An open map no longer requires one of its keys. -/
  | dropKey (required : List (String × Pattern)) (i : Nat) :
      Weakens (.map required true) (.map (required.eraseIdx i) true)
  /-- An open list loses its last items. -/
  | dropItems (items : List Pattern) (n : Nat) :
      Weakens (.list items true) (.list (items.take n) true)
  /-- Fewer items have to follow. -/
  | lowerLeast {least less : Nat} (items : List Pattern) (remainder : Pattern) (h : less ≤ least) :
      Weakens (.listRemainder items remainder least) (.listRemainder items remainder less)
  /-- A change under a required key. -/
  | key {required : List (String × Pattern)} {i : Nat} {k : String} {p q : Pattern}
      (isOpen : Bool) (hi : required[i]? = some (k, p)) (h : Weakens p q) :
      Weakens (.map required isOpen) (.map (required.set i (k, q)) isOpen)
  /-- A change in an item. -/
  | item {items : List Pattern} {i : Nat} {p q : Pattern} (isOpen : Bool)
      (hi : items[i]? = some p) (h : Weakens p q) :
      Weakens (.list items isOpen) (.list (items.set i q) isOpen)
  /-- A change in an item in front of others. -/
  | front {items : List Pattern} {i : Nat} {p q : Pattern} (remainder : Pattern) (least : Nat)
      (hi : items[i]? = some p) (h : Weakens p q) :
      Weakens (.listRemainder items remainder least)
        (.listRemainder (items.set i q) remainder least)
  /-- A change in what follows the items. -/
  | remainder {p q : Pattern} (items : List Pattern) (least : Nat) (h : Weakens p q) :
      Weakens (.listRemainder items p least) (.listRemainder items q least)

variable {p q : Pattern} {value : Option Json}

/-- What has each item of a list has each item of the list with a weaker one in some
    place. -/
theorem items_set {items : List Pattern} {i : Nat} {elems : List Json}
    (hi : items[i]? = some p) (h : ∀ value, Satisfies value p → Satisfies value q)
    (hitems : ∀ (j : Nat) r, items[j]? = some r → Satisfies elems[j]? r) (j : Nat) (r : Pattern)
    (hj : (items.set i q)[j]? = some r) : Satisfies elems[j]? r := by
  rw [List.getElem?_set] at hj
  split at hj
  · next hij =>
      split at hj
      · cases hj
        exact hij ▸ h _ (hitems i p hi)
      · cases hj
  · exact hitems j r hj

/-- A change under a key leaves the keys. -/
theorem exists_key_set {required : List (String × Pattern)} {i : Nat} {k : String}
    (hi : required[i]? = some (k, p)) {key : String} (h : ∃ r, (key, r) ∈ required) :
    ∃ r, (key, r) ∈ required.set i (k, q) := by
  rcases h with ⟨r, hr⟩
  rcases List.mem_iff_getElem?.1 hr with ⟨j, hj⟩
  by_cases hij : i = j
  · rw [← hij, hi, Option.some.injEq, Prod.mk.injEq] at hj
    rw [← hj.1]
    exact ⟨q, List.mem_set (List.getElem?_eq_some_iff.1 hi).1 (k, q)⟩
  · rw [← List.getElem?_set_ne hij] at hj
    exact ⟨r, List.mem_of_getElem? hj⟩

/-- An open map that requires no other keys has what another map has. -/
theorem satisfies_map_open {required fewer : List (String × Pattern)} {isOpen : Bool}
    (hle : fewer ⊆ required) (hsat : Satisfies value (.map required isOpen)) :
    Satisfies value (.map fewer true) := by
  rw [satisfies_map_iff] at hsat ⊢
  rcases hsat with ⟨fields, hvalue, hfields, -⟩
  exact ⟨fields, hvalue, fun e he => hfields e (hle he), fun hopen => Bool.noConfusion hopen⟩

/-- An open list that has no other items has what another list has. -/
theorem satisfies_list_open {items fewer : List Pattern} {isOpen : Bool} (hle : fewer <+: items)
    (hsat : Satisfies value (.list items isOpen)) : Satisfies value (.list fewer true) := by
  rw [satisfies_list_iff] at hsat ⊢
  rcases hsat with ⟨elems, hvalue, hitems, -⟩
  refine ⟨elems, hvalue, fun i r hr => hitems i r ?_, fun hopen => Bool.noConfusion hopen⟩
  rcases hle with ⟨rest, rfl⟩
  rw [List.getElem?_append_left (List.getElem?_eq_some_iff.1 hr).1, hr]

/-- One change loses no match. -/
theorem satisfied_of_weakens (h : Weakens p q) (hsat : Satisfies value p) : Satisfies value q := by
  induction h generalizing value with
  | wildcard p => exact semantics_satisfies.wildcard value
  | openMap required => exact satisfies_map_open (List.Subset.refl required) hsat
  | openList items => exact satisfies_list_open List.prefix_rfl hsat
  | dropKey required i => exact satisfies_map_open List.eraseIdx_subset hsat
  | dropItems items n => exact satisfies_list_open (List.take_prefix n items) hsat
  | lowerLeast items remainder h =>
      rw [satisfies_listRemainder_iff] at hsat ⊢
      rcases hsat with ⟨elems, hvalue, hitems, hbehind, hleast⟩
      exact ⟨elems, hvalue, hitems, hbehind, h.trans hleast⟩
  | key isOpen hi h ih =>
      rw [satisfies_map_iff] at hsat ⊢
      rcases hsat with ⟨fields, hvalue, hfields, hclosed⟩
      refine ⟨fields, hvalue, fun e he => ?_, fun hopen f hf => ?_⟩
      · rcases List.mem_or_eq_of_mem_set he with he | rfl
        · exact hfields e he
        · exact ih (hfields _ (List.mem_of_getElem? hi))
      · exact exists_key_set hi (hclosed hopen f hf)
  | item isOpen hi h ih =>
      rw [satisfies_list_iff] at hsat ⊢
      rcases hsat with ⟨elems, hvalue, hitems, hclosed⟩
      refine ⟨elems, hvalue, items_set hi (fun _ => ih) hitems, fun hopen => ?_⟩
      rw [List.length_set]
      exact hclosed hopen
  | front remainder least hi h ih =>
      rw [satisfies_listRemainder_iff] at hsat ⊢
      rw [List.length_set]
      rcases hsat with ⟨elems, hvalue, hitems, hbehind, hleast⟩
      exact ⟨elems, hvalue, items_set hi (fun _ => ih) hitems, hbehind, hleast⟩
  | remainder items least h ih =>
      rw [satisfies_listRemainder_iff] at hsat ⊢
      rcases hsat with ⟨elems, hvalue, hitems, hbehind, hleast⟩
      exact ⟨elems, hvalue, hitems, fun e he => ih (hbehind e he), hleast⟩

/-- However many changes make a pattern ask for less, and wherever they are made, the
    walk accepts every value, and the absence of one, that it accepted before. -/
theorem check_eq_none_of_weakened (h : Relation.ReflTransGen Weakens p q)
    (address address' : Address) (hcheck : check address value p = none) :
    check address' value q = none := by
  rw [semantics_satisfies.check_iff] at hcheck ⊢
  induction h with
  | refl => exact hcheck
  | tail _ hstep ih => exact satisfied_of_weakens hstep ih

/-- A closed map is opened and loses a key. The list under its other key is opened and
    loses its last item, asks for nothing in its first place, and for fewer items in the
    list that is its second item. -/
theorem check_eq_none_of_weakened_nested : ∃ v p q,
    v = Json.object [("a", .array [.string "x", .array [.string "y", .string "z", .string "z"],
      .null]), ("b", .null)] ∧
    p = map [("a", .list [text "x", .listRemainder [text "y"] (text "z") 2, .literal .null] false),
      ("b", .wildcard)] false ∧
    q = map [("a", .list [.wildcard, .listRemainder [text "y"] (text "z") 1] true)] true ∧
    check [] (some v) p = none ∧ check [] (some v) q = none := by
  have hcheck : check [] (some (.object [("a", .array [.string "x", .array [.string "y",
        .string "z", .string "z"], .null]), ("b", .null)]))
      (.map [("a", .list [text "x", .listRemainder [text "y"] (text "z") 2, .literal .null] false),
        ("b", .wildcard)] false) = none := by rfl
  refine ⟨_, _, _, rfl, rfl, rfl, hcheck, check_eq_none_of_weakened ?_ [] [] hcheck⟩
  exact .head (.openMap _) <| .head (.dropKey _ 1) <|
    .head (.key (i := 0) true rfl (.openList _)) <|
    .head (.key (i := 0) true rfl (.dropItems _ 2)) <|
    .head (.key (i := 0) true rfl (.item (i := 0) true rfl (.wildcard _))) <|
    .single (.key (i := 0) true rfl (.item (i := 1) true rfl (.lowerLeast _ _ (Nat.le_succ 1))))

end Pattern

end IrcHarness
