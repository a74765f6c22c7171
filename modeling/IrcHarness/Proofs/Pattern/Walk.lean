import IrcHarness.Pattern.Check
import IrcHarness.Proofs.Json.Fields

/-!
# One Step of the Walk

The walk that compares a value with a pattern does the same at every place. It
first tests the value as a whole: whether it is there, of the right kind, and
equal to a literal or matched by an expression. Then it goes down into the
parts, one after the other, and last it tests the collection as a whole, for
keys that are not allowed, its length, or the least number of items left.

All of this is said once, in `Walks`, with the parts that a value and a pattern
have in common as a relation. What the walk accepts and where it stops is read
off it by an induction over the pattern (`induction_on_parts`), and the three
loops of the walk are not opened again.

Keys are visited in the order in which the pattern lists them. It is the
ascending one, as long as the pattern was built from entries
(`ordered_map`).

## Main definitions

* `Pattern.Part`: A part of a value and the part of the pattern it is for.
* `Pattern.Fits`, `Pattern.Complete`: The tests of a value as a whole.
* `Pattern.Fault`: A test of a value as a whole that fails.
* `Pattern.Walks`: What the walk does at one place.
* `Pattern.Ordered`: A pattern whose keys ascend.

## Theorems

* `walks_check`: The walk does one of the things that `Walks` lists.
* `check_eq_none_iff_parts`: The walk accepts what passes both tests and has
  parts that it accepts.
* `induction_on_parts`: What holds of a pattern if it holds of its parts.
* `ordered_map`: Entries in any order make an ordered pattern.
-/

namespace IrcHarness

/-- The first element of a list that gives something, by its position. -/
theorem findSome?_zipIdx_cases {α β : Type} (f : α × Nat → Option β) (l : List α) :
    (l.zipIdx.findSome? f = none ∧ ∀ i a, l[i]? = some a → f (a, i) = none) ∨
      ∃ i a b, l[i]? = some a ∧ f (a, i) = some b ∧ l.zipIdx.findSome? f = some b ∧
        ∀ j < i, ∀ c, l[j]? = some c → f (c, j) = none := by
  cases h : l.zipIdx.findSome? f with
  | none =>
      refine .inl ⟨rfl, fun i a ha => ?_⟩
      exact List.findSome?_eq_none_iff.1 h (a, i) (List.mk_mem_zipIdx_iff_getElem?.2 ha)
  | some b =>
      rcases List.findSome?_eq_some_iff.1 h with ⟨front, e, back, hsplit, he, hfront⟩
      -- An element stands at the position that it is paired with.
      have hat : ∀ k : Nat, (front ++ e :: back)[k]? = (l[k]?).map fun a => (a, k) := by
        intro k
        rw [← hsplit, List.getElem?_zipIdx, Nat.zero_add]
      have hmid := hat front.length
      rw [List.getElem?_append_right (Nat.le_refl _), Nat.sub_self, List.getElem?_cons_zero] at hmid
      rcases Option.map_eq_some_iff.1 hmid.symm with ⟨a, ha, rfl⟩
      refine .inr ⟨front.length, a, b, ha, he, rfl, fun j hj c hc => ?_⟩
      have hpair := hat j
      rw [List.getElem?_append_left hj, hc, Option.map_some] at hpair
      exact hfront (c, j) (List.mem_of_getElem? hpair)

/-- A step is visited before another one from the same place. -/
def Step.Before : Step → Step → Prop
  | .key k, .key l => k < l
  | .index i, .index j => i < j
  | _, _ => False

namespace Pattern

/-- A part of a value, or its absence, and the part of the pattern that the walk
    compares it with. -/
inductive Part : Option Json → Pattern → Step → Option Json → Pattern → Prop where
  /-- What an object has under a required key. -/
  | key {fields : List (String × Json)} {required : List (String × Pattern)} {isOpen : Bool}
      {k : String} {q : Pattern} (h : (k, q) ∈ required) :
      Part (some (.object fields)) (.map required isOpen) (.key k) (Fields.find? k fields) q
  /-- What a list has in the place of an item. -/
  | item {elems : List Json} {items : List Pattern} {isOpen : Bool} {i : Nat} {q : Pattern}
      (h : items[i]? = some q) :
      Part (some (.array elems)) (.list items isOpen) (.index i) elems[i]? q
  /-- What a list has in the place of an item in front. -/
  | front {elems : List Json} {items : List Pattern} {remainder : Pattern} {least i : Nat}
      {q : Pattern} (h : items[i]? = some q) :
      Part (some (.array elems)) (.listRemainder items remainder least) (.index i) elems[i]? q
  /-- An item behind those in front. -/
  | behind {elems : List Json} {items : List Pattern} {remainder : Pattern} {least i : Nat}
      {e : Json} (hi : items.length ≤ i) (he : elems[i]? = some e) :
      Part (some (.array elems)) (.listRemainder items remainder least) (.index i) (some e)
        remainder

/-- A value passes the test in front of its parts: it is there and of the right
    kind, and equal or matched if it has no parts. -/
inductive Fits : Option Json → Pattern → Prop where
  /-- The wildcard asks for nothing. -/
  | wildcard (value : Option Json) : Fits value .wildcard
  /-- A value that is equal. -/
  | literal {v w : Json} (h : Json.same w v = true) : Fits (some w) (.literal v)
  /-- A text that is matched. -/
  | regex {r : FullRegex} {s : String} (h : r.matches s = true) : Fits (some (.string s)) (.regex r)
  /-- A text that is not matched. -/
  | notRegex {r : FullRegex} {s : String} (h : r.matches s = false) :
      Fits (some (.string s)) (.notRegex r)
  /-- An object. -/
  | map (fields : List (String × Json)) (required : List (String × Pattern)) (isOpen : Bool) :
      Fits (some (.object fields)) (.map required isOpen)
  /-- A list. -/
  | list (elems : List Json) (items : List Pattern) (isOpen : Bool) :
      Fits (some (.array elems)) (.list items isOpen)
  /-- A list. -/
  | listRemainder (elems : List Json) (items : List Pattern) (remainder : Pattern) (least : Nat) :
      Fits (some (.array elems)) (.listRemainder items remainder least)

/-- A value passes the test behind its parts: nothing is there that a closed
    collection does not allow, and enough items are left. -/
def Complete (value : Option Json) : Pattern → Prop
  | .map required isOpen => ∀ fields, value = some (.object fields) → isOpen = false →
    ∀ f ∈ fields, Fields.hasKey f.1 required = true
  | .list items isOpen => ∀ elems, value = some (.array elems) → isOpen = false →
    elems.length = items.length
  | .listRemainder items _ least => ∀ elems, value = some (.array elems) →
    least ≤ elems.length - items.length
  | .literal _ | .wildcard | .regex _ | .notRegex _ => True

/-- When a test is made: in front of the parts of a value or behind them. -/
inductive Stage where
  /-- In front of the parts. -/
  | opening
  /-- Behind the parts. -/
  | closing
deriving DecidableEq, Repr

/-- A test of a value as a whole that fails, and what is reported of it. -/
inductive Fault (address : Address) : Option Json → Pattern → Stage → Mismatch → Prop where
  /-- The value is missing, of another kind, different or not matched. -/
  | kind {value : Option Json} {p : Pattern} (h : ¬Fits value p) :
      Fault address value p .opening ⟨address, write p, value⟩
  /-- A key is not allowed, and it is the first one. -/
  | extra {fields front back : List (String × Json)} {required : List (String × Pattern)}
      {f : String × Json} (hfields : fields = front ++ f :: back)
      (hfront : ∀ g ∈ front, Fields.hasKey g.1 required = true)
      (hf : Fields.hasKey f.1 required = false) :
      Fault address (some (.object fields)) (.map required false) .closing
        ⟨address ++ [.key f.1], "<absent>", Fields.find? f.1 fields⟩
  /-- The length is wrong. -/
  | length {elems : List Json} {items : List Pattern} (h : elems.length ≠ items.length) :
      Fault address (some (.array elems)) (.list items false) .closing
        ⟨address, String.ofList (Digit.decimal items.length) ++ " items " ++
          write (.list items false), some (.array elems)⟩
  /-- Too few items are left. -/
  | minimum {elems : List Json} {items : List Pattern} {remainder : Pattern} {least : Nat}
      (h : elems.length - items.length < least) :
      Fault address (some (.array elems)) (.listRemainder items remainder least) .closing
        ⟨address, write (.listRemainder items remainder least), some (.array elems)⟩

/-- The keys of a map ascend. -/
def KeysAscend : Pattern → Prop
  | .map required _ => required.Pairwise fun e f => e.1 < f.1
  | _ => True

/-- What the walk does at one place. -/
inductive Walks (address : Address) (value : Option Json) (p : Pattern) :
    Option Mismatch → Prop where
  /-- Both tests are passed, and so are the parts. -/
  | accepts (hfits : Fits value p)
      (hparts : ∀ s w q, Part value p s w q → check (address ++ [s]) w q = none)
      (hcomplete : Complete value p) : Walks address value p none
  /-- The test in front fails. -/
  | opening {m : Mismatch} (h : Fault address value p .opening m) : Walks address value p (some m)
  /-- A part fails, and those visited before it do not. -/
  | part {s : Step} {w : Option Json} {q : Pattern} {m : Mismatch} (hpart : Part value p s w q)
      (h : check (address ++ [s]) w q = some m)
      (hbefore : p.KeysAscend → ∀ s' w' q', Part value p s' w' q' → s'.Before s →
        check (address ++ [s']) w' q' = none) : Walks address value p (some m)
  /-- The parts are passed, and the test behind them fails. -/
  | closing {m : Mismatch}
      (hparts : ∀ s w q, Part value p s w q → check (address ++ [s]) w q = none)
      (h : Fault address value p .closing m) : Walks address value p (some m)

variable {address : Address} {value : Option Json}

/-- The keys are visited one after the other. -/
theorem checkFields_eq_findSome? (fields : List (String × Json))
    (required : List (String × Pattern)) :
    checkFields address fields required = required.findSome? fun e =>
      check (address ++ [Step.key e.1]) (Fields.find? e.1 fields) e.2 := by
  induction required with
  | nil => rfl
  | cons e rest ih =>
      rw [checkFields, List.findSome?_cons, ih]
      cases check (address ++ [Step.key e.1]) (Fields.find? e.1 fields) e.2 <;> rfl

/-- The items are visited one after the other. -/
theorem checkItems_eq_findSome? (i : Nat) (elems : List Json) (items : List Pattern) :
    checkItems address i elems items = items.zipIdx.findSome? fun e =>
      check (address ++ [Step.index (i + e.2)]) elems[e.2]? e.1 := by
  induction items generalizing i elems with
  | nil => rfl
  | cons p rest ih =>
      have hshift : rest.zipIdx 1 = rest.zipIdx.map fun e => (e.1, e.2 + 1) := by
        rw [List.zipIdx_succ]
      rw [checkItems, List.zipIdx_cons, List.findSome?_cons, ih, Nat.zero_add, hshift,
        List.findSome?_map, Nat.add_zero, List.head?_eq_getElem?]
      cases check (address ++ [Step.index i]) elems[0]? p with
      | some m => rfl
      | none =>
          refine congrArg (List.findSome? · rest.zipIdx) (funext fun e => ?_)
          simp only [Function.comp_apply, List.getElem?_tail, Nat.add_right_comm i 1 e.2,
            Nat.add_assoc i e.2 1]

/-- The fields of an object either pass, or one of them is the first to fail. -/
theorem checkFields_cases (address : Address) (fields : List (String × Json))
    (required : List (String × Pattern)) :
    (checkFields address fields required = none ∧
        ∀ e ∈ required, check (address ++ [Step.key e.1]) (Fields.find? e.1 fields) e.2 = none) ∨
      ∃ m front e back, checkFields address fields required = some m ∧
        required = front ++ e :: back ∧
        check (address ++ [Step.key e.1]) (Fields.find? e.1 fields) e.2 = some m ∧
        ∀ f ∈ front, check (address ++ [Step.key f.1]) (Fields.find? f.1 fields) f.2 = none := by
  rw [checkFields_eq_findSome?]
  cases h : required.findSome? fun e =>
      check (address ++ [Step.key e.1]) (Fields.find? e.1 fields) e.2 with
  | none => exact .inl ⟨rfl, List.findSome?_eq_none_iff.1 h⟩
  | some m =>
      rcases List.findSome?_eq_some_iff.1 h with ⟨front, e, back, hsplit, he, hfront⟩
      exact .inr ⟨m, front, e, back, rfl, hsplit, he, hfront⟩

/-- The items of a list either pass, or one of them is the first to fail. -/
theorem checkItems_cases (address : Address) (elems : List Json) (items : List Pattern) :
    (checkItems address 0 elems items = none ∧
        ∀ i q, items[i]? = some q → check (address ++ [Step.index i]) elems[i]? q = none) ∨
      ∃ i q m, items[i]? = some q ∧ check (address ++ [Step.index i]) elems[i]? q = some m ∧
        checkItems address 0 elems items = some m ∧
        ∀ j < i, ∀ c, items[j]? = some c →
          check (address ++ [Step.index j]) elems[j]? c = none := by
  rw [checkItems_eq_findSome?]
  simp only [Nat.zero_add]
  exact findSome?_zipIdx_cases
    (fun e => check (address ++ [Step.index e.2]) elems[e.2]? e.1) items

/-- What is behind the items in front either passes, or one item is the first to
    fail. -/
theorem checkBehind_cases (address : Address) (elems : List Json) (items : List Pattern)
    (remainder : Pattern) :
    (((elems.drop items.length).zipIdx.findSome? fun e =>
          check (address ++ [Step.index (items.length + e.2)]) (some e.1) remainder) = none ∧
        ∀ i e, items.length ≤ i → elems[i]? = some e →
          check (address ++ [Step.index i]) (some e) remainder = none) ∨
      ∃ i e m, items.length ≤ i ∧ elems[i]? = some e ∧
        check (address ++ [Step.index i]) (some e) remainder = some m ∧
        ((elems.drop items.length).zipIdx.findSome? fun e =>
          check (address ++ [Step.index (items.length + e.2)]) (some e.1) remainder) = some m ∧
        ∀ j < i, ∀ c, items.length ≤ j → elems[j]? = some c →
          check (address ++ [Step.index j]) (some c) remainder = none := by
  rcases findSome?_zipIdx_cases
      (fun e => check (address ++ [Step.index (items.length + e.2)]) (some e.1) remainder)
      (elems.drop items.length) with ⟨hnone, hall⟩ | ⟨i, e, m, he, hm, hsome, hbefore⟩
  · refine .inl ⟨hnone, fun i e hi he => ?_⟩
    have hpass := hall (i - items.length) e (by rw [List.getElem?_drop, Nat.add_sub_of_le hi, he])
    rw [Nat.add_sub_of_le hi] at hpass
    exact hpass
  · rw [List.getElem?_drop] at he
    refine .inr ⟨items.length + i, e, m, Nat.le_add_right _ _, he, hm, hsome, ?_⟩
    intro j hj c hle hc
    have hpass := hbefore (j - items.length) (by omega) c
      (by rw [List.getElem?_drop, Nat.add_sub_of_le hle, hc])
    rw [Nat.add_sub_of_le hle] at hpass
    exact hpass

/-- A value that does not fit is reported as a whole. -/
theorem check_of_not_fits {p : Pattern} (h : ¬Fits value p) :
    check address value p = some ⟨address, write p, value⟩ := by
  cases p with
  | literal v =>
      cases value with
      | none => rfl
      | some w =>
          by_cases hsame : Json.same w v = true
          · exact absurd (.literal hsame) h
          · rw [check, if_neg hsame]
  | wildcard => exact absurd (.wildcard value) h
  | regex r =>
      by_cases htext : ∃ s, value = some (.string s)
      · rcases htext with ⟨s, rfl⟩
        by_cases hmatch : r.matches s = true
        · exact absurd (.regex hmatch) h
        · rw [check, if_neg hmatch]
      · rw [check]
        exact fun s hs => htext ⟨s, hs⟩
  | notRegex r =>
      by_cases htext : ∃ s, value = some (.string s)
      · rcases htext with ⟨s, rfl⟩
        by_cases hmatch : r.matches s = true
        · rw [check, if_pos hmatch]
        · exact absurd (.notRegex (Bool.eq_false_iff.2 hmatch)) h
      · rw [check]
        exact fun s hs => htext ⟨s, hs⟩
  | map required isOpen =>
      rw [check]
      rintro fields rfl
      exact h (.map ..)
  | list items isOpen =>
      rw [check]
      rintro elems rfl
      exact h (.list ..)
  | listRemainder items remainder least =>
      rw [check]
      rintro elems rfl
      exact h (.listRemainder ..)

/-- The walk over an object. -/
theorem walks_map (fields : List (String × Json)) (required : List (String × Pattern))
    (isOpen : Bool) :
    Walks address (some (.object fields)) (.map required isOpen)
      (check address (some (.object fields)) (.map required isOpen)) := by
  rw [check]
  rcases checkFields_cases address fields required with
    ⟨hnone, hall⟩ | ⟨m, front, e, back, hsome, hsplit, he, hfront⟩
  · have hparts : ∀ s w q, Part (some (.object fields)) (.map required isOpen) s w q →
        check (address ++ [s]) w q = none := by
      intro s w q hpart
      cases hpart with
      | key h => exact hall _ h
    simp only [hnone]
    cases isOpen with
    | true => exact .accepts (.map ..) hparts fun _ _ h => Bool.noConfusion h
    | false =>
        rw [if_neg Bool.false_ne_true]
        cases hextra : fields.find? fun f => !Fields.hasKey f.1 required with
        | none =>
            refine .accepts (.map ..) hparts fun _ he _ f hf => ?_
            cases he
            have hkey := List.find?_eq_none.1 hextra f hf
            rwa [Bool.not_eq_true', Bool.not_eq_false] at hkey
        | some f =>
            rcases List.find?_eq_some_iff_append.1 hextra with ⟨hf, front, back, hfields, hfront⟩
            rw [Bool.not_eq_true'] at hf
            have hknown : ∀ g ∈ front, Fields.hasKey g.1 required = true := by
              intro g hg
              have hkey := hfront g hg
              rwa [Bool.not_not] at hkey
            -- No field in front of it has the key, so it is the one that is found.
            have hfind : Fields.find? f.1 fields = some f.2 := by
              rw [hfields, Fields.find?_append_of_ne, Fields.find?, if_pos rfl]
              intro g hg he
              rw [← he, hknown g hg] at hf
              exact Bool.noConfusion hf
            rw [Option.map_some, ← hfind]
            exact .closing hparts (.extra hfields hknown hf)
  · simp only [hsome]
    refine .part (.key (hsplit ▸ List.mem_append_right _ List.mem_cons_self)) he ?_
    intro hkeys s w q hpart hbefore
    cases hpart with
    | @key _ _ _ k q h =>
        -- A smaller key stands in front, since the keys ascend.
        have hlt : k < e.1 := hbefore
        have hk := hkeys
        rw [KeysAscend, hsplit, List.pairwise_append, List.pairwise_cons] at hk
        rw [hsplit] at h
        rcases List.mem_append.1 h with h | h
        · exact hfront _ h
        · rcases List.mem_cons.1 h with rfl | h
          · exact absurd hlt (lt_irrefl _)
          · exact absurd (hlt.trans (hk.2.1.1 _ h)) (lt_irrefl _)

/-- The walk over a list. -/
theorem walks_list (elems : List Json) (items : List Pattern) (isOpen : Bool) :
    Walks address (some (.array elems)) (.list items isOpen)
      (check address (some (.array elems)) (.list items isOpen)) := by
  rw [check]
  rcases checkItems_cases address elems items with
    ⟨hnone, hall⟩ | ⟨i, q, m, hi, hm, hsome, hbefore⟩
  · have hparts : ∀ s w q, Part (some (.array elems)) (.list items isOpen) s w q →
        check (address ++ [s]) w q = none := by
      intro s w q hpart
      cases hpart with
      | item h => exact hall _ _ h
    simp only [hnone]
    cases isOpen with
    | true => exact .accepts (.list ..) hparts fun _ _ h => Bool.noConfusion h
    | false =>
        by_cases hlen : elems.length = items.length
        · rw [if_pos (.inr hlen)]
          refine .accepts (.list ..) hparts fun _ he _ => ?_
          cases he
          exact hlen
        · rw [if_neg (not_or_intro Bool.false_ne_true hlen)]
          exact .closing hparts (.length hlen)
  · simp only [hsome]
    refine .part (.item hi) hm ?_
    intro _ s w c hpart hlt
    cases hpart with
    | item h => exact hbefore _ hlt _ h

/-- The walk over a list whose last items all look alike. -/
theorem walks_listRemainder (elems : List Json) (items : List Pattern) (remainder : Pattern)
    (least : Nat) :
    Walks address (some (.array elems)) (.listRemainder items remainder least)
      (check address (some (.array elems)) (.listRemainder items remainder least)) := by
  rw [check]
  rcases checkItems_cases address elems items with
    ⟨hnone, hall⟩ | ⟨i, q, m, hi, hm, hsome, hbefore⟩
  · rcases checkBehind_cases address elems items remainder with
      ⟨hrest, hbehind⟩ | ⟨i, e, m, hi, he, hm, hrest, hbefore⟩
    · have hparts : ∀ s w q, Part (some (.array elems)) (.listRemainder items remainder least)
          s w q → check (address ++ [s]) w q = none := by
        intro s w q hpart
        cases hpart with
        | front h => exact hall _ _ h
        | behind hi he => exact hbehind _ _ hi he
      simp only [hnone, hrest, List.length_drop]
      by_cases hleast : elems.length - items.length < least
      · rw [if_pos hleast]
        exact .closing hparts (.minimum hleast)
      · rw [if_neg hleast]
        refine .accepts (.listRemainder ..) hparts fun _ he => ?_
        cases he
        exact Nat.le_of_not_lt hleast
    · simp only [hnone, hrest]
      refine .part (.behind hi he) hm ?_
      intro _ s w c hpart hlt
      cases hpart with
      | front h => exact hall _ _ h
      | behind hj hc => exact hbefore _ hlt _ hj hc
  · simp only [hsome]
    refine .part (.front hi) hm ?_
    intro _ s w c hpart hlt
    cases hpart with
    | front h => exact hbefore _ hlt _ h
    | @behind _ _ _ _ j _ hj hc =>
        -- The items in front are visited first.
        have hlt' : j < i := hlt
        have hlen := (List.getElem?_eq_some_iff.1 hi).1
        omega

/-- The walk does one of the things that `Walks` lists. -/
theorem walks_check (address : Address) (value : Option Json) (p : Pattern) :
    Walks address value p (check address value p) := by
  by_cases hfits : Fits value p
  · have hleaf : check address value p = none → Complete value p →
        (∀ s w q, ¬Part value p s w q) → Walks address value p (check address value p) := by
      intro hnone hcomplete hparts
      rw [hnone]
      exact .accepts hfits (fun s w q h => absurd h (hparts s w q)) hcomplete
    cases hfits with
    | wildcard value => exact hleaf rfl trivial fun s w q h => by cases h
    | literal h =>
        refine hleaf ?_ trivial fun s w q h => by cases h
        simp only [check, h, if_true]
    | regex h =>
        refine hleaf ?_ trivial fun s w q h => by cases h
        simp only [check, h, if_true]
    | notRegex h =>
        refine hleaf ?_ trivial fun s w q h => by cases h
        simp only [check, h, Bool.false_eq_true, if_false]
    | map fields required isOpen => exact walks_map fields required isOpen
    | list elems items isOpen => exact walks_list elems items isOpen
    | listRemainder elems items remainder least =>
        exact walks_listRemainder elems items remainder least
  · rw [check_of_not_fits hfits]
    exact .opening (.kind hfits)

/-- A value that fails the test behind its parts is not complete. -/
theorem Fault.not_complete {p : Pattern} {m : Mismatch} (h : Fault address value p .closing m) :
    ¬Complete value p := by
  intro hcomplete
  cases h with
  | extra hfields hfront hf =>
      have hkey := hcomplete _ rfl rfl _ (hfields ▸ List.mem_append_right _ List.mem_cons_self)
      rw [hkey] at hf
      exact Bool.noConfusion hf
  | length h => exact h (hcomplete _ rfl rfl)
  | minimum h => exact absurd (hcomplete _ rfl) (Nat.not_le_of_lt h)

/-- The walk accepts what passes both tests and has parts that it accepts. -/
theorem check_eq_none_iff_parts (p : Pattern) :
    check address value p = none ↔
      Fits value p ∧ (∀ s w q, Part value p s w q → check (address ++ [s]) w q = none) ∧
        Complete value p := by
  generalize hresult : check address value p = result
  have hwalks := walks_check address value p
  rw [hresult] at hwalks
  cases hwalks with
  | accepts hfits hparts hcomplete => exact iff_of_true rfl ⟨hfits, hparts, hcomplete⟩
  | opening h =>
      cases h with
      | kind h => exact iff_of_false (Option.some_ne_none _) fun hall => h hall.1
  | part hpart h hbefore =>
      refine iff_of_false (Option.some_ne_none _) fun hall => ?_
      rw [hall.2.1 _ _ _ hpart] at h
      exact Option.some_ne_none _ h.symm
  | closing hparts h =>
      exact iff_of_false (Option.some_ne_none _) fun hall => h.not_complete hall.2.2

/-- The part of a pattern is smaller than the pattern. -/
theorem Part.sizeOf_lt {p q : Pattern} {s : Step} {w : Option Json} (h : Part value p s w q) :
    sizeOf q < sizeOf p := by
  cases h with
  | key h =>
      have hlt := List.sizeOf_lt_of_mem h
      simp only [Prod.mk.sizeOf_spec, map.sizeOf_spec] at hlt ⊢
      omega
  | item h =>
      have hlt := List.sizeOf_lt_of_mem (List.mem_of_getElem? h)
      simp only [list.sizeOf_spec]
      omega
  | front h =>
      have hlt := List.sizeOf_lt_of_mem (List.mem_of_getElem? h)
      simp only [listRemainder.sizeOf_spec]
      omega
  | behind hi he =>
      simp only [listRemainder.sizeOf_spec]
      omega

/-- What holds of a pattern if it holds of its parts holds of every pattern. -/
theorem induction_on_parts {motive : Pattern → Prop}
    (h : ∀ p, (∀ value s w q, Part value p s w q → motive q) → motive p) (p : Pattern) :
    motive p :=
  h p fun _ _ _ q hpart =>
    have := hpart.sizeOf_lt
    induction_on_parts h q
termination_by sizeOf p

/-- A pattern whose keys ascend, and so do those of its parts. -/
inductive Ordered : Pattern → Prop where
  /-- A literal has no keys of its own. -/
  | literal (v : Json) : Ordered (.literal v)
  /-- The wildcard has no keys. -/
  | wildcard : Ordered .wildcard
  /-- An expression has no keys. -/
  | regex (r : FullRegex) : Ordered (.regex r)
  /-- An expression has no keys. -/
  | notRegex (r : FullRegex) : Ordered (.notRegex r)
  /-- The keys of a map ascend. -/
  | map {required : List (String × Pattern)} (isOpen : Bool)
      (hkeys : required.Pairwise fun e f => e.1 < f.1) (h : ∀ e ∈ required, Ordered e.2) :
      Ordered (.map required isOpen)
  /-- The items are ordered. -/
  | list {items : List Pattern} (isOpen : Bool) (h : ∀ q ∈ items, Ordered q) :
      Ordered (.list items isOpen)
  /-- The items and what is behind them are ordered. -/
  | listRemainder {items : List Pattern} {remainder : Pattern} (least : Nat)
      (h : ∀ q ∈ items, Ordered q) (hr : Ordered remainder) :
      Ordered (.listRemainder items remainder least)

theorem Ordered.keysAscend {p : Pattern} (h : p.Ordered) : p.KeysAscend := by
  cases h with
  | map isOpen hkeys h => exact hkeys
  | literal v => trivial
  | wildcard => trivial
  | regex r => trivial
  | notRegex r => trivial
  | list isOpen h => trivial
  | listRemainder least h hr => trivial

/-- The parts of an ordered pattern are ordered. -/
theorem Ordered.part {p q : Pattern} {s : Step} {w : Option Json} (hp : p.Ordered)
    (h : Part value p s w q) : q.Ordered := by
  cases h with
  | key h =>
      cases hp with
      | map isOpen hkeys hall => exact hall _ h
  | item h =>
      cases hp with
      | list isOpen hall => exact hall _ (List.mem_of_getElem? h)
  | front h =>
      cases hp with
      | listRemainder least hall hr => exact hall _ (List.mem_of_getElem? h)
  | behind hi he =>
      cases hp with
      | listRemainder least hall hr => exact hr

/-- Entries in any order make an ordered pattern. -/
theorem ordered_map {entries : List (String × Pattern)} (h : ∀ e ∈ entries, e.2.Ordered)
    (isOpen : Bool) : (map (Fields.ofList entries) isOpen).Ordered := by
  rcases Fields.ofList_spec entries with ⟨hkeys, hmem⟩
  exact .map isOpen hkeys fun e he => h e (hmem e he)

end Pattern

end IrcHarness
