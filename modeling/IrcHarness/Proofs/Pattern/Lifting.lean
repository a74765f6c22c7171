import IrcHarness.Proofs.Json.Equality
import IrcHarness.Proofs.Pattern.Semantics

/-!
# Values Spelled Out as Patterns

There are two ways to ask for one particular value. A literal compares the value as a
whole. The other way is to spell the value out: a closed map for every object, a closed
list for every list, and literals only where nothing is left to take apart. The walk then
goes through key by key and item by item, and it must come to the same answer
(`check_lift_iff`).

What could go wrong is absence and excess. A key that is missing is compared as absence,
and is refused because no part of a value that is spelled out is a wildcard. A key too
many and an item too many are refused because the collections are closed. So what closed
collections ask for is a relation between the parts of the two values, and equality is the
same relation.

Objects keep their keys in ascending order. A list of fields in any other order stands for
no object, so the values meant here are the ordered ones, and these are all that can be
read (`Json.ordered_of_read?`) or built (`Json.ordered_ofFields`).

## Main definitions

* `Pattern.lift`: A value spelled out as a pattern.

## Theorems

* `satisfies_lift_iff`: A value that is spelled out is satisfied by equal values only.
* `check_lift_iff`: Spelling out a value makes no difference to the walk.
-/

namespace IrcHarness

namespace Pattern

mutual

/-- A value spelled out: objects as closed maps, lists as closed lists, and everything
    else as literals. -/
def lift : Json → Pattern
  | .array items => closedList (liftItems items)
  | .object fields => closedMap (liftFields fields)
  | .null => .literal .null
  | .bool b => .literal (.bool b)
  | .number n => .literal (.number n)
  | .string s => .literal (.string s)

/-- The items of a list spelled out. -/
def liftItems : List Json → List Pattern
  | [] => []
  | v :: rest => lift v :: liftItems rest

/-- The fields of an object spelled out. -/
def liftFields : List (String × Json) → List (String × Pattern)
  | [] => []
  | (key, v) :: rest => (key, lift v) :: liftFields rest

end

theorem liftItems_eq_map (items : List Json) : liftItems items = items.map lift := by
  induction items with
  | nil => rfl
  | cons v rest ih => rw [liftItems, ih, List.map_cons]

theorem liftFields_eq_map (fields : List (String × Json)) :
    liftFields fields = fields.map fun e => (e.1, lift e.2) := by
  induction fields with
  | nil => rfl
  | cons e rest ih => rw [liftFields, ih, List.map_cons]

theorem keys_liftFields (fields : List (String × Json)) :
    (liftFields fields).map Prod.fst = fields.map Prod.fst := by
  rw [liftFields_eq_map, List.map_map]
  rfl

section Literals

variable (x : Option Json)

theorem exists_same_array_iff (items : List Json) :
    (∃ w, x = some w ∧ Json.same w (.array items) = true) ↔
      ∃ elems, x = some (.array elems) ∧
        List.Forall₂ (fun u v => Json.same u v = true) elems items := by
  simp only [Json.same_array_iff]
  constructor
  · rintro ⟨_, hx, elems, rfl, hitems⟩
    exact ⟨elems, hx, hitems⟩
  · rintro ⟨elems, hx, hitems⟩
    exact ⟨_, hx, elems, rfl, hitems⟩

theorem exists_same_object_iff (fields : List (String × Json)) :
    (∃ w, x = some w ∧ Json.same w (.object fields) = true) ↔
      ∃ fs, x = some (.object fs) ∧
        List.Forall₂ (fun e f => e.1 = f.1 ∧ Json.same e.2 f.2 = true) fs fields := by
  simp only [Json.same_object_iff]
  constructor
  · rintro ⟨_, hx, fs, rfl, hfields⟩
    exact ⟨fs, hx, hfields⟩
  · rintro ⟨fs, hx, hfields⟩
    exact ⟨_, hx, fs, rfl, hfields⟩

end Literals

/-- A value that is spelled out is satisfied when a value is there that is equal to it,
    provided that keys ascend on both sides. The induction is on the value; what is
    compared with it may be any, or absent, as under a key that an object lacks. -/
theorem satisfies_lift_iff {v : Json} (hv : v.Ordered) {x : Option Json}
    (hx : ∀ w ∈ x, w.Ordered) :
    Satisfies x (lift v) ↔ ∃ w, x = some w ∧ Json.same w v = true := by
  induction hv generalizing x with
  | null => rw [lift, Satisfies]
  | bool b => rw [lift, Satisfies]
  | number n => rw [lift, Satisfies]
  | string s => rw [lift, Satisfies]
  | @array items h ih =>
      rw [lift, satisfies_closedList_iff, liftItems_eq_map, exists_same_array_iff]
      refine exists_congr fun elems => and_congr_right fun he => ?_
      -- Both go item by item, and each item is there on both sides.
      rw [List.forall₂_map_right_iff]
      refine forall₂_congr_of_mem fun w hw y hy => ?_
      have hitem : ∀ u ∈ some w, u.Ordered := fun u hu => Option.some.inj hu ▸ (hx _ he).item hw
      rw [ih y hy hitem]
      simp only [Option.some.injEq, exists_eq_left']
  | @object fields hkeys h ih =>
      have hd : ((liftFields fields).map Prod.fst).Nodup := by
        rw [keys_liftFields]
        exact List.pairwise_map.2 (hkeys.imp fun hlt => hlt.ne)
      rw [lift, satisfies_closedMap_iff x hd, exists_same_object_iff]
      refine exists_congr fun fs => and_congr_right fun he => ?_
      -- The map looks its keys up, and equality goes field by field. Since the keys ascend,
      -- that is the same. A key that is not found stays in the comparison, as absence.
      rw [Fields.forall₂_iff_find? (R := fun a b => Json.same a b = true) (hx _ he).keys hkeys]
      refine and_congr ?_ (forall₂_congr fun f _ => ?_)
      · rw [liftFields_eq_map, List.forall_mem_map]
        exact forall₂_congr fun e hmem => ih e hmem fun w hw => (hx _ he).field hw
      · rw [← Fields.mem_keys_iff, ← Fields.mem_keys_iff, keys_liftFields]

/-- Spelling out a value makes no difference to the walk: it finds nothing exactly when
    the literal finds nothing, and both when a value is there and equal. -/
theorem check_lift_iff (address : Address) {v : Json} (hv : v.Ordered) {x : Option Json}
    (hx : ∀ w ∈ x, w.Ordered) :
    (check address x (lift v) = none ↔ check address x (.literal v) = none) ∧
      (check address x (.literal v) = none ↔ ∃ w, x = some w ∧ Json.same w v = true) := by
  rw [semantics_satisfies.check_iff, semantics_satisfies.check_iff, satisfies_lift_iff hv hx,
    Satisfies]
  exact ⟨Iff.rfl, Iff.rfl⟩

/-- An object read from a text, the same object with its keys the other way round and the
    other zero, and one with a key too many inside. -/
theorem check_lift_iff_nested :
    ∃ v w u : Json, Json.read? "\x7b\"b\":[0.0,\x7b\"c\":null\x7d],\"a\":7\x7d" = some v ∧
      Json.read? "\x7b\"a\":7,\"b\":[-0.0,\x7b\"c\":null\x7d]\x7d" = some w ∧
      Json.read? "\x7b\"a\":7,\"b\":[0.0,\x7b\"c\":null,\"d\":1\x7d]\x7d" = some u ∧
      check [] (some w) (lift v) = none ∧ check [] (some w) (.literal v) = none ∧
      check [] (some u) (lift v) ≠ none ∧ check [] none (lift v) ≠ none := by
  have hv : Json.read? "\x7b\"b\":[0.0,\x7b\"c\":null\x7d],\"a\":7\x7d" = some
      (.object [("a", .number (.int 7)), ("b", .array [.number (.float ⟨false, 0, -1074⟩),
        .object [("c", .null)]])]) := by
    cbv
  have hw : Json.read? "\x7b\"a\":7,\"b\":[-0.0,\x7b\"c\":null\x7d]\x7d" = some
      (.object [("a", .number (.int 7)), ("b", .array [.number (.float ⟨true, 0, -1074⟩),
        .object [("c", .null)]])]) := by
    cbv
  have hu : Json.read? "\x7b\"a\":7,\"b\":[0.0,\x7b\"c\":null,\"d\":1\x7d]\x7d" = some
      (.object [("a", .number (.int 7)), ("b", .array [.number (.float ⟨false, 0, -1074⟩),
        .object [("c", .null), ("d", .number (.int 1))]])]) := by
    cbv
  have hordered := Json.ordered_of_read? hv
  rcases check_lift_iff [] hordered (fun _ h => Option.some.inj h ▸ Json.ordered_of_read? hw)
    with ⟨hlift, hliteral⟩
  rcases check_lift_iff [] hordered (fun _ h => Option.some.inj h ▸ Json.ordered_of_read? hu)
    with ⟨hlift', hliteral'⟩
  rcases check_lift_iff [] hordered (fun w h => absurd h (Option.not_mem_none w)) with
    ⟨hlift'', hliteral''⟩
  have hsame := hliteral.2 ⟨_, rfl, by decide⟩
  refine ⟨_, _, _, hv, hw, hu, hlift.2 hsame, hsame, fun h => ?_, fun h => ?_⟩
  · rcases hliteral'.1 (hlift'.1 h) with ⟨w, hfound, hequal⟩
    rw [← Option.some.inj hfound] at hequal
    exact absurd hequal (by decide)
  · rcases hliteral''.1 (hlift''.1 h) with ⟨w, hfound, -⟩
    cases hfound

end Pattern

end IrcHarness
