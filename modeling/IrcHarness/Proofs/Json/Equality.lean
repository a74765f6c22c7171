import IrcHarness.Json.Reader
import IrcHarness.Proofs.Json.Fields

/-!
# Equality of Values

Values are compared as trees: lists item by item, objects field by field in the order in
which they are kept. Both walks are relations between lists, item against item
(`sameItems_iff`, `sameFields_iff`), and all that is known of values is carried from the
parts to the whole through these.

Only floats keep equality from being identity, since zero has two signs. On a value
without floats the two are the same (`same_iff_eq`).

Comparing fields in the order in which they are kept makes sense because there is only
one such order. The keys of every object ascend (`Ordered`), in all that is read from a
text (`ordered_of_read?`) and in all that is put together by `ofFields`.

## Main definitions

* `Json.Exact`: A value without floats.
* `Json.Ordered`: A value whose keys ascend.
* `Json.ReadsOrdered`: The readers give ordered values.

## Theorems

* `sameItems_iff`, `sameFields_iff`: The walks as relations between lists.
* `same_array_iff`, `same_object_iff`: What is equal to a collection.
* `same_iff_eq`: Without floats, equality is identity.
* `ordered_ofFields`: Assignments in any order make an ordered object.
* `ordered_of_read?`: What is read is ordered.
-/

namespace IrcHarness

/-- Relations that agree on the elements of two lists relate the lists alike. -/
theorem forall₂_congr_of_mem {α β : Type} {R S : α → β → Prop} {xs : List α} {ys : List β}
    (h : ∀ x ∈ xs, ∀ y ∈ ys, (R x y ↔ S x y)) :
    List.Forall₂ R xs ys ↔ List.Forall₂ S xs ys := by
  rw [List.forall₂_iff_zip, List.forall₂_iff_zip]
  refine and_congr_right fun _ => forall₂_congr fun x y => forall_congr' fun hmem => ?_
  rcases List.of_mem_zip hmem with ⟨hx, hy⟩
  exact h x hx y hy

namespace Json

theorem sameItems_iff (xs ys : List Json) :
    sameItems xs ys = true ↔ List.Forall₂ (fun x y => same x y = true) xs ys := by
  induction xs generalizing ys with
  | nil => cases ys <;> simp [sameItems]
  | cons x xs ih =>
      cases ys with
      | nil => simp [sameItems]
      | cons y ys => rw [sameItems, Bool.and_eq_true, ih, List.forall₂_cons]

theorem sameFields_iff (fs gs : List (String × Json)) :
    sameFields fs gs = true ↔
      List.Forall₂ (fun e f => e.1 = f.1 ∧ same e.2 f.2 = true) fs gs := by
  induction fs generalizing gs with
  | nil => cases gs <;> simp [sameFields]
  | cons e fs ih =>
      cases gs with
      | nil => simp [sameFields]
      | cons f gs =>
          rw [sameFields, Bool.and_eq_true, Bool.and_eq_true, decide_eq_true_eq, ih,
            List.forall₂_cons]

/-- What is equal to a list is a list with items that are equal one by one. -/
theorem same_array_iff (w : Json) (items : List Json) :
    same w (.array items) = true ↔
      ∃ elems, w = .array elems ∧ List.Forall₂ (fun x y => same x y = true) elems items := by
  cases w <;> simp [same, sameItems_iff]

/-- What is equal to an object is an object with the same keys and values that are equal
    one by one. -/
theorem same_object_iff (w : Json) (fields : List (String × Json)) :
    same w (.object fields) = true ↔
      ∃ fs, w = .object fs ∧
        List.Forall₂ (fun e f => e.1 = f.1 ∧ same e.2 f.2 = true) fs fields := by
  cases w <;> simp [same, sameFields_iff]

/-- A value without floats. -/
inductive Exact : Json → Prop where
  /-- The value `null`. -/
  | null : Exact .null
  /-- A truth value. -/
  | bool (b : Bool) : Exact (.bool b)
  /-- An integer. -/
  | int (n : Int) : Exact (.number (.int n))
  /-- A text. -/
  | string (s : String) : Exact (.string s)
  /-- A list of such values. -/
  | array {items : List Json} (h : ∀ v ∈ items, Exact v) : Exact (.array items)
  /-- An object of such values. -/
  | object {fields : List (String × Json)} (h : ∀ e ∈ fields, Exact e.2) : Exact (.object fields)

/-- A value without floats is equal to itself only. -/
theorem same_iff_eq {v : Json} (hv : v.Exact) (w : Json) : same w v = true ↔ w = v := by
  induction hv generalizing w with
  | null => cases w <;> simp [same]
  | bool b => cases w <;> simp [same]
  | int n =>
      cases w with
      | number m => cases m <;> simp [same, Number.same]
      | _ => simp [same]
  | string s => cases w <;> simp [same]
  | @array items h ih =>
      have hitems : ∀ xs, List.Forall₂ (fun x y => same x y = true) xs items ↔ xs = items := by
        intro xs
        rw [forall₂_congr_of_mem fun x _ y hy => ih y hy x, List.forall₂_eq_eq_eq]
      simp only [same_array_iff, hitems, exists_eq_right]
  | @object fields h ih =>
      have hfields : ∀ fs, List.Forall₂ (fun e f => e.1 = f.1 ∧ same e.2 f.2 = true) fs fields ↔
          fs = fields := by
        intro fs
        rw [forall₂_congr_of_mem fun e _ f hf => by rw [ih f hf e.2, ← Prod.ext_iff],
          List.forall₂_eq_eq_eq]
      simp only [same_object_iff, hfields, exists_eq_right]

theorem exact_ofOption (s? : Option String) : (ofOption s?).Exact := by
  cases s? with
  | none => exact .null
  | some s => exact .string s

theorem exact_ofFields {entries : List (String × Json)} (h : ∀ e ∈ entries, e.2.Exact) :
    (ofFields entries).Exact :=
  .object fun e he => h e ((Fields.ofList_spec entries).2 e he)

/-- A value whose keys ascend, in every object of it. -/
inductive Ordered : Json → Prop where
  /-- The value `null` has no keys. -/
  | null : Ordered .null
  /-- A truth value has no keys. -/
  | bool (b : Bool) : Ordered (.bool b)
  /-- A number has no keys. -/
  | number (n : Number) : Ordered (.number n)
  /-- A text has no keys. -/
  | string (s : String) : Ordered (.string s)
  /-- The items are ordered. -/
  | array {items : List Json} (h : ∀ v ∈ items, Ordered v) : Ordered (.array items)
  /-- The keys of an object ascend, and what stands under them is ordered. -/
  | object {fields : List (String × Json)} (hkeys : fields.Pairwise fun e f => e.1 < f.1)
      (h : ∀ e ∈ fields, Ordered e.2) : Ordered (.object fields)

theorem Ordered.item {items : List Json} (h : (Json.array items).Ordered) {v : Json}
    (hv : v ∈ items) : v.Ordered := by
  cases h with
  | array h => exact h v hv

theorem Ordered.keys {fields : List (String × Json)} (h : (Json.object fields).Ordered) :
    fields.Pairwise fun e f => e.1 < f.1 := by
  cases h with
  | object hkeys h => exact hkeys

theorem Ordered.field {fields : List (String × Json)} (h : (Json.object fields).Ordered)
    {key : String} {v : Json} (hv : Fields.find? key fields = some v) : v.Ordered := by
  cases h with
  | object hkeys h => exact h _ (Fields.mem_of_find? hv)

/-- Assignments in any order make an ordered object. -/
theorem ordered_ofFields {entries : List (String × Json)} (h : ∀ e ∈ entries, e.2.Ordered) :
    (ofFields entries).Ordered := by
  rcases Fields.ofList_spec entries with ⟨hkeys, hmem⟩
  exact .object hkeys fun e he => h e (hmem e he)

/-- With so many steps, all that is taken off the front of a text is ordered. -/
structure ReadsOrdered (steps : Nat) : Prop where
  /-- A value. -/
  value : ∀ cs v rest, readValue steps cs = some (v, rest) → v.Ordered
  /-- The items of a list. -/
  items : ∀ cs vs rest, readItems steps cs = some (vs, rest) → ∀ v ∈ vs, v.Ordered
  /-- The assignments of an object. -/
  entries : ∀ cs es rest, readEntries steps cs = some (es, rest) → ∀ e ∈ es, e.2.Ordered

section Reading

variable {steps : Nat} {cs rest : List Char}

theorem ReadsOrdered.readValue_succ (h : ReadsOrdered steps) {v : Json}
    (hread : readValue (steps + 1) cs = some (v, rest)) : v.Ordered := by
  rw [readValue] at hread
  split at hread
  · rcases Option.map_eq_some_iff.1 hread with ⟨r, -, hr⟩
    cases hr
    exact .string r.1
  · split at hread
    · cases hread
      exact .array fun v hv => absurd hv List.not_mem_nil
    · rcases Option.map_eq_some_iff.1 hread with ⟨r, hitems, hr⟩
      cases hr
      exact .array (h.items _ _ _ hitems)
  · split at hread
    · cases hread
      exact .object List.Pairwise.nil fun e he => absurd he List.not_mem_nil
    · rcases Option.map_eq_some_iff.1 hread with ⟨r, hentries, hr⟩
      cases hr
      exact ordered_ofFields (h.entries _ _ _ hentries)
  · rcases Option.map_eq_some_iff.1 hread with ⟨r, -, hr⟩
    cases hr
    exact .bool true
  · rcases Option.map_eq_some_iff.1 hread with ⟨r, -, hr⟩
    cases hr
    exact .bool false
  · rcases Option.map_eq_some_iff.1 hread with ⟨r, -, hr⟩
    cases hr
    exact .null
  · rcases Option.map_eq_some_iff.1 hread with ⟨r, -, hr⟩
    cases hr
    exact .number r.1

theorem ReadsOrdered.readItems_succ (h : ReadsOrdered steps) {vs : List Json}
    (hread : readItems (steps + 1) cs = some (vs, rest)) : ∀ v ∈ vs, v.Ordered := by
  rw [readItems] at hread
  split at hread
  · cases hread
  · next v _ hv =>
    have hfirst := h.value _ _ _ hv
    split at hread
    · cases hread
      exact List.forall_mem_singleton.2 hfirst
    · rcases Option.map_eq_some_iff.1 hread with ⟨r, hitems, hr⟩
      cases hr
      exact List.forall_mem_cons.2 ⟨hfirst, h.items _ _ _ hitems⟩
    · cases hread

theorem ReadsOrdered.readEntries_succ (h : ReadsOrdered steps) {es : List (String × Json)}
    (hread : readEntries (steps + 1) cs = some (es, rest)) : ∀ e ∈ es, e.2.Ordered := by
  rw [readEntries] at hread
  split at hread
  case h_2 => cases hread
  split at hread
  · cases hread
  split at hread
  case h_2 => cases hread
  split at hread
  · cases hread
  · next v _ hv =>
    have hfirst := h.value _ _ _ hv
    split at hread
    · cases hread
      exact List.forall_mem_singleton.2 hfirst
    · rcases Option.map_eq_some_iff.1 hread with ⟨r, hentries, hr⟩
      cases hr
      exact List.forall_mem_cons.2 ⟨hfirst, h.entries _ _ _ hentries⟩
    · cases hread

end Reading

/-- The readers keep to it, step by step. -/
theorem readsOrdered (steps : Nat) : ReadsOrdered steps := by
  induction steps with
  | zero =>
      refine ⟨fun cs v rest h => ?_, fun cs vs rest h => ?_, fun cs es rest h => ?_⟩
      · rw [readValue] at h
        cases h
      · rw [readItems] at h
        cases h
      · rw [readEntries] at h
        cases h
  | succ steps ih =>
      exact ⟨fun _ _ _ => ih.readValue_succ, fun _ _ _ => ih.readItems_succ,
        fun _ _ _ => ih.readEntries_succ⟩

/-- What is read from a text is ordered. -/
theorem ordered_of_read? {text : String} {v : Json} (h : read? text = some v) : v.Ordered := by
  unfold read? at h
  dsimp only at h
  split at h
  · next w rest hread =>
    split at h
    · cases h
      exact (readsOrdered _).value _ _ _ hread
    · cases h
  · cases h

end Json

end IrcHarness
