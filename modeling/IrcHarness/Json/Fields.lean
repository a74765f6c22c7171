/-!
# Keyed Fields

Values under text keys, kept in ascending order of the keys. Objects of JSON
and patterns for them are both of this kind: the order in which keys were
given does not matter, and a key that is given again replaces the value.

The order is that of the code points of the keys.

## Main definitions

* `Fields.insert`: Give a key a value.
* `Fields.ofList`: The fields that a list of assignments describes.
* `Fields.find?`: The value of a key.

## Theorems

* `find?_insert_self`: A key that was set has the value it was set to.
* `find?_insert_of_ne`: Setting a key leaves all others alone.
-/

namespace IrcHarness

namespace Fields

variable {α : Type}

/-- Give a key a value, in its place by the order of keys. -/
def insert (key : String) (value : α) : List (String × α) → List (String × α)
  | [] => [(key, value)]
  | (k, v) :: rest =>
    if key < k then (key, value) :: (k, v) :: rest
    else if key = k then (key, value) :: rest
    else (k, v) :: insert key value rest

/-- The fields that assignments describe, of which a later one replaces an
    earlier one with the same key. -/
def ofList (entries : List (String × α)) : List (String × α) :=
  entries.foldl (fun fields e => insert e.1 e.2 fields) []

/-- The value of a key. -/
def find? (key : String) : List (String × α) → Option α
  | [] => none
  | (k, v) :: rest => if k = key then some v else find? key rest

/-- Whether a key has a value. -/
def hasKey (key : String) (fields : List (String × α)) : Bool :=
  (find? key fields).isSome

theorem find?_insert_self (key : String) (value : α) (fields : List (String × α)) :
    find? key (insert key value fields) = some value := by
  induction fields with
  | nil => simp [insert, find?]
  | cons f rest ih =>
      rcases f with ⟨k, v⟩
      simp only [insert]
      split
      · simp [find?]
      · split
        · simp [find?]
        · next hk =>
            have hne : k ≠ key := fun h => hk h.symm
            simp [find?, hne, ih]

theorem find?_insert_of_ne (key other : String) (value : α) (fields : List (String × α))
    (h : other ≠ key) : find? other (insert key value fields) = find? other fields := by
  induction fields with
  | nil => simp [insert, find?, h.symm]
  | cons f rest ih =>
      rcases f with ⟨k, v⟩
      simp only [insert]
      split
      · simp [find?, h.symm]
      · split
        · next hk =>
            have hne : k ≠ other := fun he => h (he.symm.trans hk.symm)
            simp [find?, h.symm, hne]
        · simp [find?, ih]

end Fields

end IrcHarness
