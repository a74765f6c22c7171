import Mathlib
import IrcHarness.Message.Basic

/-!
# Equality of Messages

The test for equality looks up each tag of the left side on the right and
compares the numbers of tags. It says nothing of the order, and on a left side
with distinct keys it says everything else: the tags of the right side are
those of the left in some order (`equals_iff_perm`). Repeated keys on the right
do not escape it, because a list of the same length has no room for them.

## Theorems

* `find?_of_mem`: With distinct keys, a tag is found under its key.
* `find?_of_perm`: With distinct keys, the order does not decide what is found.
* `perm_of_subset`: Tags with distinct keys fill a list of their length.
* `equals_iff`: Equality by what is found under the keys of the left side.
* `equals_iff_perm`: Equality is equality up to the order of the tags.
* `KeysDistinct.of_perm`: The order of the tags makes no difference.
-/

namespace IrcHarness

namespace Tags

theorem mem_of_find? {tags : List Tag} {key : String} {t : Tag} (h : find? tags key = some t) :
    t ∈ tags ∧ t.key = key := by
  unfold find? at h
  have hkey := List.find?_some h
  rw [decide_eq_true_eq] at hkey
  exact ⟨List.mem_of_find?_eq_some h, hkey⟩

/-- With distinct keys, a tag is found under its key. -/
theorem find?_of_mem {tags : List Tag} (hd : (tags.map Tag.key).Nodup) {t : Tag} (ht : t ∈ tags) :
    find? tags t.key = some t := by
  induction tags with
  | nil => exact absurd ht List.not_mem_nil
  | cons u rest ih =>
      rw [List.map_cons, List.nodup_cons] at hd
      unfold find? at ih ⊢
      rcases List.mem_cons.1 ht with rfl | ht
      · rw [List.find?_cons, decide_eq_true rfl]
      · have hne : u.key ≠ t.key := by
          intro he
          rw [he] at hd
          exact hd.1 (List.mem_map_of_mem ht)
        rw [List.find?_cons, decide_eq_false hne]
        exact ih hd.2 ht

/-- With distinct keys, the order does not decide what is found. -/
theorem find?_of_perm {a b : List Tag} (hd : (a.map Tag.key).Nodup) (hperm : a.Perm b)
    (key : String) : find? a key = find? b key := by
  have hdb : (b.map Tag.key).Nodup := (hperm.map Tag.key).nodup_iff.1 hd
  cases hfound : find? a key with
  | some t =>
      rcases mem_of_find? hfound with ⟨ht, rfl⟩
      exact (find?_of_mem hdb (hperm.mem_iff.1 ht)).symm
  | none =>
      cases hother : find? b key with
      | none => rfl
      | some t =>
          -- What is found on the right is on the left as well.
          rcases mem_of_find? hother with ⟨ht, rfl⟩
          rw [find?_of_mem hd (hperm.mem_iff.2 ht)] at hfound
          exact absurd hfound (Option.some_ne_none t)

/-- Tags with distinct keys that are all in a list of their length are that
    list in some order. -/
theorem perm_of_subset {a b : List Tag} (hd : (a.map Tag.key).Nodup) (hsub : ∀ t ∈ a, t ∈ b)
    (hlen : a.length = b.length) : a.Perm b := by
  have hnodup : a.Nodup := List.Nodup.of_map Tag.key hd
  exact (hnodup.subperm hsub).perm_of_length_le (Nat.le_of_eq hlen.symm)

end Tags

namespace Message

/-- Equality by what is found: under each key of the left side the right side has the
    very tag. -/
theorem equals_iff (a b : Message) :
    a.equals b = true ↔
      a.command = b.command ∧ a.source = b.source ∧ a.params = b.params ∧
        a.tags.length = b.tags.length ∧ ∀ t ∈ a.tags, b.tag? t.key = some t := by
  have hfound : ∀ t : Tag,
      ((b.tag? t.key).any fun u => u.value = t.value) = true ↔ b.tag? t.key = some t := by
    intro t
    rw [Option.any_eq_true]
    refine ⟨?_, fun h => ⟨t, h, decide_eq_true rfl⟩⟩
    rintro ⟨u, hu, hvalue⟩
    -- What is found has the key, so it is the tag when it has the value as well.
    have hkey := (Tags.mem_of_find? hu).2
    rw [hu, Option.some.injEq]
    rcases u with ⟨key, value⟩
    rcases t with ⟨key', value'⟩
    rw [Tag.mk.injEq]
    exact ⟨hkey, of_decide_eq_true hvalue⟩
  unfold equals
  rw [Bool.and_eq_true, Bool.and_eq_true, Bool.and_eq_true, Bool.and_eq_true, decide_eq_true_eq,
    decide_eq_true_eq, decide_eq_true_eq, decide_eq_true_eq, List.all_eq_true, and_assoc, and_assoc,
    and_assoc]
  simp only [hfound]

/-- On a left side with distinct keys, equality is equality up to the order of
    the tags. -/
theorem equals_iff_perm {a : Message} (hd : a.KeysDistinct) (b : Message) :
    a.equals b = true ↔
      a.command = b.command ∧ a.source = b.source ∧ a.params = b.params ∧
        a.tags.Perm b.tags := by
  rw [equals_iff]
  constructor
  · rintro ⟨hc, hs, hp, hlen, hall⟩
    -- Every tag on the left is on the right, and the lengths leave no room.
    exact ⟨hc, hs, hp, Tags.perm_of_subset hd (fun t ht => (Tags.mem_of_find? (hall t ht)).1) hlen⟩
  · rintro ⟨hc, hs, hp, hperm⟩
    have hdb : (b.tags.map Tag.key).Nodup := (hperm.map Tag.key).nodup_iff.1 hd
    exact ⟨hc, hs, hp, hperm.length_eq, fun t ht => Tags.find?_of_mem hdb (hperm.mem_iff.1 ht)⟩

/-- Messages that differ in the order of their tags have distinct keys
    together. -/
theorem KeysDistinct.of_perm {m n : Message} (h : m.KeysDistinct) (htags : m.tags.Perm n.tags) :
    n.KeysDistinct :=
  (htags.map Tag.key).nodup_iff.1 h

end Message

end IrcHarness
