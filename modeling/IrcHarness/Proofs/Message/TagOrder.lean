import IrcHarness.Proofs.Message.Equality
import IrcHarness.Proofs.Message.Grammar

/-!
# The Order of the Tags

Tags are a mapping that remembers an order, the one in which the keys first came up.
Tags come about in two ways. A section is read piece by piece, and a message is built
tag by tag. Either way a key that comes again takes its new value to the place where it
stands, and taking the value away, or giving an empty one, is a new value like any
other.

`Tags.settle` says what has to come of it and nothing of the way: each key where it
first came up, with the tag that was set last. That is a mapping whose keys are
distinct, and it does not depend on how often a key was set in between. What the two
ways have in common is `Tags.Settled`, which setting one more tag keeps
(`Settled.set`).

## Main definitions

* `Tags.settle`: What some tags come to that are set one after the other.
* `Tags.Settled`: Tags that other tags have come to.
* `Message.setTags`: The message with tags set one after the other.
* `Message.InsertsInOrder`: What setting tags does to a message.

## Theorems

* `Settled.set`: Setting one more tag keeps what holds of the tags.
* `Settled.eq_settle`: There is only one way to be settled.
* `insertsInOrder_setTags`: Setting tags does to a message what it should.
* `tags_keep_insertion_order`: Reading and building settle in the same way.
-/

namespace IrcHarness

namespace Tags

/-- What some tags come to that are set one after the other: each key where it first
    came up, with the tag that was set last. -/
def settle (sets : List Tag) : List Tag :=
  (sets.map Tag.key).eraseDups.filterMap (find? sets.reverse)

/-- Tags that other tags have come to, which were set one after the other. -/
structure Settled (sets tags : List Tag) : Prop where
  /-- The keys stand in the order in which they first came up. -/
  keys : tags.map Tag.key = (sets.map Tag.key).eraseDups
  /-- No two tags share a key. -/
  distinct : (tags.map Tag.key).Nodup
  /-- Under each key there is the tag that was set last. -/
  last : ∀ key, find? tags key = find? sets.reverse key

variable {sets tags : List Tag}

theorem find?_cons_self (t : Tag) (tags : List Tag) : find? (t :: tags) t.key = some t := by
  rw [find?, List.find?_cons, decide_eq_true rfl]

theorem find?_cons_of_ne {t : Tag} {key : String} (h : key ≠ t.key) (tags : List Tag) :
    find? (t :: tags) key = find? tags key := by
  rw [find?, find?, List.find?_cons, decide_eq_false h.symm]

/-- There is only one way to be settled. -/
theorem Settled.eq_settle (h : Settled sets tags) : tags = settle sets := by
  have hfound : ∀ t ∈ tags, some t = (find? tags ∘ Tag.key) t := fun t ht =>
    (find?_of_mem h.distinct ht).symm
  calc
    tags = tags.filterMap some := List.filterMap_some.symm
    _ = tags.filterMap (find? tags ∘ Tag.key) := List.filterMap_congr hfound
    _ = (tags.map Tag.key).filterMap (find? tags) := List.filterMap_map.symm
    _ = settle sets := by rw [settle, h.keys, funext h.last]

theorem eraseDups_of_nodup {keys : List String} (h : keys.Nodup) : keys.eraseDups = keys := by
  induction keys with
  | nil => rfl
  | cons key rest ih =>
      rw [List.nodup_cons] at h
      have hrest : rest.filter (fun other => !other == key) = rest := by
        refine List.filter_eq_self.2 fun other hother => ?_
        rw [Bool.not_eq_true', beq_eq_false_iff_ne]
        exact fun he => h.1 (he ▸ hother)
      rw [List.eraseDups_cons, hrest, ih h.2]

/-- A key that came up before stays where it is, and a new one comes behind all others. -/
theorem eraseDups_concat (keys : List String) (key : String) :
    (keys ++ [key]).eraseDups =
      if key ∈ keys then keys.eraseDups else keys.eraseDups ++ [key] := by
  rw [List.eraseDups_append, List.removeAll]
  by_cases hkey : key ∈ keys
  · rw [List.filter_cons_of_neg (by simpa using hkey), if_pos hkey]
    exact List.append_nil _
  · rw [List.filter_cons_of_pos (by simpa using hkey), if_neg hkey]
    rfl

/-- Tags with distinct keys have come to themselves. -/
theorem settled_self (h : (tags.map Tag.key).Nodup) : Settled tags tags :=
  ⟨(eraseDups_of_nodup h).symm, h, find?_of_perm h (List.reverse_perm tags).symm⟩

/-- Setting one more tag keeps what holds of the tags. -/
theorem Settled.set (h : Settled sets tags) (t : Tag) :
    Settled (sets ++ [t]) (Tags.set tags t.key t.value) := by
  refine ⟨?_, nodup_keys_set tags t.key t.value h.distinct, fun key => ?_⟩
  · have hmem : t.key ∈ tags.map Tag.key ↔ t.key ∈ sets.map Tag.key := by
      rw [h.keys, List.mem_eraseDups]
    rw [List.map_append, List.map_singleton, eraseDups_concat, ← h.keys]
    by_cases hk : t.key ∈ tags.map Tag.key
    · rw [if_pos (hmem.1 hk), keys_set_of_mem tags t.key t.value hk]
    · rw [if_neg fun hin => hk (hmem.2 hin), set_of_not_mem tags t.key t.value hk, List.map_append,
        List.map_singleton]
  · rw [List.reverse_append, List.reverse_singleton, List.singleton_append]
    by_cases hk : key = t.key
    · rw [hk, find?_set_self, find?_cons_self]
    · rw [find?_set_of_ne _ _ _ _ hk, find?_cons_of_ne hk, h.last]

/-- Tags that are set do not move the others and do not change them. -/
theorem getElem?_set_of_ne {key : String} {value : Option String} {i : Nat} {t : Tag}
    (hi : tags[i]? = some t) (hne : t.key ≠ key) : (Tags.set tags key value)[i]? = some t := by
  induction tags generalizing i with
  | nil => cases hi
  | cons u rest ih =>
      rw [Tags.set]
      by_cases hk : u.key = key
      · rw [if_pos hk]
        cases i with
        | zero =>
            rw [List.getElem?_cons_zero, Option.some.injEq] at hi
            exact absurd (hi ▸ hk) hne
        | succ i => exact hi
      · rw [if_neg hk]
        cases i with
        | zero => exact hi
        | succ i => exact ih hi

end Tags

namespace Message

/-- The message with tags set one after the other. -/
def setTags (m : Message) (sets : List Tag) : Message :=
  sets.foldl (fun n t => n.setTag t.key t.value) m

/-- What setting tags one after the other does to a message. -/
structure InsertsInOrder (m : Message) (sets : List Tag) (n : Message) : Prop where
  /-- No two tags share a key. -/
  distinct : n.KeysDistinct
  /-- The keys stand in the order in which they first came up, those that the message
      had in front. -/
  order : n.tags.map Tag.key = ((m.tags ++ sets).map Tag.key).eraseDups
  /-- Under a key that was set there is the value that it was last set to. -/
  last : ∀ (front : List Tag) (key : String) (value : Option String) (back : List Tag),
    sets = front ++ ⟨key, value⟩ :: back → key ∉ back.map Tag.key →
      n.tag? key = some ⟨key, value⟩ ∧ n.hasTag key = true ∧ n.tagValue? key = value
  /-- Under any other key there is what was there before. -/
  others : ∀ key : String, key ∉ sets.map Tag.key →
    n.tag? key = m.tag? key ∧ n.hasTag key = m.hasTag key ∧ n.tagValue? key = m.tagValue? key
  /-- The tags under other keys stand where they stood. -/
  places : ∀ (i : Nat) (t : Tag), m.tags[i]? = some t → t.key ∉ sets.map Tag.key →
    n.tags[i]? = some t
  /-- Only the tags have changed. -/
  rest : n = { m with tags := n.tags }

variable {m : Message} {sets : List Tag}

theorem setTags_eq (m : Message) (sets : List Tag) :
    m.setTags sets = { m with tags := setAll m.tags sets } := by
  induction sets generalizing m with
  | nil => rfl
  | cons t rest ih => exact ih (m.setTag t.key t.value)

theorem settled_setAll {front tags : List Tag} (h : Tags.Settled front tags) (sets : List Tag) :
    Tags.Settled (front ++ sets) (setAll tags sets) := by
  induction sets generalizing front tags with
  | nil =>
      rw [List.append_nil]
      exact h
  | cons t rest ih =>
      have hrest := ih (h.set t)
      rw [List.append_assoc, List.singleton_append] at hrest
      exact hrest

theorem getElem?_setAll_of_not_mem {tags : List Tag} {i : Nat} {t : Tag}
    (hi : tags[i]? = some t) (h : t.key ∉ sets.map Tag.key) :
    (setAll tags sets)[i]? = some t := by
  induction sets generalizing tags with
  | nil => exact hi
  | cons u rest ih =>
      rw [List.map_cons, List.mem_cons, not_or] at h
      exact ih (Tags.getElem?_set_of_ne hi h.1) h.2

/-- What is found under a key is the tag that was set last, or else what was found
    before. -/
theorem tag?_setTags (hd : m.KeysDistinct) (sets : List Tag) (key : String) :
    (m.setTags sets).tag? key = (Tags.find? sets.reverse key).or (m.tag? key) := by
  have hsettled := settled_setAll (Tags.settled_self hd) sets
  have hback : Tags.find? m.tags.reverse key = m.tag? key :=
    (Tags.find?_of_perm hd (List.reverse_perm m.tags).symm key).symm
  rw [setTags_eq, tag?, hsettled.last, List.reverse_append, Tags.find?, List.find?_append, ← hback]
  rfl

theorem find?_reverse_of_not_mem {key : String} (h : key ∉ sets.map Tag.key) :
    Tags.find? sets.reverse key = none := by
  refine List.find?_eq_none.2 fun t ht he => h ?_
  rw [← of_decide_eq_true he]
  exact List.mem_map_of_mem (List.mem_reverse.1 ht)

/-- Setting tags does to a message what it should. -/
theorem insertsInOrder_setTags (hd : m.KeysDistinct) (sets : List Tag) :
    m.InsertsInOrder sets (m.setTags sets) := by
  have hsettled := settled_setAll (Tags.settled_self hd) sets
  refine ⟨?_, ?_, ?_, ?_, ?_, ?_⟩
  · rw [setTags_eq]
    exact hsettled.distinct
  · rw [setTags_eq]
    exact hsettled.keys
  · rintro front key value back rfl hback
    have htag : (m.setTags (front ++ ⟨key, value⟩ :: back)).tag? key = some ⟨key, value⟩ := by
      have hset := Tags.find?_cons_self ⟨key, value⟩ front.reverse
      rw [tag?_setTags hd, List.reverse_append, List.reverse_cons, List.append_assoc,
        List.singleton_append, Tags.find?, List.find?_append, ← Tags.find?,
        find?_reverse_of_not_mem hback, Option.none_or, ← Tags.find?, hset]
      rfl
    refine ⟨htag, ?_, ?_⟩
    · rw [hasTag, htag]
      rfl
    · rw [tagValue?, htag]
      rfl
  · intro key hkey
    have htag : (m.setTags sets).tag? key = m.tag? key := by
      rw [tag?_setTags hd, find?_reverse_of_not_mem hkey, Option.none_or]
    exact ⟨htag, congrArg Option.isSome htag, congrArg (·.bind Tag.value) htag⟩
  · intro i t hi ht
    rw [setTags_eq]
    exact getElem?_setAll_of_not_mem hi ht
  · rw [setTags_eq]

/-- Reading a section gives the tags that come of setting the tag of each piece, from left
    to right, on a message without tags. Setting tags on a message with distinct keys
    leaves the keys distinct and in the order in which they first came up, with the value
    that was set last under each key, and it neither moves nor changes the other tags. -/
theorem tags_keep_insertion_order :
    (∀ (text : List Char) (tags : List Tag), parseTags text = .ok tags →
      ∃ texts written, Segments text texts ∧ List.Forall₂ TagText texts written ∧
        tags = Tags.settle written ∧ ∀ c, ((ofCommand c).setTags written).tags = tags) ∧
    ∀ m : Message, m.KeysDistinct → ∀ sets : List Tag,
      (m.setTags sets).tags = Tags.settle (m.tags ++ sets) ∧
        m.InsertsInOrder sets (m.setTags sets) := by
  have hsettle : ∀ m : Message, m.KeysDistinct → ∀ sets : List Tag,
      (m.setTags sets).tags = Tags.settle (m.tags ++ sets) := by
    intro m hd sets
    rw [setTags_eq]
    exact (settled_setAll (Tags.settled_self hd) sets).eq_settle
  refine ⟨fun text tags hread => ?_, fun m hd sets => ⟨hsettle m hd sets,
    insertsInOrder_setTags hd sets⟩⟩
  rcases (tagsText_iff (some text) tags).2 hread with ⟨texts, written, hseg, hwritten, rfl⟩
  refine ⟨texts, written, hseg, hwritten, ?_, fun c => ?_⟩
  · have hnil : Tags.Settled [] [] := Tags.settled_self List.nodup_nil
    exact (settled_setAll hnil written).eq_settle
  · rw [setTags_eq]
    rfl

/-- A section whose keys come again, once without a value and once with an empty one, and
    a message on which a new key and an old one are set, the new one twice. -/
theorem tags_keep_insertion_order_repeated :
    parseTags "b=1;a;b=;+x/a=2;a=\\s;b".toList =
        .ok [⟨"b", none⟩, ⟨"a", some " "⟩, ⟨"+x/a", some "2"⟩] ∧
      (∃ written, [⟨"b", none⟩, ⟨"a", some " "⟩, ⟨"+x/a", some "2"⟩] = Tags.settle written) ∧
      InsertsInOrder ⟨[⟨"a", some "1"⟩, ⟨"b", some "2"⟩], none, "PING", []⟩
        [⟨"c", some "3"⟩, ⟨"a", none⟩, ⟨"c", some ""⟩]
        ⟨[⟨"a", none⟩, ⟨"b", some "2"⟩, ⟨"c", some ""⟩], none, "PING", []⟩ := by
  have hread : parseTags "b=1;a;b=;+x/a=2;a=\\s;b".toList =
      .ok [⟨"b", none⟩, ⟨"a", some " "⟩, ⟨"+x/a", some "2"⟩] := by
    cbv
  rcases tags_keep_insertion_order with ⟨hparsed, hbuilt⟩
  rcases hparsed _ _ hread with ⟨texts, written, hseg, hwritten, hsettle, hset⟩
  have hd : KeysDistinct ⟨[⟨"a", some "1"⟩, ⟨"b", some "2"⟩], none, "PING", []⟩ := by
    unfold KeysDistinct
    decide
  exact ⟨hread, ⟨written, hsettle⟩,
    (hbuilt _ hd [⟨"c", some "3"⟩, ⟨"a", none⟩, ⟨"c", some ""⟩]).2⟩

end Message

end IrcHarness
