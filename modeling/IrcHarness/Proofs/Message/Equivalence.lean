import IrcHarness.Proofs.Message.Faithful

/-!
# The Laws of Equality

Whether equality of messages is an equivalence. On messages that were read or built it
is, because all of these have distinct keys (`Made.keysDistinct`), and on distinct keys
equality is equality up to the order of the tags. It is enough that the left side has
distinct keys: the other side cannot repeat one and be equal.

The fields of a message are open to anybody, so a message may also be put together by
hand, with a key twice. The test looks every tag of the left side up on the right, and
there it finds the first tag with the key only. What comes of that differs from law to
law. Equal messages agree on what is found under each key of the left side, and this
can be passed on, so equality is transitive on all messages. But a message whose
repeated key has two values does not find the second one in itself, and a message that
says one thing twice is equal to one that says two things, but not the other way round.
`equality_laws` says exactly when the two laws hold, and `repeated_keys_break_equality`
has the smallest messages for which they do not.

## Main definitions

* `Message.Made`: A message that was read or built.
* `Message.Consistent`: Tags that share a key are the same tag.

## Theorems

* `Made.keysDistinct`: What was read or built has distinct keys.
* `equality_up_to_tag_order`: Equality on distinct keys, and on what was made.
* `equals_self_iff`: When a message is equal to itself.
* `equals_symm_iff`: When equality can be turned round.
* `equals_trans`: Equality can always be passed on.
* `equality_laws`: The laws of equality on all messages.
-/

namespace IrcHarness

namespace Message

/-- A message as a program comes by one: read from a line, or begun with a command, and
    then changed by the operations that build messages. -/
inductive Made : Message → Prop where
  /-- Read from a line. -/
  | parsed {line : String} {m : Message} (h : parse line = .ok m) : Made m
  /-- Read from the bytes of a line. -/
  | parsedBytes {bytes : List UInt8} {m : Message} (h : parseBytes bytes = .ok m) : Made m
  /-- Begun with a command. -/
  | command (c : String) : Made (ofCommand c)
  /-- Given other parameters. -/
  | params {m : Message} (h : Made m) (ps : List String) : Made (m.withParams ps)
  /-- Given one more parameter. -/
  | param {m : Message} (h : Made m) (p : String) : Made (m.withParam p)
  /-- Given a source. -/
  | source {m : Message} (h : Made m) (s : String) : Made (m.withSource s)
  /-- Given a tag. -/
  | tag {m : Message} (h : Made m) (key : String) (value : Option String) :
      Made (m.setTag key value)

theorem readable_of_parseBytes {bytes : List UInt8} {m : Message} (h : parseBytes bytes = .ok m) :
    m.Readable := by
  unfold parseBytes at h
  split at h
  · cases h
  · exact readable_of_parseBody h

/-- What was read or built has distinct keys. -/
theorem Made.keysDistinct {m : Message} (h : m.Made) : m.KeysDistinct := by
  induction h with
  | parsed h => exact (readable_of_parse h).distinct
  | parsedBytes h => exact (readable_of_parseBytes h).distinct
  | command c => exact List.nodup_nil
  | params h ps ih => exact ih
  | param h p ih => exact ih
  | source h s ih => exact ih
  | tag h key value ih => exact Tags.nodup_keys_set _ key value ih

variable {a b c : Message}

/-- With distinct keys on the left side, equality can be turned round. -/
theorem equals_symm (ha : a.KeysDistinct) (h : a.equals b = true) :
    b.KeysDistinct ∧ b.equals a = true := by
  rcases (equals_iff_perm ha b).1 h with ⟨hcommand, hsource, hparams, hperm⟩
  have hb : b.KeysDistinct := ha.of_perm hperm
  exact ⟨hb, (equals_iff_perm hb a).2 ⟨hcommand.symm, hsource.symm, hparams.symm, hperm.symm⟩⟩

/-- Equality can be passed on, whatever the keys. -/
theorem equals_trans (hab : a.equals b = true) (hbc : b.equals c = true) : a.equals c = true := by
  rw [equals_iff] at hab hbc ⊢
  rcases hab with ⟨hcommand, hsource, hparams, hlength, htags⟩
  rcases hbc with ⟨hcommand', hsource', hparams', hlength', htags'⟩
  refine ⟨hcommand.trans hcommand', hsource.trans hsource', hparams.trans hparams',
    hlength.trans hlength', fun t ht => ?_⟩
  -- What is found in the middle is one of its tags, so it is found on the right as well.
  exact htags' t (Tags.mem_of_find? (htags t ht)).1

/-- On a left side with distinct keys, equality is equality of all but the order of the
    tags, and then the right side has distinct keys as well and is equal to the left
    one. On messages that were read or built it is an equivalence, and the messages that
    are equal to one are those that have its tags in some order. -/
theorem equality_up_to_tag_order :
    (∀ a b : Message, a.KeysDistinct →
      (a.equals b = true ↔ a.command = b.command ∧ a.source = b.source ∧ a.params = b.params ∧
        b.tags.Perm a.tags) ∧
      (a.equals b = true → b.KeysDistinct ∧ b.equals a = true)) ∧
    Equivalence (fun a b : {m : Message // m.Made} => a.val.equals b.val = true) ∧
    ∀ a b : Message, a.Made →
      (a.equals b = true ↔ ∃ tags, tags.Perm a.tags ∧ b = { a with tags }) := by
  refine ⟨fun a b ha => ⟨?_, equals_symm ha⟩, ⟨fun m => ?_, fun {a b} h => ?_, equals_trans⟩,
    fun a b ha => ?_⟩
  · rw [equals_iff_perm ha, List.perm_comm]
  · exact equals_self m.property.keysDistinct
  · exact (equals_symm a.property.keysDistinct h).2
  · rw [equals_iff_perm ha.keysDistinct]
    constructor
    · rintro ⟨hcommand, hsource, hparams, hperm⟩
      refine ⟨b.tags, hperm.symm, ?_⟩
      rw [hcommand, hsource, hparams]
    · rintro ⟨tags, hperm, rfl⟩
      exact ⟨rfl, rfl, rfl, hperm.symm⟩

/-- A message that was read and one that was built with its tags the other way round. -/
theorem equality_up_to_tag_order_swapped :
    ∃ a b : Message, parse "@id=7;bot PING x" = .ok a ∧
      b = (((ofCommand "PING").withParam "x").setTag "bot" none).setTag "id" (some "7") ∧
      a ≠ b ∧ a.KeysDistinct ∧ a.Made ∧ b.Made ∧ a.equals b = true ∧ b.equals a = true := by
  have hparse : parse "@id=7;bot PING x" =
      .ok ⟨[⟨"id", some "7"⟩, ⟨"bot", none⟩], none, "PING", ["x"]⟩ := by
    cbv
  have ha : Made ⟨[⟨"id", some "7"⟩, ⟨"bot", none⟩], none, "PING", ["x"]⟩ := .parsed hparse
  have hb : Made ((((ofCommand "PING").withParam "x").setTag "bot" none).setTag "id" (some "7")) :=
    .tag (.tag (.param (.command "PING") "x") "bot" none) "id" (some "7")
  rcases equality_up_to_tag_order with ⟨hdistinct, -, hmade⟩
  have heq := (hmade _ _ ha).2 ⟨_, List.Perm.swap _ _ _, rfl⟩
  have hback := ((hdistinct _ _ ha.keysDistinct).2 heq).2
  exact ⟨_, _, hparse, rfl, by decide, ha.keysDistinct, ha, hb, heq, hback⟩

/-- Tags that share a key are the same tag. -/
def Consistent (m : Message) : Prop :=
  ∀ t ∈ m.tags, ∀ u ∈ m.tags, t.key = u.key → t = u

instance (m : Message) : Decidable m.Consistent :=
  inferInstanceAs (Decidable (∀ t ∈ m.tags, ∀ u ∈ m.tags, t.key = u.key → t = u))

theorem exists_tag?_of_mem {t : Tag} (ht : t ∈ a.tags) :
    ∃ u ∈ a.tags, u.key = t.key ∧ a.tag? t.key = some u := by
  have hsome : (a.tag? t.key).isSome = true := by
    rw [tag?, Tags.find?, List.find?_isSome]
    exact ⟨t, ht, decide_eq_true rfl⟩
  rcases Option.isSome_iff_exists.1 hsome with ⟨u, hu⟩
  rcases Tags.mem_of_find? hu with ⟨hmem, hkey⟩
  exact ⟨u, hmem, hkey, hu⟩

/-- On the left side of equal messages a key says only one thing. -/
theorem consistent_of_equals (h : a.equals b = true) : a.Consistent := by
  intro t ht u hu hkey
  have htags := ((equals_iff a b).1 h).2.2.2.2
  have hsame := htags t ht
  rw [hkey, htags u hu] at hsame
  exact (Option.some.inj hsame).symm

/-- A message is equal to itself exactly when no key of it has two values. -/
theorem equals_self_iff (m : Message) : m.equals m = true ↔ m.Consistent := by
  refine ⟨consistent_of_equals, fun h => ?_⟩
  refine (equals_iff m m).2 ⟨rfl, rfl, rfl, rfl, fun t ht => ?_⟩
  rcases exists_tag?_of_mem ht with ⟨u, hu, hkey, hfound⟩
  rw [hfound, h u hu t ht hkey]

/-- Equality can be turned round exactly when no key of the right side has two values
    and the left side has all of its keys. -/
theorem equals_symm_iff (h : a.equals b = true) :
    b.equals a = true ↔ b.Consistent ∧ ∀ t ∈ b.tags, ∃ u ∈ a.tags, u.key = t.key := by
  rcases (equals_iff a b).1 h with ⟨hcommand, hsource, hparams, hlength, htags⟩
  constructor
  · intro hback
    refine ⟨consistent_of_equals hback, fun t ht => ⟨t, ?_, rfl⟩⟩
    exact (Tags.mem_of_find? (((equals_iff b a).1 hback).2.2.2.2 t ht)).1
  · rintro ⟨hconsistent, hkeys⟩
    refine (equals_iff b a).2
      ⟨hcommand.symm, hsource.symm, hparams.symm, hlength.symm, fun t ht => ?_⟩
    -- What the left side has under the key is on the right too, where it is the tag itself.
    rcases hkeys t ht with ⟨u, hu, hkey⟩
    rcases exists_tag?_of_mem hu with ⟨w, hw, hwkey, hfound⟩
    rw [hkey] at hwkey hfound
    rw [hfound, hconsistent w (Tags.mem_of_find? (htags w hw)).1 t ht hwkey]

/-- Equality is transitive on all messages. A message is equal to itself exactly when no
    key of it has two values, and equality can be turned round exactly when no key of the
    right side has two values and the left side has all of its keys. Distinct keys are
    enough for both. -/
theorem equality_laws (a b c : Message) :
    (a.equals a = true ↔ a.Consistent) ∧
      (a.equals b = true → (b.equals a = true ↔
        b.Consistent ∧ ∀ t ∈ b.tags, ∃ u ∈ a.tags, u.key = t.key)) ∧
      (a.equals b = true → b.equals c = true → a.equals c = true) ∧
      (a.KeysDistinct → a.equals a = true ∧ (a.equals b = true → b.equals a = true)) :=
  ⟨equals_self_iff a, equals_symm_iff, equals_trans,
    fun ha => ⟨equals_self ha, fun h => (equals_symm ha h).2⟩⟩

/-- A message that has one tag twice, one that has it beside another tag, and one that
    has these in the other order. -/
theorem equality_laws_repeated_tag :
    ∃ a b c : Message, a.tags = [⟨"k", none⟩, ⟨"k", none⟩] ∧ b.tags = [⟨"k", none⟩, ⟨"l", none⟩] ∧
      c.tags = [⟨"l", none⟩, ⟨"k", none⟩] ∧ a.equals a = true ∧ a.equals b = true ∧
      b.equals a = false ∧ b.equals c = true ∧ c.equals b = true ∧ a.equals c = true := by
  have hb : KeysDistinct ⟨[⟨"k", none⟩, ⟨"l", none⟩], none, "PING", []⟩ := by
    unfold KeysDistinct
    decide
  rcases equality_laws ⟨[⟨"k", none⟩, ⟨"k", none⟩], none, "PING", []⟩
    ⟨[⟨"k", none⟩, ⟨"l", none⟩], none, "PING", []⟩ ⟨[⟨"l", none⟩, ⟨"k", none⟩], none, "PING", []⟩
    with ⟨hself, hround, hpass, -⟩
  rcases equality_laws ⟨[⟨"k", none⟩, ⟨"l", none⟩], none, "PING", []⟩
    ⟨[⟨"l", none⟩, ⟨"k", none⟩], none, "PING", []⟩ ⟨[], none, "PING", []⟩ with ⟨-, -, -, hdistinct⟩
  have hab : equals ⟨[⟨"k", none⟩, ⟨"k", none⟩], none, "PING", []⟩
      ⟨[⟨"k", none⟩, ⟨"l", none⟩], none, "PING", []⟩ = true := by decide
  have hbc : equals ⟨[⟨"k", none⟩, ⟨"l", none⟩], none, "PING", []⟩
      ⟨[⟨"l", none⟩, ⟨"k", none⟩], none, "PING", []⟩ = true := by decide
  refine ⟨_, _, _, rfl, rfl, rfl, hself.2 (by decide), hab, ?_, hbc, (hdistinct hb).2 hbc,
    hpass hab hbc⟩
  -- The other tag is not among the keys of the message that repeats one.
  rw [← Bool.not_eq_true, hround hab]
  exact fun h => absurd (h.2 ⟨"l", none⟩ (by decide)) (by decide)

/-- A message with two values for a key is not equal to itself, and a message that has a
    tag twice is equal to one that has it beside another tag, but not the other way
    round. -/
theorem repeated_keys_break_equality :
    equals ⟨[⟨"k", some "1"⟩, ⟨"k", some "2"⟩], none, "PING", []⟩
        ⟨[⟨"k", some "1"⟩, ⟨"k", some "2"⟩], none, "PING", []⟩ = false ∧
      equals ⟨[⟨"k", none⟩, ⟨"k", none⟩], none, "PING", []⟩
        ⟨[⟨"k", none⟩, ⟨"l", none⟩], none, "PING", []⟩ = true ∧
      equals ⟨[⟨"k", none⟩, ⟨"l", none⟩], none, "PING", []⟩
        ⟨[⟨"k", none⟩, ⟨"k", none⟩], none, "PING", []⟩ = false := by
  decide

end Message

end IrcHarness
