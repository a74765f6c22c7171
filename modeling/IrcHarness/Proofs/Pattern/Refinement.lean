import IrcHarness.Proofs.Json.Equality
import IrcHarness.Proofs.Message.Equality
import IrcHarness.Proofs.Pattern.MessageFields

/-!
# Messages as Patterns

A message can be given where a pattern is asked for, and then it stands for the
messages that say at least as much: the same command and the same parameters, the
same source if it has one, and each of its tags with the same value
(`matches_iff_extends`). A tag without a value is matched by a tag without a value
only, and a tag that is missing matches nothing.

On both sides the message becomes something else first, a pattern on one side and a
value on the other. The two agree on how a missing value is written, and on distinct
keys an object has exactly the tags that it was made of.

So matching is an order. Every message matches itself, what matches a message matches
everything that this one matches, and two messages that match each other are equal as
messages, whatever the order of their tags (`matching_is_order`).

## Main definitions

* `Message.Matches`: A message matches the pattern that another one makes.
* `Message.Extends`: A message says at least as much as another one.

## Theorems

* `satisfies_params_iff`: Parameters are asked for one by one.
* `satisfies_tags_iff`: Tags are asked for by key and value.
* `matches_iff_extends`: Matching a message is saying as much.
* `matching_is_order`: Matching is an order, up to equality of messages.
-/

namespace IrcHarness

namespace Json

theorem ofOption_injective : Function.Injective ofOption := by
  intro a b h
  cases a with
  | none =>
      cases b with
      | none => rfl
      | some t => cases h
  | some s =>
      cases b with
      | none => cases h
      | some t => rw [string.inj h]

end Json

theorem Message.tagEntry_injective :
    Function.Injective fun t : Tag => (t.key, Json.ofOption t.value) := by
  rintro ⟨key, value⟩ ⟨key', value'⟩ h
  rw [Prod.mk.injEq] at h
  rw [Tag.mk.injEq]
  exact ⟨h.1, Json.ofOption_injective h.2⟩

namespace Pattern

theorem asks_some_iff (p : Pattern) (value : Option Json) :
    Asks (some p) value ↔ Satisfies value p :=
  ⟨fun h => h p rfl, fun h _ hp => Option.some.inj hp ▸ h⟩

theorem satisfies_literal_iff (value : Option Json) (v : Json) :
    Satisfies value (.literal v) ↔ ∃ w, value = some w ∧ Json.same w v = true := by
  rw [Satisfies]

theorem satisfies_text_iff (value : Option Json) (s : String) :
    Satisfies value (text s) ↔ value = some (.string s) := by
  rw [text, satisfies_literal_iff]
  simp only [Json.same_iff_eq (.string s), exists_eq_right]

/-- Exactly these parameters are asked for. -/
theorem satisfies_params_iff (params expected : List String) :
    Satisfies (some (.array (params.map Json.string))) (closedList (expected.map text)) ↔
      params = expected := by
  rw [satisfies_closedList_iff]
  simp only [Option.some.injEq, Json.array.injEq, exists_eq_left', List.forall₂_map_left_iff,
    List.forall₂_map_right_iff, satisfies_text_iff, Json.string.injEq,
    List.forall₂_eq_eq_eq]

/-- Tags are asked for by key and value, a missing value as well. -/
theorem satisfies_tags_iff {tags expected : List Tag} (htags : (tags.map Tag.key).Nodup)
    (hexpected : (expected.map Tag.key).Nodup) :
    Satisfies (some (Message.tagsValue tags))
        (openMap (expected.map fun t => (t.key, .literal (Json.ofOption t.value)))) ↔
      ∀ t ∈ expected, t ∈ tags := by
  have hfields : ((tags.map fun t => (t.key, Json.ofOption t.value)).map Prod.fst).Nodup := by
    rw [List.map_map]
    exact htags
  rw [Message.tagsValue, satisfies_openMap_iff (by rw [List.map_map]; exact hexpected) hfields,
    List.forall_mem_map]
  refine forall₂_congr fun t _ => ?_
  rw [satisfies_literal_iff]
  simp only [Fields.find?_eq_some_iff hfields, Json.same_iff_eq (Json.exact_ofOption t.value),
    exists_eq_right]
  exact List.mem_map_of_injective Message.tagEntry_injective

end Pattern

namespace Message

/-- A message matches the pattern that another one makes. -/
def Matches (m expected : Message) : Prop :=
  (MessagePattern.ofMessage expected).toPattern.accepts m.value = true

/-- A message says at least as much as another one. -/
structure Extends (m expected : Message) : Prop where
  /-- The command is the same. -/
  command : m.command = expected.command
  /-- The parameters are the same. -/
  params : m.params = expected.params
  /-- The source is the same, unless none is asked for. -/
  source : expected.source = none ∨ m.source = expected.source
  /-- Every tag that is asked for is there, with the same value or without one. -/
  tags : ∀ t ∈ expected.tags, t ∈ m.tags

variable {a b c : Message}

/-- The pattern that a message makes, field by field. -/
theorem ofMessage_eq (m : Message) : MessagePattern.ofMessage m =
    { command := some (.text m.command)
      params := some (.closedList (m.params.map Pattern.text))
      source := m.source.map Pattern.text
      tags := if m.tags = [] then none else
        some (.openMap (m.tags.map fun t => (t.key, .literal (Json.ofOption t.value)))) } := by
  unfold MessagePattern.ofMessage
  split <;> rfl

theorem asks_command_iff :
    Pattern.Asks (MessagePattern.ofMessage b).command (some (.string a.command)) ↔
      a.command = b.command := by
  rw [ofMessage_eq, Pattern.asks_some_iff, Pattern.satisfies_text_iff, Option.some.injEq,
    Json.string.injEq]

theorem asks_params_iff :
    Pattern.Asks (MessagePattern.ofMessage b).params (some (.array (a.params.map Json.string))) ↔
      a.params = b.params := by
  rw [ofMessage_eq, Pattern.asks_some_iff, Pattern.satisfies_params_iff]

/-- A source is asked for when the message has one. -/
theorem asks_source_iff :
    Pattern.Asks (MessagePattern.ofMessage b).source (a.source.map Json.string) ↔
      b.source = none ∨ a.source = b.source := by
  rw [ofMessage_eq]
  dsimp only
  cases b.source with
  | none => exact iff_of_true (fun p hp => nomatch hp) (.inl rfl)
  | some s =>
      rw [Option.map_some, Pattern.asks_some_iff, Pattern.satisfies_text_iff,
        or_iff_right (Option.some_ne_none s), Option.map_eq_some_iff]
      simp only [Json.string.injEq, exists_eq_right]

/-- Tags are asked for when the message has some. -/
theorem asks_tags_iff (ha : a.KeysDistinct) (hb : b.KeysDistinct) :
    Pattern.Asks (MessagePattern.ofMessage b).tags (some (tagsValue a.tags)) ↔
      ∀ t ∈ b.tags, t ∈ a.tags := by
  rw [ofMessage_eq]
  dsimp only
  split
  · next hnone =>
      rw [hnone]
      exact iff_of_true (fun p hp => nomatch hp) fun t ht => absurd ht List.not_mem_nil
  · rw [Pattern.asks_some_iff, Pattern.satisfies_tags_iff ha hb]

/-- Nothing is asked of the parts of the source by themselves. -/
theorem parts_ofMessage :
    ∀ f ∈ [MessagePattern.Field.nick, .user, .host],
      ∀ p ∈ (MessagePattern.ofMessage b).get f, p = .wildcard := by
  rw [ofMessage_eq]
  simp [MessagePattern.get]

/-- A message matches the pattern of another one exactly when it says at least as
    much. -/
theorem matches_iff_extends (ha : a.KeysDistinct) (hb : b.KeysDistinct) :
    a.Matches b ↔ a.Extends b := by
  rw [Matches, MessagePattern.accepts_toPattern_iff]
  constructor
  · intro h
    exact ⟨asks_command_iff.1 h.command, asks_params_iff.1 h.params, asks_source_iff.1 h.source,
      (asks_tags_iff ha hb).1 h.tags⟩
  · intro h
    exact ⟨asks_command_iff.2 h.command, asks_params_iff.2 h.params, (asks_tags_iff ha hb).2 h.tags,
      asks_source_iff.2 h.source, .inl parts_ofMessage⟩

theorem Extends.refl (m : Message) : m.Extends m :=
  ⟨rfl, rfl, .inr rfl, fun _ h => h⟩

theorem Extends.trans (hab : a.Extends b) (hbc : b.Extends c) : a.Extends c := by
  refine ⟨hab.command.trans hbc.command, hab.params.trans hbc.params, ?_,
    fun t ht => hab.tags t (hbc.tags t ht)⟩
  rcases hbc.source with hnone | hsame
  · exact .inl hnone
  · rw [← hsame]
    exact hab.source

/-- Messages that say as much as each other are equal. -/
theorem extends_antisymm_iff (ha : a.KeysDistinct) (hb : b.KeysDistinct) :
    a.Extends b ∧ b.Extends a ↔ a.equals b = true := by
  rw [equals_iff_perm ha]
  constructor
  · rintro ⟨hab, hba⟩
    refine ⟨hab.command, ?_, hab.params, ?_⟩
    · rcases hab.source with hnone | hsame
      · rcases hba.source with hnone' | hsame
        · rw [hnone, hnone']
        · exact hsame.symm
      · exact hsame
    · have hfront := (List.Nodup.of_map Tag.key ha).subperm hba.tags
      exact hfront.antisymm ((List.Nodup.of_map Tag.key hb).subperm hab.tags)
  · rintro ⟨hcommand, hsource, hparams, hperm⟩
    exact ⟨⟨hcommand, hparams, .inr hsource, fun t => hperm.mem_iff.2⟩,
      ⟨hcommand.symm, hparams.symm, .inr hsource.symm, fun t => hperm.mem_iff.1⟩⟩

/-- A message matches another one exactly when it has the same command and the same
    parameters, the same source if the other one has one, and each tag of the other one
    with the same value. Every message matches itself, a message matches what is
    matched by one that it matches, and two messages that match each other are those
    that are equal. -/
theorem matching_is_order (ha : a.KeysDistinct) (hb : b.KeysDistinct) (hc : c.KeysDistinct) :
    (a.Matches b ↔ a.command = b.command ∧ a.params = b.params ∧
        (b.source = none ∨ a.source = b.source) ∧ ∀ t ∈ b.tags, t ∈ a.tags) ∧
      a.Matches a ∧ (a.Matches b → b.Matches c → a.Matches c) ∧
      (a.Matches b ∧ b.Matches a ↔ a.equals b = true) := by
  rw [matches_iff_extends ha hb, matches_iff_extends ha ha, matches_iff_extends hb hc,
    matches_iff_extends ha hc, matches_iff_extends hb ha]
  refine ⟨?_, Extends.refl a, Extends.trans, extends_antisymm_iff ha hb⟩
  exact ⟨fun h => ⟨h.command, h.params, h.source, h.tags⟩, fun ⟨h, hp, hs, ht⟩ => ⟨h, hp, hs, ht⟩⟩

/-- Two messages that differ in the order of their tags, one of which has no value, and
    a third one that says less. -/
theorem matching_is_order_fewer_tags :
    ∃ a b c : Message, a = ⟨[⟨"bot", none⟩, ⟨"id", some "7"⟩], some "srv", "PING", ["x"]⟩ ∧
      b = ⟨[⟨"id", some "7"⟩, ⟨"bot", none⟩], some "srv", "PING", ["x"]⟩ ∧
      c = ⟨[⟨"bot", none⟩], none, "PING", ["x"]⟩ ∧
      a.KeysDistinct ∧ b.KeysDistinct ∧ c.KeysDistinct ∧
      a.Matches b ∧ b.Matches a ∧ b.Matches c ∧ a.Matches c ∧ ¬c.Matches a := by
  have ha : KeysDistinct ⟨[⟨"bot", none⟩, ⟨"id", some "7"⟩], some "srv", "PING", ["x"]⟩ := by
    unfold KeysDistinct
    decide
  have hb : KeysDistinct ⟨[⟨"id", some "7"⟩, ⟨"bot", none⟩], some "srv", "PING", ["x"]⟩ := by
    unfold KeysDistinct
    decide
  have hc : KeysDistinct ⟨[⟨"bot", none⟩], none, "PING", ["x"]⟩ := by
    unfold KeysDistinct
    decide
  rcases matching_is_order ha hb hc with ⟨-, -, htrans, hequal⟩
  rcases hequal.2 (by decide) with ⟨hab, hba⟩
  have hbc := (matching_is_order hb hc hc).1.2 ⟨rfl, rfl, .inl rfl, by decide⟩
  refine ⟨_, _, _, rfl, rfl, rfl, ha, hb, hc, hab, hba, hbc, htrans hab hbc, fun hca => ?_⟩
  -- The message that says less lacks a tag of the other one.
  exact absurd ((matching_is_order hc ha ha).1.1 hca).2.2.2 (by decide)

end Message

end IrcHarness
