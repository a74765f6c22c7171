import IrcHarness.Proofs.Pattern.Refinement

/-!
# Values That Stand for Messages

Messages are not compared with patterns as they are, but through the values that stand
for them. For this to be right, the value has to say all that the message says and no
more. Messages with distinct keys have the same value exactly when they are equal
(`value_eq_iff`).

The two sides are written down in quite different ways. A message keeps its tags in a
list and looks them up one by one, and a value has them as an object, in the order of the
keys. The value also says some things twice, since the source is there as a text and
taken apart, and it leaves the source out when there is none. Neither adds anything: the
parts depend on the text alone, and a message without a source has no entry at all under
its key (`value_eq_iff_parts`).

So patterns cannot tell equal messages apart, and they can tell any others apart, because
a value can itself be made a pattern. There are no floats in these values, and without
them the literal is satisfied by the very same value only (`value_faithful`).

Distinct keys are needed. Under a key that stands twice the value keeps the last tag
only, while the message still has both.

## Theorems

* `exact_value`: No floats are in the value of a message.
* `value_eq_iff_parts`: The value of a message has its parts and nothing else.
* `value_eq_iff`: Messages have the same value when they are equal.
* `value_faithful`: Patterns tell messages apart exactly as far as equality does.
-/

namespace IrcHarness

namespace Message

theorem exact_tagsValue (tags : List Tag) : (tagsValue tags).Exact := by
  refine Json.exact_ofFields (List.forall_mem_map.2 fun t _ => ?_)
  exact Json.exact_ofOption t.value

/-- No floats are in the parts of a source. -/
theorem exact_sourceValue (s : Source) : (Json.ofFields s.fields).Exact := by
  refine Json.exact_ofFields (List.forall_mem_cons.2 ⟨Json.exact_ofOption s.nick, ?_⟩)
  exact List.forall_mem_cons.2
    ⟨Json.exact_ofOption s.user, List.forall_mem_singleton.2 (Json.exact_ofOption s.host)⟩

/-- No floats are in the value of a message. -/
theorem exact_value (m : Message) : m.value.Exact := by
  have hsource : ∀ e ∈ sourceEntries m.sourceParts?, e.2.Exact := by
    cases m.sourceParts? with
    | none => exact fun e he => absurd he List.not_mem_nil
    | some s =>
        exact List.forall_mem_cons.2
          ⟨.string s.raw, List.forall_mem_singleton.2 (exact_sourceValue s)⟩
  have hparams : (Json.array (m.params.map Json.string)).Exact :=
    .array (List.forall_mem_map.2 fun s _ => .string s)
  refine Json.exact_ofFields (List.forall_mem_append.2 ⟨?_, ?_⟩)
  · exact List.forall_mem_cons.2 ⟨exact_tagsValue m.tags, hsource⟩
  · exact List.forall_mem_cons.2 ⟨.string m.command, List.forall_mem_singleton.2 hparams⟩

variable {a b : Message}

/-- With distinct keys, the objects of tags are the same when the tags are, in any order. -/
theorem tagsValue_eq_iff (ha : a.KeysDistinct) (hb : b.KeysDistinct) :
    tagsValue a.tags = tagsValue b.tags ↔ a.tags.Perm b.tags := by
  rw [tagsValue, tagsValue, Json.ofFields, Json.ofFields, Json.object.injEq,
    Fields.ofList_eq_iff (by rw [List.map_map]; exact ha) (by rw [List.map_map]; exact hb),
    List.map_perm_map_iff tagEntry_injective]

/-- The value of a message has its tags, its source, its command and its parameters, and
    all that is in it depends on these. -/
theorem value_eq_iff_parts (a b : Message) :
    a.value = b.value ↔ a.command = b.command ∧ a.source = b.source ∧ a.params = b.params ∧
      tagsValue a.tags = tagsValue b.tags := by
  constructor
  · intro h
    rw [value_eq, value_eq, Json.ofFields, Json.ofFields, Json.object.injEq] at h
    -- The same stands under each key, so the parts can be read off.
    have hfind := Fields.find?_eq_of_ofList_eq a.nodup_fields b.nodup_fields h
    rcases a.find?_fields with ⟨htags, hsource, hcommand, hparams, -⟩
    rcases b.find?_fields with ⟨htags', hsource', hcommand', hparams', -⟩
    rw [hfind, htags', Option.some.injEq] at htags
    rw [hfind, hsource'] at hsource
    rw [hfind, hcommand', Option.some.injEq, Json.string.injEq] at hcommand
    rw [hfind, hparams', Option.some.injEq, Json.array.injEq] at hparams
    refine ⟨hcommand.symm, ?_, ?_, htags.symm⟩
    · exact Option.map_injective (fun _ _ => Json.string.inj) hsource.symm
    · exact List.map_injective_iff.2 (fun _ _ => Json.string.inj) hparams.symm
  · rintro ⟨hcommand, hsource, hparams, htags⟩
    rw [value, value, sourceParts?, sourceParts?, hcommand, hsource, hparams, htags]

/-- Messages with distinct keys have the same value when they are equal, and not
    otherwise. -/
theorem value_eq_iff (ha : a.KeysDistinct) (hb : b.KeysDistinct) :
    a.value = b.value ↔ a.equals b = true := by
  rw [value_eq_iff_parts, tagsValue_eq_iff ha hb, equals_iff_perm ha]

theorem accepts_literal_value_iff (a b : Message) :
    (Pattern.literal b.value).accepts a.value = true ↔ a.value = b.value := by
  rw [Pattern.accepts_iff, Pattern.semantics_satisfies.literal, Json.same_iff_eq b.exact_value]

/-- Messages with distinct keys have the same value, and equal values, exactly when they
    are equal as messages. The same patterns accept them exactly then, and the literal
    made of the value of one accepts the messages that are equal to it. -/
theorem value_faithful (ha : a.KeysDistinct) (hb : b.KeysDistinct) :
    (a.value = b.value ↔ a.equals b = true) ∧
      (Json.same a.value b.value = true ↔ a.equals b = true) ∧
      (a.equals b = true ↔ ∀ p : Pattern, p.accepts a.value = p.accepts b.value) ∧
      ((Pattern.literal b.value).accepts a.value = true ↔ a.equals b = true) := by
  rw [accepts_literal_value_iff, Json.same_iff_eq b.exact_value, ← value_eq_iff ha hb]
  refine ⟨Iff.rfl, Iff.rfl, ⟨fun h p => by rw [h], fun h => ?_⟩, Iff.rfl⟩
  -- The literal made of one value is among the patterns.
  rw [← accepts_literal_value_iff, h]
  exact (accepts_literal_value_iff b b).2 rfl

/-- Two messages that differ in the order of their tags, and one that has a value for a
    tag that they have without. -/
theorem value_faithful_reordered :
    ∃ a b c : Message, a = ⟨[⟨"bot", none⟩, ⟨"id", some "7"⟩], some "n!u@h", "PING", ["x"]⟩ ∧
      b = ⟨[⟨"id", some "7"⟩, ⟨"bot", none⟩], some "n!u@h", "PING", ["x"]⟩ ∧
      c = ⟨[⟨"bot", some ""⟩, ⟨"id", some "7"⟩], some "n!u@h", "PING", ["x"]⟩ ∧
      a.KeysDistinct ∧ b.KeysDistinct ∧ c.KeysDistinct ∧ a.value = b.value ∧
      (Pattern.literal b.value).accepts a.value = true ∧
      (Pattern.literal c.value).accepts a.value = false := by
  have ha : KeysDistinct ⟨[⟨"bot", none⟩, ⟨"id", some "7"⟩], some "n!u@h", "PING", ["x"]⟩ := by
    unfold KeysDistinct
    decide
  have hb : KeysDistinct ⟨[⟨"id", some "7"⟩, ⟨"bot", none⟩], some "n!u@h", "PING", ["x"]⟩ := by
    unfold KeysDistinct
    decide
  have hc : KeysDistinct ⟨[⟨"bot", some ""⟩, ⟨"id", some "7"⟩], some "n!u@h", "PING", ["x"]⟩ := by
    unfold KeysDistinct
    decide
  rcases value_faithful ha hb with ⟨hvalue, -, -, hliteral⟩
  rcases value_faithful ha hc with ⟨-, -, -, hother⟩
  refine ⟨_, _, _, rfl, rfl, rfl, ha, hb, hc, hvalue.2 (by decide), hliteral.2 (by decide), ?_⟩
  rw [← Bool.not_eq_true, hother]
  decide

end Message

end IrcHarness
