import IrcHarness.Pattern.Message
import IrcHarness.Proofs.Pattern.Semantics

/-!
# Patterns for Messages, Field by Field

A pattern for messages has seven fields, and any of them may be left unset. It is
turned into a pattern for the values that stand for messages, an open map with an open
map inside for the parts of the source. What that accepts is the conjunction of what
the fields ask for (`satisfies_toPattern_iff`).

A field asks for nothing when it is not set, and nothing when it is the wildcard. For
the parts of the source this is no matter of course. The entry under which they stand
asks for there being a source, so it may only be there when some part asks for
something, and a message without a source passes exactly when none does.

## Main definitions

* `Pattern.Asks`: What a field that may not be set asks of a value.
* `MessagePattern.Field`: The fields of a pattern for messages.
* `MessagePattern.Fulfils`: What the fields ask of a message.

## Theorems

* `satisfies_openMap_iff`: An object has what an open map asks for, entry by entry.
* `find?_fields`: What stands under each key of the value of a message.
* `satisfies_toPattern_iff`: A pattern is the conjunction of its fields.
-/

namespace IrcHarness

namespace Pattern

/-- What a pattern asks of a value, if there is one. -/
def Asks (p? : Option Pattern) (value : Option Json) : Prop :=
  ∀ p ∈ p?, Satisfies value p

theorem Asks.mono {p? q? : Option Pattern} {value : Option Json} (h : Asks p? value)
    (hle : ∀ q ∈ q?, q = .wildcard ∨ q ∈ p?) : Asks q? value := by
  intro q hq
  rcases hle q hq with rfl | hp
  · exact semantics_satisfies.wildcard value
  · exact h q hp

/-- An object has what an open map asks for, entry by entry, when keys are not
    assigned twice. -/
theorem satisfies_openMap_iff {entries : List (String × Pattern)} {fields : List (String × Json)}
    (hentries : (entries.map Prod.fst).Nodup) (hfields : (fields.map Prod.fst).Nodup) :
    Satisfies (some (Json.ofFields fields)) (openMap entries) ↔
      ∀ e ∈ entries, Satisfies (Fields.find? e.1 fields) e.2 := by
  rw [openMap, satisfies_map_iff, Json.ofFields]
  simp only [Option.some.injEq, Json.object.injEq, exists_eq_left', Fields.find?_ofList hfields,
    (Fields.ofList_perm hentries).mem_iff, Bool.true_eq_false, false_implies, and_true]

end Pattern

namespace Source

/-- The fields of the value that stands for a source. -/
def fields (s : Source) : List (String × Json) :=
  [("nick", Json.ofOption s.nick), ("user", Json.ofOption s.user), ("host", Json.ofOption s.host)]

theorem nodup_fields (s : Source) : (s.fields.map Prod.fst).Nodup :=
  (by decide : ["nick", "user", "host"].Nodup)

theorem raw_ofText (text : String) : (ofText text).raw = text := by
  simp only [ofText]
  split
  · rfl
  · split <;> rfl

end Source

namespace Message

/-- The fields of the value that stands for a message. -/
def fields (m : Message) : List (String × Json) :=
  ("tags", tagsValue m.tags) :: sourceEntries m.sourceParts? ++ [
    ("command", .string m.command),
    ("params", .array (m.params.map Json.string))]

theorem value_eq (m : Message) : m.value = Json.ofFields m.fields := rfl

theorem nodup_fields (m : Message) : (m.fields.map Prod.fst).Nodup := by
  unfold fields
  cases m.sourceParts? with
  | none => exact (by decide : ["tags", "command", "params"].Nodup)
  | some s => exact (by decide : ["tags", "prefix", "source", "command", "params"].Nodup)

/-- What stands under each key of the value that stands for a message. -/
theorem find?_fields (m : Message) :
    Fields.find? "tags" m.fields = some (tagsValue m.tags) ∧
      Fields.find? "prefix" m.fields = m.source.map Json.string ∧
      Fields.find? "command" m.fields = some (.string m.command) ∧
      Fields.find? "params" m.fields = some (.array (m.params.map Json.string)) ∧
      Fields.find? "source" m.fields = m.sourceParts?.map fun s => Json.ofFields s.fields := by
  unfold fields sourceParts?
  cases m.source with
  | none => exact ⟨rfl, rfl, rfl, rfl, rfl⟩
  | some text =>
      refine ⟨rfl, ?_, rfl, rfl, rfl⟩
      exact congrArg (fun raw => some (Json.string raw)) (Source.raw_ofText text)

end Message

namespace MessagePattern

/-- The fields of a pattern for messages. -/
inductive Field where
  /-- The command. -/
  | command
  /-- The list of parameters. -/
  | params
  /-- The object of tags. -/
  | tags
  /-- The source as a whole. -/
  | source
  /-- The nickname of the source. -/
  | nick
  /-- The user name of the source. -/
  | user
  /-- The host of the source. -/
  | host
deriving DecidableEq, Repr

/-- What a field is set to. -/
def get (p : MessagePattern) : Field → Option Pattern
  | .command => p.command
  | .params => p.params
  | .tags => p.tags
  | .source => p.source
  | .nick => p.nick
  | .user => p.user
  | .host => p.host

/-- A message has what the fields of a pattern ask for. -/
structure Fulfils (field : Field → Option Pattern) (m : Message) : Prop where
  /-- The command. -/
  command : Pattern.Asks (field .command) (some (.string m.command))
  /-- The parameters. -/
  params : Pattern.Asks (field .params) (some (.array (m.params.map Json.string)))
  /-- The tags. -/
  tags : Pattern.Asks (field .tags) (some (Message.tagsValue m.tags))
  /-- The source, or its absence. -/
  source : Pattern.Asks (field .source) (m.source.map Json.string)
  /-- Nothing is asked of the parts of the source, or there is one that has them. A
      part that is missing is `null`. -/
  parts : (∀ f ∈ [Field.nick, .user, .host], ∀ p ∈ field f, p = .wildcard) ∨
    ∃ s, m.sourceParts? = some s ∧ Pattern.Asks (field .nick) (some (Json.ofOption s.nick)) ∧
      Pattern.Asks (field .user) (some (Json.ofOption s.user)) ∧
      Pattern.Asks (field .host) (some (Json.ofOption s.host))

/-- A message has what a pattern asks for that leaves fields out or sets them to the
    wildcard. -/
theorem Fulfils.mono {fields fields' : Field → Option Pattern} {m : Message} (h : Fulfils fields m)
    (hle : ∀ f, ∀ q ∈ fields' f, q = .wildcard ∨ q ∈ fields f) : Fulfils fields' m := by
  refine ⟨h.command.mono (hle _), h.params.mono (hle _), h.tags.mono (hle _),
    h.source.mono (hle _), ?_⟩
  rcases h.parts with hwild | ⟨s, hs, hnick, huser, hhost⟩
  · refine .inl fun f hf q hq => ?_
    rcases hle f q hq with hq | hq
    · exact hq
    · exact hwild f hf q hq
  · exact .inr ⟨s, hs, hnick.mono (hle _), huser.mono (hle _), hhost.mono (hle _)⟩

theorem forall_mem_entry (key : String) (p? : Option Pattern) {P : String × Pattern → Prop} :
    (∀ e ∈ entry key p?, P e) ↔ ∀ p ∈ p?, P (key, p) := by
  cases p? with
  | none => simp [entry]
  | some p => simp [entry]

theorem keys_entry_sublist (key : String) (p? : Option Pattern) :
    ((entry key p?).map Prod.fst).Sublist [key] := by
  cases p? with
  | none => exact List.nil_sublist _
  | some p => exact List.Sublist.refl _

theorem isWildcard_iff (p : Pattern) : p.isWildcard = true ↔ p = .wildcard := by
  cases p <;> simp [Pattern.isWildcard]

variable (p : MessagePattern)

theorem nodup_sourceParts : (p.sourceParts.map Prod.fst).Nodup := by
  have hall : (p.sourceParts.map Prod.fst).Sublist ["nick", "user", "host"] := by
    refine (List.filter_sublist.map Prod.fst).trans ?_
    rw [List.map_append, List.map_append]
    exact ((keys_entry_sublist "nick" p.nick).append (keys_entry_sublist "user" p.user)).append
      (keys_entry_sublist "host" p.host)
  exact hall.nodup (by decide)

/-- No part of the source is left exactly when each is unset or the wildcard. -/
theorem sourceParts_eq_nil_iff :
    p.sourceParts = [] ↔ ∀ f ∈ [Field.nick, .user, .host], ∀ q ∈ p.get f, q = .wildcard := by
  rw [sourceParts, List.filter_eq_nil_iff]
  simp only [Bool.not_eq_true, Bool.not_eq_false', isWildcard_iff, List.forall_mem_append,
    forall_mem_entry, List.forall_mem_cons, List.not_mem_nil, false_implies, implies_true, and_true,
    and_assoc, get]

/-- A source has the parts that are left exactly when it has all that are set, since
    only wildcards were left out. -/
theorem forall_mem_sourceParts (s : Source) :
    (∀ e ∈ p.sourceParts, Pattern.Satisfies (Fields.find? e.1 s.fields) e.2) ↔
      Pattern.Asks p.nick (some (Json.ofOption s.nick)) ∧
        Pattern.Asks p.user (some (Json.ofOption s.user)) ∧
        Pattern.Asks p.host (some (Json.ofOption s.host)) := by
  have hwild : ∀ e : String × Pattern, ((!e.2.isWildcard) = true →
      Pattern.Satisfies (Fields.find? e.1 s.fields) e.2) ↔
      Pattern.Satisfies (Fields.find? e.1 s.fields) e.2 := by
    intro e
    refine ⟨fun h => ?_, fun h _ => h⟩
    cases hw : e.2.isWildcard with
    | true =>
        rw [(isWildcard_iff e.2).1 hw]
        exact Pattern.semantics_satisfies.wildcard _
    | false => exact h (by rw [hw]; rfl)
  rw [sourceParts, List.forall_mem_filter]
  simp only [hwild, List.forall_mem_append, forall_mem_entry, and_assoc]
  rfl

/-- The entry for the parts of the source, if some part is left. -/
def sourceEntry : List (String × Pattern) :=
  if p.sourceParts = [] then [] else [("source", .openMap p.sourceParts)]

/-- The entries of the pattern for the values that stand for messages. -/
def entries : List (String × Pattern) :=
  entry "tags" p.tags ++ entry "prefix" p.source ++ entry "command" p.command ++
    entry "params" p.params ++ p.sourceEntry

theorem toPattern_eq : p.toPattern = .openMap p.entries := rfl

theorem nodup_entries : (p.entries.map Prod.fst).Nodup := by
  have hsource : (p.sourceEntry.map Prod.fst).Sublist ["source"] := by
    unfold sourceEntry
    split
    · exact List.nil_sublist _
    · exact List.Sublist.refl _
  have hall : (p.entries.map Prod.fst).Sublist
      (["tags"] ++ ["prefix"] ++ ["command"] ++ ["params"] ++ ["source"]) := by
    simp only [entries, List.map_append]
    refine List.Sublist.append ?_ hsource
    refine List.Sublist.append ?_ (keys_entry_sublist "params" p.params)
    refine List.Sublist.append ?_ (keys_entry_sublist "command" p.command)
    exact (keys_entry_sublist "tags" p.tags).append (keys_entry_sublist "prefix" p.source)
  exact hall.nodup (by decide)

/-- The entry for the parts of the source asks for nothing when no part does, and for
    a source that has the parts otherwise. -/
theorem forall_mem_sourceEntry (m : Message) :
    (∀ e ∈ p.sourceEntry, Pattern.Satisfies (Fields.find? e.1 m.fields) e.2) ↔
      (∀ f ∈ [Field.nick, .user, .host], ∀ q ∈ p.get f, q = .wildcard) ∨
        ∃ s, m.sourceParts? = some s ∧ Pattern.Asks p.nick (some (Json.ofOption s.nick)) ∧
          Pattern.Asks p.user (some (Json.ofOption s.user)) ∧
          Pattern.Asks p.host (some (Json.ofOption s.host)) := by
  rcases m.find?_fields with ⟨-, -, -, -, hsource⟩
  rw [← p.sourceParts_eq_nil_iff, sourceEntry]
  split
  · next hnone => exact iff_of_true (fun e he => absurd he List.not_mem_nil) (.inl hnone)
  · next hsome =>
      rw [or_iff_right hsome, List.forall_mem_singleton, hsource]
      cases m.sourceParts? with
      | none =>
          refine iff_of_false (fun h => ?_) (by rintro ⟨s, hs, -⟩; cases hs)
          exact Pattern.noConfusion (Pattern.eq_wildcard_of_satisfies_none h)
      | some s =>
          rw [Option.map_some, Pattern.satisfies_openMap_iff p.nodup_sourceParts s.nodup_fields,
            p.forall_mem_sourceParts]
          exact ⟨fun h => ⟨s, rfl, h⟩, fun ⟨_, hs, h⟩ => Option.some.inj hs ▸ h⟩

/-- What a pattern for messages accepts is the conjunction of its fields. -/
theorem satisfies_toPattern_iff (m : Message) :
    Pattern.Satisfies (some m.value) p.toPattern ↔ Fulfils p.get m := by
  rcases m.find?_fields with ⟨htags, hprefix, hcommand, hparams, -⟩
  rw [m.value_eq, toPattern_eq, Pattern.satisfies_openMap_iff p.nodup_entries m.nodup_fields]
  unfold entries
  simp only [List.forall_mem_append, forall_mem_entry, forall_mem_sourceEntry, htags, hprefix,
    hcommand, hparams]
  constructor
  · rintro ⟨⟨⟨⟨ht, hs⟩, hc⟩, hp⟩, hparts⟩
    exact ⟨hc, hp, ht, hs, hparts⟩
  · rintro ⟨hc, hp, ht, hs, hparts⟩
    exact ⟨⟨⟨⟨ht, hs⟩, hc⟩, hp⟩, hparts⟩

theorem accepts_toPattern_iff (m : Message) :
    p.toPattern.accepts m.value = true ↔ Fulfils p.get m := by
  rw [Pattern.accepts_iff, satisfies_toPattern_iff]

end MessagePattern

end IrcHarness
