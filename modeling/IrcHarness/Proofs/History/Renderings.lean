import IrcHarness.History.Record
import IrcHarness.Proofs.Json.Equality
import IrcHarness.Proofs.Json.Strings

/-!
# Renderings of Records

A record is shown in two ways, as a value to be matched and as a text to be kept, and both
say all of it. They treat what is missing differently: the value has `null` for it, and
the text leaves it out. But this is the only difference, since the text is read back as the
value without what is `null` (`read?_json`). No time and no identity is confused with
another one, since a text is never `null`, and no content can break the frame around it,
since it is escaped.

So two records have the same text, or the same value, exactly when they are the same
(`renderings_canonical`).

## Main definitions

* `Json.withoutNulls`: An object without what is `null`.
* `HistoryRecord.entries`: What there is of a record.

## Theorems

* `withoutNulls_value`: What the value of a record says.
* `read?_json`: What the text of a record says.
* `eq_of_entries`: What there is of a record says which record it is.
* `renderings_canonical`: Records and their renderings.
-/

namespace IrcHarness

namespace Json

/-- Whether a value is `null`. -/
def isNull : Json → Bool
  | .null => true
  | _ => false

/-- An object without the entries that are `null`, and any other value as it is. -/
def withoutNulls : Json → Json
  | .object fields => .object (fields.filter fun e => !e.2.isNull)
  | v => v

/-- Entries with distinct keys may be left out before they make an object. -/
theorem withoutNulls_ofFields {entries : List (String × Json)}
    (hd : (entries.map Prod.fst).Nodup) :
    (ofFields entries).withoutNulls = ofFields (entries.filter fun e => !e.2.isNull) :=
  congrArg Json.object (Fields.filter_ofList hd _)

end Json

namespace HistoryRecord

variable (r : HistoryRecord)

/-- What there is of a record, in the order of its text. -/
def entries : List (String × String) :=
  (r.time.map ("time", ·)).toList ++ (r.msgid.map ("msgid", ·)).toList ++
    [("target", r.target), ("text", r.text)]

theorem nodup_entries : ((Json.texts r.entries).map Prod.fst).Nodup := by
  rcases r with ⟨_ | time, _ | msgid, target, text⟩ <;> simp [Json.texts, entries]

/-- The value of a record is what there is of it, with `null` for what is missing. -/
theorem withoutNulls_value : r.value.withoutNulls = Json.ofFields (Json.texts r.entries) := by
  rw [value, Json.withoutNulls_ofFields (by simp)]
  rcases r with ⟨_ | time, _ | msgid, target, text⟩ <;> rfl

theorem json_eq : r.json = Json.write (.object (Json.texts r.entries)) := by
  rcases r with ⟨_ | time, _ | msgid, target, text⟩ <;>
    simp [json, optionalEntry, Json.write, Json.texts, entries, Json.writeChars,
      Json.writeFields]

/-- The text of a record is read back as its value without what is `null`. -/
theorem read?_json : Json.read? r.json = some r.value.withoutNulls := by
  rw [json_eq, Json.read?_write_texts, withoutNulls_value]

/-- What there is of a record stands under its keys. -/
theorem find?_entries :
    Fields.find? "time" (Json.texts r.entries) = r.time.map Json.string ∧
    Fields.find? "msgid" (Json.texts r.entries) = r.msgid.map Json.string ∧
    Fields.find? "target" (Json.texts r.entries) = some (.string r.target) ∧
    Fields.find? "text" (Json.texts r.entries) = some (.string r.text) := by
  rcases r with ⟨_ | time, _ | msgid, target, text⟩ <;>
    simp [Json.texts, entries, Fields.find?]

variable {r} {s : HistoryRecord}

/-- What there is of a record says which record it is. -/
theorem eq_of_entries
    (h : Json.ofFields (Json.texts r.entries) = Json.ofFields (Json.texts s.entries)) :
    r = s := by
  rw [Json.ofFields, Json.ofFields, Json.object.injEq] at h
  -- The same stands under each key, so the parts can be read off.
  have hfind := Fields.find?_eq_of_ofList_eq r.nodup_entries s.nodup_entries h
  rcases r.find?_entries with ⟨htime, hmsgid, htarget, htext⟩
  rcases s.find?_entries with ⟨htime', hmsgid', htarget', htext'⟩
  rw [hfind, htime'] at htime
  rw [hfind, hmsgid'] at hmsgid
  rw [hfind, htarget', Option.some.injEq, Json.string.injEq] at htarget
  rw [hfind, htext', Option.some.injEq, Json.string.injEq] at htext
  have hstring : Function.Injective Json.string := fun _ _ => Json.string.inj
  change (⟨r.time, r.msgid, r.target, r.text⟩ : HistoryRecord) = s
  rw [← Option.map_injective hstring htime, ← Option.map_injective hstring hmsgid, ← htarget,
    ← htext]

theorem json_injective : Function.Injective json := by
  intro r s h
  have hread := r.read?_json.symm.trans ((congrArg Json.read? h).trans s.read?_json)
  rw [Option.some.injEq, withoutNulls_value, withoutNulls_value] at hread
  exact eq_of_entries hread

theorem value_injective : Function.Injective value := by
  intro r s h
  have hleft := congrArg Json.withoutNulls h
  rw [withoutNulls_value, withoutNulls_value] at hleft
  exact eq_of_entries hleft

/-- There are no floats in the value of a record. -/
theorem exact_value (r : HistoryRecord) : r.value.Exact := by
  refine Json.exact_ofFields (List.forall_mem_cons.2 ⟨Json.exact_ofOption r.time, ?_⟩)
  refine List.forall_mem_cons.2 ⟨Json.exact_ofOption r.msgid, ?_⟩
  exact List.forall_mem_cons.2 ⟨.string r.target, List.forall_mem_singleton.2 (.string r.text)⟩

/-- Records are the same exactly when their texts are, exactly when their values are, and
    exactly when their values are equal. The text of a record says what its value says,
    without what is `null`. -/
theorem renderings_canonical :
    (∀ r s : HistoryRecord, (r = s ↔ r.json = s.json) ∧ (r = s ↔ r.value = s.value) ∧
      (r = s ↔ Json.same r.value s.value = true)) ∧
    ∀ r : HistoryRecord, Json.read? r.json = some r.value.withoutNulls := by
  refine ⟨fun r s => ?_, read?_json⟩
  rw [Json.same_iff_eq s.exact_value, json_injective.eq_iff, value_injective.eq_iff]
  exact ⟨Iff.rfl, Iff.rfl, Iff.rfl⟩

end HistoryRecord

end IrcHarness
