import IrcHarness.Message.Printer
import Mathlib

/-!
# Writable Messages

What `validate` asks of a message, part by part. `validate` walks through the
parts in writing order and reports the first that is wrong; here stands what
is left when none is, without an order and without a report, so that later
proofs need not walk again.

`validate` says nothing about the values of tags. Almost every character of a
value has a spelling on the wire, and the one that has none, the NUL, is the
subject of `NulFree`.

## Main definitions

* `Tag.Writable`: A tag whose key stands on the wire as it is.
* `Tag.NulFree`, `Message.NulFree`: No value holds a NUL.
* `Message.WritableParams`: Parameters that can be told apart again.
* `Message.Writable`: All parts of a message can be told apart again.

## Theorems

* `validateParams_eq_ok_iff`: The check of the parameters is exact.
* `validate_eq_ok_iff`: `validate` accepts exactly the writable messages.
* `Writable.of_perm`: The order of the tags makes no difference.
-/

namespace IrcHarness

/-- A key that stands on the wire as it is. -/
def Tag.Writable (t : Tag) : Prop :=
  Message.isWritableKey t.key.toList = true

/-- A value without a NUL, or none. -/
def Tag.NulFree (t : Tag) : Prop :=
  ∀ value, t.value = some value → '\x00' ∉ value.toList

namespace Message

/-- No tag value holds a NUL. -/
def NulFree (m : Message) : Prop :=
  ∀ t ∈ m.tags, t.NulFree

/-- Parameters that stay on one line, and of which all but the last are words. -/
structure WritableParams (params : List (List Char)) : Prop where
  /-- No parameter breaks the line. -/
  oneLine : ∀ p ∈ params, ∀ c ∈ p, isLineBreaker c = false
  /-- No parameter in front of the last one needs a colon. -/
  words : ∀ p ∈ params.dropLast, needsColon p = false

/-- A message whose parts can be told apart on the wire. -/
structure Writable (m : Message) : Prop where
  /-- The keys stand as they are. -/
  tags : ∀ t ∈ m.tags, t.Writable
  /-- The source is a word. -/
  source : ∀ source, m.source = some source → isWritableSource source.toList = true
  /-- The command is a word that opens no other section. -/
  command : isWritableCommand m.command.toList = true
  /-- The parameters can be told apart. -/
  params : WritableParams (m.params.map String.toList)

theorem writableParams_nil : WritableParams [] :=
  ⟨fun _ h => absurd h List.not_mem_nil, fun _ h => absurd h List.not_mem_nil⟩

theorem writableParams_cons_iff (p : List Char) (ps : List (List Char)) :
    WritableParams (p :: ps) ↔
      (∀ c ∈ p, isLineBreaker c = false) ∧ (ps ≠ [] → needsColon p = false) ∧
        WritableParams ps := by
  cases ps with
  | nil =>
      constructor
      · intro h
        exact ⟨h.oneLine p List.mem_cons_self, fun hne => absurd rfl hne, writableParams_nil⟩
      · rintro ⟨hp, _, _⟩
        refine ⟨fun q hq => ?_, fun _ hq => absurd hq List.not_mem_nil⟩
        rw [List.mem_singleton.1 hq]
        exact hp
  | cons q qs =>
      -- There is a parameter behind, so this one has to be a word.
      rw [show ((q :: qs ≠ []) → needsColon p = false) ↔ needsColon p = false from
        ⟨fun h => h (List.cons_ne_nil q qs), fun h _ => h⟩]
      constructor
      · intro h
        have hwords := h.words
        rw [List.dropLast_cons_cons] at hwords
        exact ⟨h.oneLine p List.mem_cons_self, hwords p List.mem_cons_self,
          fun r hr => h.oneLine r (List.mem_cons_of_mem p hr),
          fun r hr => hwords r (List.mem_cons_of_mem p hr)⟩
      · rintro ⟨hline, hword, hrest⟩
        refine ⟨fun r hr => ?_, fun r hr => ?_⟩
        · rcases List.mem_cons.1 hr with rfl | hr
          · exact hline
          · exact hrest.oneLine r hr
        · rw [List.dropLast_cons_cons] at hr
          rcases List.mem_cons.1 hr with rfl | hr
          · exact hword
          · exact hrest.words r hr

theorem validateParams_eq_ok_iff (index : Nat) (params : List String) :
    validateParams index params = .ok () ↔ WritableParams (params.map String.toList) := by
  induction params generalizing index with
  | nil => exact ⟨fun _ => writableParams_nil, fun _ => rfl⟩
  | cons p ps ih =>
      rw [List.map_cons, writableParams_cons_iff, ← ih (index + 1), validateParams]
      have hline : p.toList.any isLineBreaker = false ↔
          ∀ c ∈ p.toList, isLineBreaker c = false := by
        simp only [List.any_eq_false, Bool.not_eq_true]
      have hmap : ps.map String.toList ≠ [] ↔ ps ≠ [] := by
        rw [Ne, List.map_eq_nil_iff]
      rw [hmap, ← hline]
      -- The two checks of one parameter, in the order in which they are made.
      by_cases hbreak : p.toList.any isLineBreaker = true
      · rw [if_pos hbreak, hbreak]
        constructor
        · intro h
          cases h
        · rintro ⟨h, _⟩
          exact absurd h.symm Bool.false_ne_true
      · rw [if_neg hbreak]
        by_cases hcolon : ps ≠ [] ∧ needsColon p.toList = true
        · rw [if_pos hcolon]
          constructor
          · intro h
            cases h
          · rintro ⟨_, h, _⟩
            rw [h hcolon.1] at hcolon
            exact absurd hcolon.2 Bool.false_ne_true
        · rw [if_neg hcolon]
          refine ⟨fun h => ⟨Bool.not_eq_true _ ▸ hbreak, fun hne => ?_, h⟩, fun h => h.2.2⟩
          rw [← Bool.not_eq_true]
          exact fun hp => hcolon ⟨hne, hp⟩

/-- `validate` accepts exactly the messages all of whose parts are writable. -/
theorem validate_eq_ok_iff (m : Message) : m.validate = .ok () ↔ m.Writable := by
  unfold validate
  -- Each check that fails shows a part that is not writable, and the next one
  -- is made when it does not.
  cases htags : m.tags.find? fun t => !isWritableKey t.key.toList with
  | some t =>
      have hbad := List.find?_some htags
      have hmem := List.mem_of_find?_eq_some htags
      constructor
      · intro h
        cases h
      · intro h
        rw [h.tags t hmem] at hbad
        exact absurd hbad Bool.false_ne_true
  | none =>
      have hkeys : ∀ t ∈ m.tags, t.Writable := by
        intro t ht
        have hgood := List.find?_eq_none.1 htags t ht
        rw [Bool.not_eq_true', Bool.not_eq_false] at hgood
        exact hgood
      cases hsource : m.source.filter fun s => !isWritableSource s.toList with
      | some s =>
          rw [Option.filter_eq_some_iff] at hsource
          constructor
          · intro h
            cases h
          · intro h
            rw [h.source s hsource.1] at hsource
            exact absurd hsource.2 Bool.false_ne_true
      | none =>
          have hsrc : ∀ s, m.source = some s → isWritableSource s.toList = true := by
            intro s hs
            have hgood := Option.filter_eq_none_iff.1 hsource s hs
            rw [Bool.not_eq_true', Bool.not_eq_false] at hgood
            exact hgood
          dsimp only
          by_cases hcommand : isWritableCommand m.command.toList = true
          · rw [if_pos hcommand, validateParams_eq_ok_iff]
            exact ⟨fun h => ⟨hkeys, hsrc, hcommand, h⟩, fun h => h.params⟩
          · rw [if_neg hcommand]
            constructor
            · intro h
              cases h
            · intro h
              exact absurd h.command hcommand

/-- Messages that differ in the order of their tags are writable together. -/
theorem Writable.of_perm {m n : Message} (h : m.Writable) (htags : m.tags.Perm n.tags)
    (hsource : m.source = n.source) (hcommand : m.command = n.command)
    (hparams : m.params = n.params) : n.Writable := by
  refine ⟨fun t ht => h.tags t (htags.mem_iff.2 ht), ?_, ?_, ?_⟩
  · rw [← hsource]
    exact h.source
  · rw [← hcommand]
    exact h.command
  · rw [← hparams]
    exact h.params

end Message

end IrcHarness
