import IrcHarness.Proofs.Message.Equality
import IrcHarness.Proofs.Message.RoundTrip

/-!
# Messages That Survive the Wire

Which messages come back from their own line as equal messages. The answer has
three parts: `validate` accepts the message, its keys are distinct, and no
value holds a NUL (`survives_wire_iff`). Nothing is asked of how the message
came about, and the fields may hold anything.

That these are enough is the round trip. That they are needed takes no look at
how a malformed line happens to be cut: what comes back was read from a line,
so it has the three properties, and a message that equals it has the same tags
in some order and the same other parts, so it has them too.

`validate` promises more than it keeps, since it never looks at the values. A
message that it accepts goes out with a NUL in a value, and the receiver refuses
the line (`encode_survives_iff`, `encode_nul_value_unreadable`).

## Theorems

* `Readable.of_equals`: What equals a readable message is readable.
* `survives_wire_iff`: The messages that survive the wire.
* `encode_survives_iff`: What `validate` leaves open.
* `encode_nul_value_unreadable`: The smallest message that it lets down.
-/

namespace IrcHarness

namespace Message

/-- What equals a readable message is readable itself. -/
theorem Readable.of_equals {a b : Message} (h : a.Readable) (he : a.equals b = true) :
    b.Readable := by
  rcases (equals_iff_perm h.distinct b).1 he with ⟨hcommand, hsource, hparams, hperm⟩
  refine ⟨h.writable.of_perm hperm hsource hcommand hparams, h.distinct.of_perm hperm, ?_⟩
  intro t ht
  exact h.nulFree t (hperm.mem_iff.2 ht)

theorem equals_self {m : Message} (hd : m.KeysDistinct) : m.equals m = true :=
  (equals_iff_perm hd m).2 ⟨rfl, rfl, rfl, List.Perm.refl _⟩

/-- A message comes back from its line as an equal message exactly when
    `validate` accepts it, its keys are distinct and no value holds a NUL. -/
theorem survives_wire_iff (m : Message) :
    (∃ back, parse m.render = .ok back ∧ back.equals m = true) ↔
      m.validate = .ok () ∧ m.KeysDistinct ∧ m.NulFree := by
  constructor
  · rintro ⟨back, hback, he⟩
    -- What came back was read, and that carries over to what it equals.
    have hreadable := (readable_of_parse hback).of_equals he
    exact ⟨(validate_eq_ok_iff m).2 hreadable.writable, hreadable.distinct, hreadable.nulFree⟩
  · rintro ⟨hvalid, hd, hn⟩
    have hreadable : m.Readable := ⟨(validate_eq_ok_iff m).1 hvalid, hd, hn⟩
    exact ⟨m, parse_render hreadable, equals_self hd⟩

/-- A message with distinct keys that `validate` accepts is written, and what is
    written comes back as an equal message exactly when no value holds a NUL.
    It is the very same message then, and otherwise the line is refused. -/
theorem encode_survives_iff {m : Message} (hd : m.KeysDistinct) (hvalid : m.validate = .ok ()) :
    ∃ line, m.encode = .ok line ∧
      ((∃ back, parse line = .ok back ∧ back.equals m = true) ↔ m.NulFree) ∧
      (m.NulFree → parse line = .ok m) ∧
      (¬ m.NulFree → ∃ position, parse line = .error (.illegalCharacter 0 position)) := by
  have hw := (validate_eq_ok_iff m).1 hvalid
  have hback : m.NulFree → parse m.render = .ok m := fun hn => parse_render ⟨hw, hd, hn⟩
  refine ⟨m.render, ?_, ⟨?_, fun hn => ⟨m, hback hn, equals_self hd⟩⟩, hback,
    parse_render_of_nul hw⟩
  · rw [encode, hvalid]
  · rintro ⟨back, hok, he⟩
    exact ((readable_of_parse hok).of_equals he).nulFree

/-- A message with two tags, one of them with a value that needs escapes, a
    source and a trailing parameter that needs its colon. -/
theorem encode_survives_iff_escapes :
    ∃ line, Message.encode ⟨[⟨"k", some "a;b c"⟩, ⟨"l", none⟩], some "src", "CMD", ["p", ""]⟩
        = .ok line ∧
      parse line = .ok ⟨[⟨"k", some "a;b c"⟩, ⟨"l", none⟩], some "src", "CMD", ["p", ""]⟩ := by
  have hn : Message.NulFree ⟨[⟨"k", some "a;b c"⟩, ⟨"l", none⟩], some "src", "CMD", ["p", ""]⟩ := by
    intro t ht v hv
    rcases List.mem_cons.1 ht with rfl | ht
    · rw [← Option.some.inj hv]
      decide
    · rw [List.mem_singleton.1 ht] at hv
      exact absurd hv.symm (Option.some_ne_none v)
  rcases encode_survives_iff
    (m := ⟨[⟨"k", some "a;b c"⟩, ⟨"l", none⟩], some "src", "CMD", ["p", ""]⟩)
    (by unfold KeysDistinct; decide) (by cbv) with ⟨line, hline, _, hback, _⟩
  exact ⟨line, hline, hback hn⟩

/-- `validate` accepts a message with a NUL in a value, `encode` writes it, and
    its line is no message. -/
theorem encode_nul_value_unreadable :
    KeysDistinct ⟨[⟨"a", some "\x00"⟩], none, "PING", []⟩ ∧
      validate ⟨[⟨"a", some "\x00"⟩], none, "PING", []⟩ = .ok () ∧
      encode ⟨[⟨"a", some "\x00"⟩], none, "PING", []⟩ = .ok "@a=\x00 PING\r\n" ∧
      parse "@a=\x00 PING\r\n" = .error (.illegalCharacter 0 3) := by
  refine ⟨by unfold KeysDistinct; decide, by cbv, by cbv, by cbv⟩

end Message

end IrcHarness
