import IrcHarness.History.Record
import IrcHarness.Proofs.Message.Equality
import IrcHarness.Proofs.Message.RoundTrip

/-!
# Copies of a Message

One message reaches a client on several paths, and each path may change what
only belongs to the path: it sets tags of its own, a batch or a label, puts the
tags in another order, and fills in another source or command. The time, the
identity and the parameters it leaves alone.

A record is made of these three, so all copies make the same record
(`Copy.reduce_eq`). A copy has to travel as well. Its line escapes the values of
the tags and decides anew whether the last parameter needs a colon, and reading
undoes both, so what arrives is the copy that was sent. It makes the record of
the message that all copies are copies of (`copies_reduce_alike`).

The keys of the tags have to be distinct, or another order would bring another
tag to the front. They are in every message that was read from a line, and what a
path does to a message keeps them so.

## Main definitions

* `Message.Copy`: What becomes of a message on some path.

## Theorems

* `Copy.distinct`: The keys of a copy are distinct.
* `Copy.tag?_eq`: A copy has the same time and the same identity.
* `Copy.reduce_eq`: All copies make the same record.
* `copies_reduce_alike`: So do the copies that have travelled.
-/

namespace IrcHarness

namespace Message

/-- What becomes of a message on some path, by any number of changes. -/
inductive Copy (m : Message) : Message → Prop where
  /-- Nothing is changed. -/
  | itself : Copy m m
  /-- A tag is set that is neither the time nor the identity. -/
  | setTag {copy : Message} (h : Copy m copy) {key : String} (htime : key ≠ "time")
      (hmsgid : key ≠ "msgid") (value : Option String) : Copy m (copy.setTag key value)
  /-- The tags come in another order. -/
  | reorder {copy : Message} (h : Copy m copy) {tags : List Tag} (hperm : copy.tags.Perm tags) :
      Copy m { copy with tags }
  /-- The source and the command are other ones. -/
  | readdress {copy : Message} (h : Copy m copy) (source : Option String) (command : String) :
      Copy m { copy with source, command }

variable {m copy : Message}

/-- The keys of a copy are distinct when those of the message are. -/
theorem Copy.distinct (h : m.Copy copy) (hd : m.KeysDistinct) : copy.KeysDistinct := by
  induction h with
  | itself => exact hd
  | setTag h htime hmsgid value ih => exact Tags.nodup_keys_set _ _ value ih
  | reorder h hperm ih => exact ih.of_perm hperm
  | readdress h source command ih => exact ih

/-- A copy has the parameters of the message. -/
theorem Copy.params_eq (h : m.Copy copy) : copy.params = m.params := by
  induction h with
  | itself => rfl
  | setTag h htime hmsgid value ih => exact ih
  | reorder h hperm ih => exact ih
  | readdress h source command ih => exact ih

/-- A copy has the same time and the same identity as the message. -/
theorem Copy.tag?_eq (h : m.Copy copy) (hd : m.KeysDistinct) {key : String}
    (hkey : key = "time" ∨ key = "msgid") : copy.tag? key = m.tag? key := by
  induction h with
  | itself => rfl
  | setTag h htime hmsgid value ih =>
      rw [← ih]
      refine Tags.find?_set_of_ne _ _ key value ?_
      rcases hkey with rfl | rfl
      · exact htime.symm
      · exact hmsgid.symm
  | reorder h hperm ih =>
      -- Another order finds the same tag, since there is only one with the key.
      rw [← ih]
      exact (Tags.find?_of_perm (h.distinct hd) hperm key).symm
  | readdress h source command ih => exact ih

end Message

namespace HistoryRecord

open Message (Copy)

variable {m copy : Message}

/-- A message with at least two parameters makes a record of the time, the
    identity, and the first and the last parameter. -/
theorem reduce_of_params {target last : String} {between : List String}
    (h : m.params = target :: (between ++ [last])) :
    reduce m = .ok ⟨m.serverTime?, m.msgid?, target, last⟩ := by
  unfold reduce
  rw [h]
  cases between with
  | nil => rfl
  | cons second rest =>
      have hlast : (second :: (rest ++ [last])).getLast (List.cons_ne_nil _ _) = last :=
        List.getLast_concat (l := second :: rest)
      simp only [List.cons_append, hlast]

theorem exists_params (h : 2 ≤ m.params.length) :
    ∃ target between last, m.params = target :: (between ++ [last]) := by
  match hparams : m.params with
  | [] => simp [hparams] at h
  | [_] => simp [hparams] at h
  | target :: second :: rest =>
      refine ⟨target, (second :: rest).dropLast,
        (second :: rest).getLast (List.cons_ne_nil _ _), ?_⟩
      rw [List.dropLast_append_getLast]

/-- All copies of a message make the record that the message makes. -/
theorem Copy.reduce_eq (h : m.Copy copy) (hd : m.KeysDistinct) (hparams : 2 ≤ m.params.length) :
    ∃ record, reduce copy = .ok record ∧ reduce m = .ok record := by
  rcases exists_params hparams with ⟨target, between, last, hsplit⟩
  have htime : copy.serverTime? = m.serverTime? :=
    congrArg (·.bind Tag.value) (h.tag?_eq hd (.inl rfl))
  have hmsgid : copy.msgid? = m.msgid? :=
    congrArg (·.bind Tag.value) (h.tag?_eq hd (.inr rfl))
  refine ⟨_, ?_, reduce_of_params hsplit⟩
  rw [reduce_of_params (h.params_eq.trans hsplit), htime, hmsgid]

/-- Every copy of a message that was read from a line goes out as a line when
    `validate` accepts it and no value holds a NUL, and what is read from that
    line makes the record that the message makes. -/
theorem copies_reduce_alike {line : String} (hread : Message.parse line = .ok m)
    (hparams : 2 ≤ m.params.length) (hcopy : m.Copy copy) (hvalid : copy.validate = .ok ())
    (hnul : copy.NulFree) :
    ∃ text back record, copy.encode = .ok text ∧ Message.parse text = .ok back ∧
      reduce back = .ok record ∧ reduce m = .ok record := by
  have hd := (Message.readable_of_parse hread).distinct
  have hreadable : copy.Readable :=
    ⟨(Message.validate_eq_ok_iff copy).1 hvalid, hcopy.distinct hd, hnul⟩
  rcases Copy.reduce_eq hcopy hd hparams with ⟨record, hrecord, hsame⟩
  refine ⟨copy.render, copy, record, ?_, Message.parse_render hreadable, hrecord, hsame⟩
  rw [Message.encode, hvalid]

/-- A message with a trailing parameter that starts with a colon. On its way it
    gets a batch with a blank in its name and a valueless mark, its tags change
    places, and it becomes a notice of a server. -/
theorem copies_reduce_alike_playback :
    ∃ text back, Message.encode ⟨[⟨"vendor/mark", none⟩, ⟨"batch", some "a b"⟩, ⟨"msgid", some "7"⟩,
        ⟨"time", some "T"⟩], some "srv", "NOTICE", ["#c", ":hi there"]⟩ = .ok text ∧
      Message.parse text = .ok back ∧ reduce back = .ok ⟨some "T", some "7", "#c", ":hi there"⟩ := by
  have hread : Message.parse "@time=T;msgid=7 :nick!u@h PRIVMSG #c ::hi there\r\n" =
      .ok ⟨[⟨"time", some "T"⟩, ⟨"msgid", some "7"⟩], some "nick!u@h", "PRIVMSG",
        ["#c", ":hi there"]⟩ := by
    cbv
  have hbatch : "batch" ≠ "time" ∧ "batch" ≠ "msgid" := by decide
  have hmark : "vendor/mark" ≠ "time" ∧ "vendor/mark" ≠ "msgid" := by decide
  have hset := ((Copy.itself (m := ⟨[⟨"time", some "T"⟩, ⟨"msgid", some "7"⟩], some "nick!u@h",
    "PRIVMSG", ["#c", ":hi there"]⟩)).setTag hbatch.1 hbatch.2 (some "a b")).setTag hmark.1 hmark.2
      none
  have hcopy : Copy ⟨[⟨"time", some "T"⟩, ⟨"msgid", some "7"⟩], some "nick!u@h", "PRIVMSG",
      ["#c", ":hi there"]⟩ ⟨[⟨"vendor/mark", none⟩, ⟨"batch", some "a b"⟩, ⟨"msgid", some "7"⟩,
        ⟨"time", some "T"⟩], some "srv", "NOTICE", ["#c", ":hi there"]⟩ :=
    (hset.reorder (by decide +kernel)).readdress (some "srv") "NOTICE"
  have hnul : Message.NulFree ⟨[⟨"vendor/mark", none⟩, ⟨"batch", some "a b"⟩, ⟨"msgid", some "7"⟩,
      ⟨"time", some "T"⟩], some "srv", "NOTICE", ["#c", ":hi there"]⟩ := by
    intro t ht value hvalue
    fin_cases ht <;> cases hvalue <;> decide
  rcases copies_reduce_alike hread (by decide) hcopy (by decide +kernel) hnul with
    ⟨text, back, record, htext, hback, hrecord, hsame⟩
  have hvalue : record = ⟨some "T", some "7", "#c", ":hi there"⟩ :=
    Except.ok.inj (hsame.symm.trans (by decide +kernel))
  exact ⟨text, back, htext, hback, hvalue ▸ hrecord⟩

end HistoryRecord

end IrcHarness
