import IrcHarness.Proofs.History.Copies

/-!
# What a Record Sees

A record sees four things of a message: the value of the first tag `time`, the value of
the first tag `msgid`, the first parameter and the last one. A tag without a value counts
as no tag. Messages with at least two parameters make the same record exactly when they
look alike in these four (`reduce_eq_reduce_iff`), so nothing that belongs to the record
is dropped and nothing else gets in.

The second half is also said by what may be done to a message. `Message.Unseen` is a
change of one part that a record does not see, of the source, the command, the parameters
in between, another tag or the order of the tags, and any number of such changes, there
and back, leaves the record alone (`reduce_eq_of_unseen`).

Only a message with fewer than two parameters makes no record, and then it is the command
and the number of parameters that is reported. Equal messages agree in these as well.

## Main definitions

* `Message.Gives`: The value that the first tag with a key gives.
* `Message.LooksAlike`: Messages in which a record sees the same.
* `Message.Unseen`: A change that a record does not see.

## Theorems

* `reduce_eq_reduce_iff`: Messages that look alike make the same record, and no others.
* `reduce_eq_of_unseen`: Changes that are not seen do not change the record.
* `reduce_eq_error_iff`: When a message makes no record.
* `reduce_eq_of_equals`: Equal messages make the same record or the same error.
* `reduction_sees_four_things`: What a record sees and what it does not see.
-/

namespace IrcHarness

namespace Message

/-- The value that the first tag with a key gives. A tag without a value gives none, as
    if there were no tag. -/
def Gives (m : Message) (key : String) (value : Option String) : Prop :=
  (value = none ∧ ∀ t ∈ m.tags, t.key ≠ key) ∨
    ∃ front back, m.tags = front ++ ⟨key, value⟩ :: back ∧ ∀ t ∈ front, t.key ≠ key

/-- Messages in which a record sees the same. -/
structure LooksAlike (a b : Message) : Prop where
  /-- The first tag `time` gives the same. -/
  time : ∀ value, a.Gives "time" value ↔ b.Gives "time" value
  /-- The first tag `msgid` gives the same. -/
  msgid : ∀ value, a.Gives "msgid" value ↔ b.Gives "msgid" value
  /-- The first parameters are equal. -/
  target : a.params.head? = b.params.head?
  /-- The last parameters are equal. -/
  text : a.params.getLast? = b.params.getLast?

/-- A change of one part of a message that a record does not see. -/
inductive Unseen : Message → Message → Prop where
  /-- Another source, or none. -/
  | source (m : Message) (source : Option String) : Unseen m { m with source }
  /-- Another command. -/
  | command (m : Message) (command : String) : Unseen m { m with command }
  /-- Other parameters between the first and the last. -/
  | between {m : Message} {target last : String} {middle : List String}
      (h : m.params = target :: (middle ++ [last])) (others : List String) :
      Unseen m { m with params := target :: (others ++ [last]) }
  /-- A tag that is neither the time nor the identity is left out. -/
  | tag {m : Message} {front back : List Tag} {t : Tag} (h : m.tags = front ++ t :: back)
      (htime : t.key ≠ "time") (hmsgid : t.key ≠ "msgid") :
      Unseen m { m with tags := front ++ back }
  /-- Another order of tags with distinct keys. -/
  | order {m : Message} {tags : List Tag} (hd : m.KeysDistinct) (hperm : m.tags.Perm tags) :
      Unseen m { m with tags }

variable {a b m : Message}

theorem gives_iff (m : Message) (key : String) (value : Option String) :
    m.Gives key value ↔ m.tagValue? key = value := by
  unfold Gives tagValue? tag? Tags.find?
  constructor
  · rintro (⟨rfl, hnone⟩ | ⟨front, back, htags, hfront⟩)
    · rw [List.find?_eq_none.2 fun t ht => by simpa using hnone t ht]
      rfl
    · have hskip : front.find? (fun t => decide (t.key = key)) = none :=
        List.find?_eq_none.2 fun t ht => by simpa using hfront t ht
      rw [htags, List.find?_append, hskip, Option.none_or, List.find?_cons, decide_eq_true rfl]
      rfl
  · intro hvalue
    cases hfound : m.tags.find? (fun t => decide (t.key = key)) with
    | none =>
        rw [hfound] at hvalue
        refine .inl ⟨hvalue.symm, fun t ht => ?_⟩
        simpa using List.find?_eq_none.1 hfound t ht
    | some t =>
        rw [hfound, Option.bind_some] at hvalue
        rcases List.find?_eq_some_iff_append.1 hfound with ⟨hkey, front, back, htags, hfront⟩
        rw [decide_eq_true_eq] at hkey
        refine .inr ⟨front, back, ?_, fun u hu => by simpa using hfront u hu⟩
        rw [htags, ← hkey, ← hvalue]

theorem gives_congr_iff (key : String) :
    (∀ value, a.Gives key value ↔ b.Gives key value) ↔ a.tagValue? key = b.tagValue? key := by
  simp only [gives_iff]
  constructor
  · intro h
    exact ((h _).1 rfl).symm
  · intro h value
    rw [h]

theorem looksAlike_iff :
    LooksAlike a b ↔ a.serverTime? = b.serverTime? ∧ a.msgid? = b.msgid? ∧
      a.params.head? = b.params.head? ∧ a.params.getLast? = b.params.getLast? := by
  have htime := gives_congr_iff (a := a) (b := b) "time"
  have hmsgid := gives_congr_iff (a := a) (b := b) "msgid"
  constructor
  · rintro ⟨ht, hm, htarget, htext⟩
    exact ⟨htime.1 ht, hmsgid.1 hm, htarget, htext⟩
  · rintro ⟨ht, hm, htarget, htext⟩
    exact ⟨htime.2 ht, hmsgid.2 hm, htarget, htext⟩

theorem LooksAlike.refl (m : Message) : LooksAlike m m :=
  ⟨fun _ => Iff.rfl, fun _ => Iff.rfl, rfl, rfl⟩

theorem LooksAlike.symm (h : LooksAlike a b) : LooksAlike b a :=
  ⟨fun value => (h.time value).symm, fun value => (h.msgid value).symm, h.target.symm,
    h.text.symm⟩

theorem LooksAlike.trans {c : Message} (h : LooksAlike a b) (h' : LooksAlike b c) :
    LooksAlike a c :=
  ⟨fun value => (h.time value).trans (h'.time value),
    fun value => (h.msgid value).trans (h'.msgid value), h.target.trans h'.target,
    h.text.trans h'.text⟩

/-- Leaving out a tag does not touch what is found under another key. -/
theorem tag?_eq_of_left_out {front back : List Tag} {t : Tag} {key : String}
    (h : m.tags = front ++ t :: back) (hkey : t.key ≠ key) :
    ({ m with tags := front ++ back } : Message).tag? key = m.tag? key := by
  show Tags.find? (front ++ back) key = Tags.find? m.tags key
  rw [h, Tags.find?, Tags.find?, List.find?_append, List.find?_append, List.find?_cons,
    decide_eq_false hkey]

theorem getLast?_of_params {target last : String} {middle : List String}
    (h : m.params = target :: (middle ++ [last])) : m.params.getLast? = some last := by
  rw [h, ← List.cons_append]
  exact List.getLast?_concat

/-- One change that is not seen leaves the message looking as it did, and it leaves as
    many parameters as a record takes. -/
theorem Unseen.looksAlike (h : Unseen a b) :
    LooksAlike a b ∧ (2 ≤ a.params.length ↔ 2 ≤ b.params.length) := by
  rw [looksAlike_iff]
  cases h with
  | source => exact ⟨⟨rfl, rfl, rfl, rfl⟩, Iff.rfl⟩
  | command => exact ⟨⟨rfl, rfl, rfl, rfl⟩, Iff.rfl⟩
  | between h others =>
      refine ⟨⟨rfl, rfl, ?_, ?_⟩, ?_⟩
      · rw [h, List.head?_cons, List.head?_cons]
      · rw [getLast?_of_params h, getLast?_of_params (m := { a with params := _ }) rfl]
      · simp [h]
  | tag h htime hmsgid =>
      exact ⟨⟨congrArg (·.bind Tag.value) (tag?_eq_of_left_out h htime).symm,
        congrArg (·.bind Tag.value) (tag?_eq_of_left_out h hmsgid).symm, rfl, rfl⟩, Iff.rfl⟩
  | order hd hperm =>
      exact ⟨⟨congrArg (·.bind Tag.value) (Tags.find?_of_perm hd hperm "time"),
        congrArg (·.bind Tag.value) (Tags.find?_of_perm hd hperm "msgid"), rfl, rfl⟩, Iff.rfl⟩

/-- So do any number of them, there and back. -/
theorem looksAlike_of_unseen (h : Relation.EqvGen Unseen a b) :
    LooksAlike a b ∧ (2 ≤ a.params.length ↔ 2 ≤ b.params.length) := by
  induction h with
  | rel a b hchange => exact hchange.looksAlike
  | refl a => exact ⟨.refl a, Iff.rfl⟩
  | symm a b h ih => exact ⟨ih.1.symm, ih.2.symm⟩
  | trans a b c h h' ih ih' => exact ⟨ih.1.trans ih'.1, ih.2.trans ih'.2⟩

end Message

namespace HistoryRecord

open Message (LooksAlike Unseen)

variable {a b m : Message}

/-- Messages with at least two parameters make the same record exactly when they look
    alike. -/
theorem reduce_eq_reduce_iff (ha : 2 ≤ a.params.length) (hb : 2 ≤ b.params.length) :
    reduce a = reduce b ↔ LooksAlike a b := by
  rcases exists_params ha with ⟨target, between, last, hparams⟩
  rcases exists_params hb with ⟨target', between', last', hparams'⟩
  rw [reduce_of_params hparams, reduce_of_params hparams', Message.looksAlike_iff,
    Message.getLast?_of_params hparams, Message.getLast?_of_params hparams', hparams, hparams',
    List.head?_cons, List.head?_cons, Except.ok.injEq, HistoryRecord.mk.injEq, Option.some.injEq,
    Option.some.injEq]

/-- Any number of changes that are not seen, there and back, does not change the record. -/
theorem reduce_eq_of_unseen (h : Relation.EqvGen Unseen a b) (ha : 2 ≤ a.params.length) :
    reduce a = reduce b := by
  -- The number of parameters comes along, since it decides whether there is a record.
  rcases Message.looksAlike_of_unseen h with ⟨halike, hlength⟩
  exact (reduce_eq_reduce_iff ha (hlength.1 ha)).2 halike

/-- A message makes no record exactly when it has fewer than two parameters, and then its
    command and the number are reported. -/
theorem reduce_eq_error_iff (m : Message) (e : HistoryError) :
    reduce m = .error e ↔
      m.params.length < 2 ∧ e = .tooFewParams m.command m.params.length := by
  unfold reduce
  match hparams : m.params with
  | [] => simp [eq_comm]
  | [_] => simp [eq_comm]
  | _ :: _ :: _ => simp

/-- Equal messages with distinct keys make the same record or the same error. -/
theorem reduce_eq_of_equals (hd : a.KeysDistinct) (h : a.equals b = true) :
    reduce a = reduce b := by
  rcases (Message.equals_iff_perm hd b).1 h with ⟨hcommand, hsource, hparams, hperm⟩
  by_cases hfew : a.params.length < 2
  · have hb := (reduce_eq_error_iff b _).2 ⟨hparams ▸ hfew, rfl⟩
    rw [(reduce_eq_error_iff a _).2 ⟨hfew, rfl⟩, hb, hcommand, hparams]
  · have hb : b = { a with tags := b.tags } := by
      rw [hcommand, hsource, hparams]
    rw [hb]
    exact reduce_eq_of_unseen (.rel _ _ (.order hd hperm)) (Nat.le_of_not_lt hfew)

/-- Messages with at least two parameters make the same record exactly when they look
    alike, and changes that are not seen do not change it. There is no record exactly when
    there are fewer than two parameters. Equal messages with distinct keys make the same
    record or the same error. -/
theorem reduction_sees_four_things :
    (∀ a b : Message, 2 ≤ a.params.length → 2 ≤ b.params.length →
      (reduce a = reduce b ↔ LooksAlike a b)) ∧
    (∀ a b : Message, 2 ≤ a.params.length → Relation.EqvGen Unseen a b →
      reduce a = reduce b) ∧
    (∀ m : Message, (∃ e, reduce m = .error e) ↔ m.params.length < 2) ∧
    (∀ (m : Message) (e : HistoryError), reduce m = .error e →
      e = .tooFewParams m.command m.params.length) ∧
    ∀ a b : Message, a.KeysDistinct → a.equals b = true → reduce a = reduce b := by
  refine ⟨fun _ _ ha hb => reduce_eq_reduce_iff ha hb, fun _ _ ha h => reduce_eq_of_unseen h ha,
    fun m => ⟨?_, fun hfew => ?_⟩, fun m e he => ((reduce_eq_error_iff m e).1 he).2,
    fun _ _ hd h => reduce_eq_of_equals hd h⟩
  · rintro ⟨e, he⟩
    exact ((reduce_eq_error_iff m e).1 he).1
  · exact ⟨_, (reduce_eq_error_iff m _).2 ⟨hfew, rfl⟩⟩

/-- Two copies of a text that differ in the source, the command, what stands in between,
    the order of the tags and a tag of their own, one of them with a tag `msgid` that has no
    value. A message with another text makes another record, a tag may be left out, and two
    equal messages with one parameter fail with the same error. -/
theorem reduction_sees_four_things_copies :
    reduce ⟨[⟨"time", some "T"⟩, ⟨"msgid", none⟩, ⟨"batch", some "1"⟩], some "a!b@c", "PRIVMSG",
        ["#c", "x", "hi"]⟩ =
      reduce ⟨[⟨"label", none⟩, ⟨"time", some "T"⟩], none, "notice", ["#c", "hi"]⟩ ∧
    reduce ⟨[], none, "PRIVMSG", ["#c", "hi"]⟩ ≠ reduce ⟨[], none, "PRIVMSG", ["#c", "ho"]⟩ ∧
    reduce ⟨[⟨"a", none⟩, ⟨"time", some "T"⟩], none, "PRIVMSG", ["#c", "hi"]⟩ =
      reduce ⟨[⟨"time", some "T"⟩], none, "PRIVMSG", ["#c", "hi"]⟩ ∧
    reduce ⟨[⟨"a", none⟩, ⟨"b", none⟩], none, "PRIVMSG", ["#c"]⟩ =
      reduce ⟨[⟨"b", none⟩, ⟨"a", none⟩], none, "PRIVMSG", ["#c"]⟩ := by
  rcases reduction_sees_four_things with ⟨halike, hunseen, -, -, hequal⟩
  have hleft : Unseen ⟨[⟨"a", none⟩, ⟨"time", some "T"⟩], none, "PRIVMSG", ["#c", "hi"]⟩
      ⟨[⟨"time", some "T"⟩], none, "PRIVMSG", ["#c", "hi"]⟩ :=
    .tag (m := ⟨[⟨"a", none⟩, ⟨"time", some "T"⟩], none, "PRIVMSG", ["#c", "hi"]⟩)
      (List.nil_append _).symm (by decide) (by decide)
  have hd : Message.KeysDistinct ⟨[⟨"a", none⟩, ⟨"b", none⟩], none, "PRIVMSG", ["#c"]⟩ := by
    unfold Message.KeysDistinct
    decide
  refine ⟨(halike _ _ (by decide) (by decide)).2 ?_, fun hsame => ?_,
    hunseen _ _ (by decide) (.rel _ _ hleft), hequal _ _ hd (by decide +kernel)⟩
  · exact Message.looksAlike_iff.2 (by decide +kernel)
  · have htext := ((halike _ _ (by decide) (by decide)).1 hsame).text
    exact absurd htext (by decide)

end HistoryRecord

end IrcHarness
