import IrcHarness.Proofs.History.Reduction

/-!
# Playbacks

A playback is reduced as a whole, and it may be cut anywhere: what two parts make is what
the first makes and then what the second makes, unless one of them fails, and then the
earlier failure counts (`reduceBatch_append`).

A playback fails at the first text that has too few parameters, and the error tells of
that one (`reduceBatch_eq_error_iff`). A text is a `PRIVMSG` or a `NOTICE`, in whatever
letters. Everything else is framing. `Reframes` puts such a message in somewhere or moves
it, and any number of these changes, there and back, can be seen neither from the records
nor from the error (`reduceBatch_eq_of_reframes`).

## Main definitions

* `Ascii.Spells`: A word in whatever letters.
* `Message.IsText`, `Message.IsShort`: A text, and one with too few parameters.
* `HistoryRecord.together`: What two parts of a playback make.
* `HistoryRecord.Reframes`: A change of the framing.

## Theorems

* `isReplayed_iff`: What is repeated in a playback.
* `reduceBatch_append`: A playback in two parts.
* `reduceBatch_eq_error_iff`: Where a playback fails.
* `reduceBatch_eq_of_reframes`: The framing makes no difference.
* `batches_compose`: All of it.
-/

namespace IrcHarness

namespace Ascii

/-- A word of capital letters in whatever letters: each is the one of the word or the
    small one. -/
def Spells (word s : String) : Prop :=
  List.Forall₂ (fun c d => d = c ∨ d = c.toLower) word.toList s.toList

theorem toLower_eq_iff {c : Char} (hc : c.isUpper = true) (d : Char) :
    d.toLower = c.toLower ↔ d = c ∨ d = c.toLower := by
  unfold Char.toLower Char.isUpper at *
  grind [Char.ext]

theorem map_toLower_eq_iff {word : List Char} (hword : ∀ c ∈ word, c.isUpper = true)
    (s : List Char) :
    s.map Char.toLower = word.map Char.toLower ↔
      List.Forall₂ (fun c d => d = c ∨ d = c.toLower) word s := by
  induction word generalizing s with
  | nil => rw [List.map_nil, List.map_eq_nil_iff, List.forall₂_nil_left_iff]
  | cons c rest ih =>
      rw [List.forall_mem_cons] at hword
      cases s with
      | nil => simp
      | cons d more =>
          rw [List.map_cons, List.map_cons, List.cons.injEq, toLower_eq_iff hword.1,
            ih hword.2, List.forall₂_cons]

theorem spells_iff {word : String} (hword : ∀ c ∈ word.toList, c.isUpper = true) (s : String) :
    Spells word s ↔ eqIgnoreCase s word = true := by
  rw [eqIgnoreCase_iff, lower, lower, map_toLower_eq_iff hword]
  exact Iff.rfl

end Ascii

namespace Message

/-- A text is a `PRIVMSG` or a `NOTICE`, in whatever letters. -/
def IsText (m : Message) : Prop :=
  Ascii.Spells "PRIVMSG" m.command ∨ Ascii.Spells "NOTICE" m.command

/-- A text with too few parameters for a record. -/
def IsShort (m : Message) : Prop :=
  m.IsText ∧ m.params.length < 2

end Message

namespace HistoryRecord

/-- What two parts of a playback make: all records of the one and then all of the other,
    or the earlier error. -/
def together :
    Except HistoryError (List HistoryRecord) → Except HistoryError (List HistoryRecord) →
      Except HistoryError (List HistoryRecord)
  | .error e, _ => .error e
  | .ok _, .error e => .error e
  | .ok rs, .ok ss => .ok (rs ++ ss)

/-- A change of the framing of a playback. -/
inductive Reframes : List Message → List Message → Prop where
  /-- A message that is no text is put in somewhere. -/
  | insert (front back : List Message) {m : Message} (h : ¬m.IsText) :
      Reframes (front ++ back) (front ++ m :: back)
  /-- A message that is no text comes later by some messages. -/
  | move (front between back : List Message) {m : Message} (h : ¬m.IsText) :
      Reframes (front ++ m :: (between ++ back)) (front ++ (between ++ m :: back))

variable {m : Message} {e : HistoryError}

/-- What is repeated in a playback are the texts. -/
theorem isReplayed_iff (m : Message) : isReplayed m = true ↔ m.IsText := by
  have hprivmsg : ∀ c ∈ "PRIVMSG".toList, c.isUpper = true := by simp
  have hnotice : ∀ c ∈ "NOTICE".toList, c.isUpper = true := by simp
  rw [isReplayed, Bool.or_eq_true, Message.IsText, Ascii.spells_iff hprivmsg,
    Ascii.spells_iff hnotice]
  exact Iff.rfl

theorem together_ok_nil (result : Except HistoryError (List HistoryRecord)) :
    together (.ok []) result = result := by
  cases result with
  | error e => rfl
  | ok rs => rfl

theorem together_eq_error_iff (a b : Except HistoryError (List HistoryRecord)) :
    together a b = .error e ↔ a = .error e ∨ (∃ rs, a = .ok rs) ∧ b = .error e := by
  cases a with
  | error e' => simp [together]
  | ok rs =>
      cases b with
      | error e' => simp [together]
      | ok ss => simp [together]

theorem reduceAll_append (xs ys : List Message) :
    reduceAll (xs ++ ys) = together (reduceAll xs) (reduceAll ys) := by
  induction xs with
  | nil => exact (together_ok_nil _).symm
  | cons m rest ih =>
      rw [List.cons_append, reduceAll, reduceAll, ih]
      cases reduce m with
      | error e => rfl
      | ok r =>
          -- Where the first failure lies: in the rest of the one part, or in the other.
          cases reduceAll rest with
          | error e => rfl
          | ok rs =>
              cases reduceAll ys with
              | error e => rfl
              | ok ss => rfl

/-- What a playback makes is what its parts make. -/
theorem reduceBatch_append (xs ys : List Message) :
    reduceBatch (xs ++ ys) = together (reduceBatch xs) (reduceBatch ys) := by
  rw [reduceBatch, List.filter_append, reduceAll_append]
  rfl

/-- A message that is no text makes no records and does not fail. -/
theorem reduceBatch_singleton_of_not_isText (h : ¬m.IsText) : reduceBatch [m] = .ok [] := by
  rw [reduceBatch, List.filter_cons_of_neg fun ht => h ((isReplayed_iff m).1 ht)]
  rfl

theorem reduceBatch_singleton_eq_error_iff :
    reduceBatch [m] = .error e ↔
      m.IsShort ∧ e = .tooFewParams m.command m.params.length := by
  by_cases ht : m.IsText
  · have hone : reduceBatch [m] = .error e ↔ reduce m = .error e := by
      rw [reduceBatch, List.filter_cons_of_pos ((isReplayed_iff m).2 ht), List.filter_nil,
        reduceAll]
      cases reduce m with
      | error e' => simp
      | ok r => simp [reduceAll]
    rw [hone, reduce_eq_error_iff, Message.IsShort, and_assoc, and_iff_right ht]
  · rw [reduceBatch_singleton_of_not_isText ht]
    constructor
    · intro he
      cases he
    · rintro ⟨⟨htext, -⟩, -⟩
      exact absurd htext ht

theorem reduceBatch_cons (m : Message) (rest : List Message) :
    reduceBatch (m :: rest) = together (reduceBatch [m]) (reduceBatch rest) :=
  reduceBatch_append [m] rest

/-- A message that is not short does not fail. -/
theorem exists_reduceBatch_singleton (h : ¬m.IsShort) : ∃ rs, reduceBatch [m] = .ok rs := by
  cases hone : reduceBatch [m] with
  | error e => exact absurd (reduceBatch_singleton_eq_error_iff.1 hone).1 h
  | ok rs => exact ⟨rs, rfl⟩

/-- A playback fails at the first text with too few parameters. -/
theorem reduceBatch_eq_error_iff (messages : List Message) (e : HistoryError) :
    reduceBatch messages = .error e ↔
      ∃ front m back, messages = front ++ m :: back ∧ (∀ n ∈ front, ¬n.IsShort) ∧
        m.IsShort ∧ e = .tooFewParams m.command m.params.length := by
  constructor
  · intro h
    induction messages with
    | nil => cases h
    | cons m rest ih =>
        rw [reduceBatch_cons, together_eq_error_iff] at h
        rcases h with hfirst | ⟨⟨rs, hfirst⟩, hrest⟩
        · exact ⟨[], m, rest, rfl, List.forall_mem_nil _,
            reduceBatch_singleton_eq_error_iff.1 hfirst⟩
        · rcases ih hrest with ⟨front, n, back, rfl, hfront, hn⟩
          have hm : ¬m.IsShort := fun hshort => by
            rw [reduceBatch_singleton_eq_error_iff.2 ⟨hshort, rfl⟩] at hfirst
            cases hfirst
          exact ⟨m :: front, n, back, rfl, List.forall_mem_cons.2 ⟨hm, hfront⟩, hn⟩
  · rintro ⟨front, m, back, rfl, hfront, hm⟩
    induction front with
    | nil =>
        rw [List.nil_append, reduceBatch_cons, together_eq_error_iff]
        exact .inl (reduceBatch_singleton_eq_error_iff.2 hm)
    | cons n front ih =>
        rw [List.forall_mem_cons] at hfront
        rw [List.cons_append, reduceBatch_cons, together_eq_error_iff]
        exact .inr ⟨exists_reduceBatch_singleton hfront.1, ih hfront.2⟩

/-- A message that is no text may as well not be there. -/
theorem reduceBatch_insert (front back : List Message) (h : ¬m.IsText) :
    reduceBatch (front ++ m :: back) = reduceBatch (front ++ back) := by
  rw [reduceBatch_append, reduceBatch_cons, reduceBatch_singleton_of_not_isText h,
    together_ok_nil, ← reduceBatch_append]

/-- Any number of changes of the framing, there and back, makes no difference. -/
theorem reduceBatch_eq_of_reframes {xs ys : List Message} (h : Relation.EqvGen Reframes xs ys) :
    reduceBatch xs = reduceBatch ys := by
  induction h with
  | rel xs ys hchange =>
      cases hchange with
      | insert front back hm => exact (reduceBatch_insert front back hm).symm
      | move front between back hm =>
          rw [reduceBatch_insert _ _ hm, ← List.append_assoc, ← List.append_assoc,
            reduceBatch_insert _ _ hm]
  | refl xs => rfl
  | symm xs ys h ih => exact ih.symm
  | trans xs ys zs h h' ih ih' => exact ih.trans ih'

/-- What a playback makes is what its parts make, one after the other. It fails exactly at
    the first text with too few parameters, and the error is of that one. Changes of the
    framing make no difference. -/
theorem batches_compose :
    (∀ xs ys : List Message,
      reduceBatch (xs ++ ys) = together (reduceBatch xs) (reduceBatch ys)) ∧
    (∀ (messages : List Message) (e : HistoryError), reduceBatch messages = .error e ↔
      ∃ front m back, messages = front ++ m :: back ∧ (∀ n ∈ front, ¬n.IsShort) ∧
        m.IsShort ∧ e = .tooFewParams m.command m.params.length) ∧
    ∀ xs ys : List Message, Relation.EqvGen Reframes xs ys → reduceBatch xs = reduceBatch ys :=
  ⟨reduceBatch_append, reduceBatch_eq_error_iff, fun _ _ h => reduceBatch_eq_of_reframes h⟩

/-- A playback with its frame and one without, and a playback whose first text in small
    letters is too short, behind a frame that is as short. -/
theorem batches_compose_framed :
    reduceBatch [⟨[], none, "BATCH", ["+1", "chathistory"]⟩, ⟨[], none, "Notice", ["#c", "hi"]⟩,
        ⟨[], none, "BATCH", ["-1"]⟩] =
      reduceBatch [⟨[], none, "Notice", ["#c", "hi"]⟩] ∧
    reduceBatch [⟨[], none, "BATCH", ["-1"]⟩, ⟨[], none, "privmsg", ["#c"]⟩,
        ⟨[], none, "NOTICE", []⟩] = .error (.tooFewParams "privmsg" 1) := by
  rcases batches_compose with ⟨-, hfails, hreframes⟩
  have hopen : ¬Message.IsText ⟨[], none, "BATCH", ["+1", "chathistory"]⟩ := fun h =>
    absurd ((isReplayed_iff _).2 h) (by decide +kernel)
  have hclose : ¬Message.IsText ⟨[], none, "BATCH", ["-1"]⟩ := fun h =>
    absurd ((isReplayed_iff _).2 h) (by decide +kernel)
  have hshort : Message.IsShort ⟨[], none, "privmsg", ["#c"]⟩ :=
    ⟨(isReplayed_iff _).1 (by decide +kernel), by decide⟩
  refine ⟨(hreframes _ _ ?_).symm, (hfails _ _).2 ⟨[⟨[], none, "BATCH", ["-1"]⟩],
    ⟨[], none, "privmsg", ["#c"]⟩, [⟨[], none, "NOTICE", []⟩], rfl, ?_, hshort, rfl⟩⟩
  · exact .trans _ _ _ (.rel _ _ (.insert [⟨[], none, "Notice", ["#c", "hi"]⟩] [] hclose))
      (.rel _ _ (.insert [] _ hopen))
  · intro n hn
    rw [List.mem_singleton.1 hn]
    exact fun h => hclose h.1

end HistoryRecord

end IrcHarness
