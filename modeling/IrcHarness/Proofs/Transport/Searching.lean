import IrcHarness.Proofs.Transport.Conservation
import IrcHarness.Proofs.Transport.Modes
import IrcHarness.Proofs.Transport.Tokens

/-!
# Searching for One Message

A search looks through the messages that were left over, then through those of
one collection, then of the next one. Its filter sees each message once and in
the order in which it came, and the search ends at the first one that is
accepted. What is behind this message stays for later calls.

A collection is made only when everything in hand was turned down, so at its
start nothing is left over. Then it gives at least one message, or it fails,
since the search requires one. The end without a message is therefore reached
in one way only: the answer to the `PING` is the first line that comes.

The filter may carry a state, and a `recording` filter carries the messages
that it was shown. What is said of all filters says of this one that no message
is shown twice and none is left out.

## Main definitions

* `TurnsDown`: Messages that a filter turns down.
* `Transport.Refilled`: Collections, each with nothing left over.
* `Transport.pinged`: What was written once so many tokens were asked for.
* `Transport.AnswersFirst`: The answer is the first line that comes.
* `Transport.Searched`: How a search ends.

## Theorems

* `ne_nil_of_gather`: A collection that requires a line gives one.
* `gather_noMessage_iff`: When a collection gives no message.
* `Searched.behind`: One collection of a search after the other.
* `searched_getOne`: A search ends in one of three ways.
* `getOne_of_refilled`: A search goes on behind what it has turned down.
* `getOne_finds_first`: A search finds the first message.
-/

namespace IrcHarness

/-- A filter turns down messages one after the other, and goes from one state to
    another. -/
inductive TurnsDown {σ : Type} (filter : σ → Message → Bool × σ) :
    σ → List Message → σ → Prop where
  /-- No message. -/
  | nil (state : σ) : TurnsDown filter state [] state
  /-- One message, and then others. -/
  | cons {state state₁ state₂ : σ} {m : Message} {rest : List Message}
      (hm : filter state m = (false, state₁)) (h : TurnsDown filter state₁ rest state₂) :
      TurnsDown filter state (m :: rest) state₂

section TurnsDown

variable {σ : Type} {filter : σ → Message → Bool × σ} {state state₁ state₂ : σ}
  {front back : List Message}

theorem TurnsDown.append (h : TurnsDown filter state front state₁)
    (hback : TurnsDown filter state₁ back state₂) :
    TurnsDown filter state (front ++ back) state₂ := by
  induction h with
  | nil state => exact hback
  | cons hm _ ih => exact .cons hm (ih hback)

theorem TurnsDown.of_append (h : TurnsDown filter state (front ++ back) state₂) :
    ∃ state₁, TurnsDown filter state front state₁ ∧ TurnsDown filter state₁ back state₂ := by
  induction front generalizing state with
  | nil => exact ⟨state, .nil state, h⟩
  | cons m front ih =>
      cases h with
      | cons hm h =>
          rcases ih h with ⟨state₁, hfront, hback⟩
          exact ⟨state₁, .cons hm hfront, hback⟩

theorem firstAccepted_eq_none_iff {messages : List Message} :
    firstAccepted filter state messages = (none, state₁) ↔
      TurnsDown filter state messages state₁ := by
  induction messages generalizing state with
  | nil =>
      constructor
      · intro h
        rw [← (Prod.mk.inj h).2]
        exact .nil state
      · rintro (_ | _)
        rfl
  | cons m rest ih =>
      unfold firstAccepted
      cases hf : filter state m with
      | mk accepted next =>
          constructor
          · intro h
            cases accepted with
            | true => exact absurd (Prod.mk.inj h).1 (Option.some_ne_none _)
            | false => exact .cons hf (ih.1 h)
          · rintro (_ | ⟨hm, h⟩)
            rw [hf, Prod.mk.injEq] at hm
            rcases hm with ⟨rfl, rfl⟩
            exact ih.2 h

/-- The message that is accepted stands behind those that are turned down. -/
theorem exists_front_of_firstAccepted {messages rest : List Message} {m : Message}
    (h : firstAccepted filter state messages = (some (m, rest), state₂)) :
    ∃ front state₁, messages = front ++ m :: rest ∧ TurnsDown filter state front state₁ ∧
      filter state₁ m = (true, state₂) := by
  induction messages generalizing state with
  | nil => exact absurd (Prod.mk.inj h).1.symm (Option.some_ne_none _)
  | cons n messages ih =>
      unfold firstAccepted at h
      cases hf : filter state n with
      | mk accepted next =>
          rw [hf] at h
          cases accepted with
          | true =>
              simp only [Prod.mk.injEq, Option.some.injEq] at h
              rcases h with ⟨⟨rfl, rfl⟩, rfl⟩
              exact ⟨[], state, rfl, .nil state, hf⟩
          | false =>
              rcases ih h with ⟨front, state₁, rfl, hfront, hm⟩
              exact ⟨n :: front, state₁, rfl, .cons hf hfront, hm⟩

end TurnsDown

theorem Outcome.map_eq_error_iff {α β : Type} {f : α → β} {outcome : Outcome α}
    {e : TransportError} : outcome.map f = .error e ↔ outcome = .error e := by
  cases outcome <;> simp [Outcome.map]

namespace Request

/-- The first line that comes to a collection that has taken none, and the state
    behind it. The peer may be silent for any number of attempts before. -/
inductive FirstLine (r : Request) : Transport → List UInt8 → Transport → Prop where
  /-- It comes at once. -/
  | here {t u : Transport} {line : List UInt8} (hopen : ¬r.isComplete [] t.unread = true)
      (hline : t.receive (r.deadline t) = (.line line, u)) : FirstLine r t line u
  /-- The peer is silent, and the collection goes on. -/
  | waited {t t' u : Transport} {line : List UInt8} (hopen : ¬r.isComplete [] t.unread = true)
      (hsilent : t.receive (r.deadline t) = (.timedOut, t'))
      (hpatient : ¬r.limit < t.peer.now + t.readTimeout)
      (hends : ¬r.endsInSilence t'.unread = true) (htime : t.peer.now < r.limit)
      (h : FirstLine r ((t'.note .trace "waiting").waitUntil (t.peer.now + 1)) line u) :
      FirstLine r t line u

end Request

namespace Transport

open Request (FirstLine)

section Collection

variable {r : Request} {taken lines : List Received} {t u : Transport}

/-- A collection that requires a line gives one. -/
theorem ne_nil_of_gather (hrequired : r.required = true) (hqueued : r.queued = false)
    (h : (gather r taken t).1 = .ok lines) : lines ≠ [] := by
  fun_induction gather r taken t with
  | case1 taken t hc =>
      -- It has enough without a line only if the caller holds some.
      rintro rfl
      rw [Outcome.ok.inj h] at hc
      simp [Request.isComplete, hqueued] at hc
  | case2 taken t hc line t' hr _ received hj ih => exact ih h
  | case3 taken t hc line t' hr _ hj =>
      rintro rfl
      rw [Outcome.ok.inj h] at hj
      rcases Request.answer_of_judge hj with ⟨token, m, htoken, hparse, hanswer⟩
      simp [Request.judge, htoken, hparse, hanswer, hrequired] at hj
  | case4 => cases h
  | case5 => cases h
  | case6 => cases h
  | case7 => cases h
  | case8 => cases h
  | case9 taken t hc t' hr hl he =>
      simp [Request.endsInSilence, hrequired] at he
  | case10 taken t hc t' hr hl he ht ih => exact ih h
  | case11 => cases h

/-- A collection gives no message although one is required exactly when the
    answer that it waits for is the first line that comes. -/
theorem gather_noMessage_iff : (gather r taken t).1 = .error .noMessage ↔
    taken = [] ∧ ∃ line u token m, r.FirstLine t line u ∧ r.required = true ∧
      r.token = some token ∧ Message.parseBytes line = .ok m ∧ m.answersPing token = true := by
  constructor
  · intro h
    fun_induction gather r taken t with
    | case1 => cases h
    | case2 taken t hc line t' hr _ received hj ih =>
        -- Behind a line that was kept the answer ends the collection otherwise.
        exact absurd (ih h).1 (List.append_ne_nil_of_right_ne_nil _ (List.cons_ne_nil _ _))
    | case3 => cases h
    | case4 taken t hc line t' hr _ e hj =>
        rw [Outcome.error.inj h] at hj
        cases Request.offends_of_judge hj with
        | @noMessage token m htoken hparse hanswer hrequired hnone =>
            subst hnone
            exact ⟨rfl, line, t', token, m, .here hc hr, hrequired, htoken, hparse, hanswer⟩
    | case5 => cases h
    | case6 => cases h
    | case7 => cases h
    | case8 => cases h
    | case9 => cases h
    | case10 taken t hc t' hr hl he ht ih =>
        rcases ih h with ⟨rfl, line, u, token, m, hfirst, hrest⟩
        exact ⟨rfl, line, u, token, m, .waited hc hr hl he ht hfirst, hrest⟩
    | case11 => cases h
  · rintro ⟨rfl, line, u, token, m, hfirst, hrequired, htoken, hparse, hanswer⟩
    have hj : r.judge [] line = .fail .noMessage := by
      simp [Request.judge, htoken, hparse, hanswer, hrequired]
    induction hfirst with
    | here hopen hline =>
        rw [gather_of_receive hopen hline]
        simp only [hj]
    | waited hopen hsilent hpatient hends htime h ih =>
        rw [gather_of_receive hopen hsilent]
        simp only [if_neg hpatient, if_neg hends, if_pos htime]
        exact ih hparse hj

/-- A collection for messages gives one for each line. -/
theorem messages_ne_nil (hraw : r.raw = false) (h : gather r [] t = (.ok lines, u))
    (hne : lines ≠ []) : lines.filterMap Received.message ≠ [] := by
  intro hnone
  rcases List.exists_mem_of_ne_nil lines hne with ⟨received, hmem⟩
  rcases (readable_of_gather hraw h (fun _ h => absurd h List.not_mem_nil) received hmem).1 with
    ⟨m, hm, -⟩
  exact Option.some_ne_none m (hm.symm.trans (List.filterMap_eq_nil_iff.1 hnone received hmem))

end Collection

/-- Collections that a search makes one after the other, each of which gave a
    batch. Nothing is left over when one of them starts. -/
inductive Refilled (synchronize : Bool) (limit : Nat) :
    Transport → List (List Message) → Transport → Prop where
  /-- None was made. -/
  | none {t : Transport} (hinbox : t.inbox = []) : Refilled synchronize limit t [] t
  /-- One gave a batch, and then there were others. -/
  | more {t u v : Transport} {batch : List Message} {batches : List (List Message)}
      (hinbox : t.inbox = []) (hbatch : t.collect synchronize true limit = (.ok batch, u))
      (h : Refilled synchronize limit u batches v) :
      Refilled synchronize limit t (batch :: batches) v

/-- What was written once so many more tokens were asked for, each with a line of
    its own. -/
def pinged (t : Transport) (count : Nat) : Outgoing :=
  (List.range count).foldl
    (fun o n => o.write ("PING " ++ t.token (t.syncCount + n + 1) ++ "\r\n")) t.outgoing

/-- The `PING` of a search goes out, and its answer is the first line that
    comes. -/
def AnswersFirst (t : Transport) (limit : Nat) : Prop :=
  ∃ u line v m, t.sendPing = (.ok t.nextToken, u) ∧
    FirstLine ⟨some t.nextToken, true, false, false, limit⟩ u line v ∧
    Message.parseBytes line = .ok m ∧ m.answersPing t.nextToken = true

section Refilled

variable {synchronize : Bool} {limit : Nat} {t u v : Transport} {batch : List Message}
  {batches : List (List Message)}

theorem Refilled.inbox (h : Refilled synchronize limit t batches u) : u.inbox = [] := by
  induction h with
  | none hinbox => exact hinbox
  | more _ _ _ ih => exact ih

/-- A collection that gives lines has come to take them. -/
theorem gather_of_collectLines {required queued raw : Bool} {lines : List Received}
    (h : t.collectLines synchronize required queued raw limit = (.ok lines, u)) :
    ∃ v, gather (t.request synchronize required queued raw limit) [] v = (.ok lines, u) := by
  cases synchronize with
  | false => exact ⟨t, h⟩
  | true =>
      rcases t.sendPing_cases with ⟨v, hping⟩ | ⟨v, hping⟩
      · exact ⟨v, (collectLines_of_sendPing hping required queued raw limit).symm.trans h⟩
      · unfold collectLines at h
        rw [if_pos rfl, hping] at h
        cases h

/-- A search that gets a batch gets the messages of some lines, and at least
    one. -/
theorem exists_lines_of_collect (hinbox : t.inbox = [])
    (h : t.collect synchronize true limit = (.ok batch, u)) :
    batch ≠ [] ∧ ∃ lines, lines ≠ [] ∧ batch = lines.filterMap Received.message ∧
      t.collectLines synchronize true false false limit = (.ok lines, u) := by
  rw [collect_of_empty hinbox] at h
  cases hlines : t.collectLines synchronize true false false limit with
  | mk outcome w =>
      rw [hlines] at h
      cases outcome with
      | error e => cases h
      | abandoned => cases h
      | ok lines =>
          simp only [Outcome.map, Prod.mk.injEq, Outcome.ok.injEq] at h
          rcases h with ⟨rfl, rfl⟩
          rcases gather_of_collectLines hlines with ⟨v, hgather⟩
          have hne := ne_nil_of_gather rfl rfl (congrArg Prod.fst hgather)
          exact ⟨messages_ne_nil rfl hgather hne, lines, hne, rfl, rfl⟩

theorem pinged_one_add (hout : u.outgoing = t.pinged 1) (hclock : u.clock = t.clock)
    (hcount : u.syncCount = t.syncCount + 1) (n : Nat) : u.pinged n = t.pinged (n + 1) := by
  have htoken : ∀ k, u.token (u.syncCount + k + 1) = t.token (t.syncCount + (k + 1) + 1) := by
    intro k
    rw [token, token, hclock, hcount, Nat.add_assoc t.syncCount 1 k, Nat.add_comm 1 k]
  unfold pinged
  rw [List.range_succ_eq_map, List.foldl_cons, List.foldl_map, hout]
  simp only [htoken]
  rfl

/-- What is written from the next collection on is what is written from here on,
    which is one `PING` more if the collections are synchronized. -/
theorem pinged_behind {required queued raw : Bool} {outcome : Outcome (List Received)}
    (h : t.collectLines synchronize required queued raw limit = (outcome, u)) (count : Nat) :
    (if synchronize then u.pinged count else u.outgoing) =
      if synchronize then t.pinged (count + 1) else t.outgoing := by
  have hout := outgoing_collectLines t synchronize required queued raw limit
  have hcount := count_collectLines t synchronize required queued raw limit
  rw [h] at hout hcount
  by_cases hsync : synchronize = true
  · rw [if_pos hsync] at hout hcount ⊢
    rw [if_pos hsync]
    exact pinged_one_add hout hcount.1 hcount.2 count
  · rw [if_neg hsync] at hout ⊢
    rw [if_neg hsync]
    exact hout

/-- A collection of a search gives no message exactly when the answer to its
    `PING` comes first, so one without a `PING` never does. -/
theorem collectLines_noMessage_iff :
    (t.collectLines synchronize true false false limit).1 = .error .noMessage ↔
      synchronize = true ∧ t.AnswersFirst limit := by
  cases synchronize with
  | false =>
      refine iff_of_false (fun h => ?_) fun h => Bool.noConfusion h.1
      rcases (gather_noMessage_iff (r := ⟨none, true, false, false, limit⟩)).1 h with
        ⟨-, line, v, token, m, -, -, htoken, -⟩
      cases htoken
  | true =>
      rw [and_iff_right rfl]
      rcases t.sendPing_cases with ⟨u, hping⟩ | ⟨u, hping⟩
      · rw [collectLines_of_sendPing hping, gather_noMessage_iff]
        constructor
        · rintro ⟨-, line, v, token, m, hfirst, -, htoken, hparse, hanswer⟩
          rw [← Option.some.inj htoken] at hanswer
          exact ⟨u, line, v, m, hping, hfirst, hparse, hanswer⟩
        · rintro ⟨w, line, v, m, hping', hfirst, hparse, hanswer⟩
          rw [hping, Prod.mk.injEq] at hping'
          rw [← hping'.2] at hfirst
          exact ⟨rfl, line, v, _, m, hfirst, rfl, rfl, hparse, hanswer⟩
      · -- The `PING` does not go out.
        refine iff_of_false (fun h => ?_) fun ⟨v, _, _, _, hping', _⟩ => ?_
        · unfold collectLines at h
          rw [if_pos rfl, hping] at h
          cases h
        · rw [hping] at hping'
          cases hping'

end Refilled

/-- How a search ends: with a result, a state of the filter and a state of the
    transport. The messages that it has shown to the filter are listed as well. -/
inductive Searched {σ : Type} (filter : σ → Message → Bool × σ) (synchronize : Bool) (limit : Nat)
    (state : σ) (t : Transport) : Outcome Message × σ × Transport → List Message → Prop where
  /-- A message is accepted behind those that are turned down, and the others of
      its batch are left over. All in front of the last batch was turned down. -/
  | found {batches : List (List Message)} {front rest : List Message} {m : Message}
      {state₁ state₂ : σ} {u : Transport}
      (hbatches : Refilled synchronize limit { t with inbox := [] } batches u)
      (hheld : t.inbox ++ batches.flatten = front ++ m :: rest)
      (hneeded : batches ≠ [] → t.inbox ++ batches.dropLast.flatten <+: front)
      (hfront : TurnsDown filter state front state₁) (hm : filter state₁ m = (true, state₂))
      (hpings : u.outgoing = if synchronize then t.pinged batches.length else t.outgoing) :
      Searched filter synchronize limit state t (.ok m, state₂, { u with inbox := rest })
        (front ++ [m])
  /-- Everything is turned down, and the collection behind it fails. -/
  | failed {batches : List (List Message)} {state₁ : σ} {u v : Transport} {e : TransportError}
      (hbatches : Refilled synchronize limit { t with inbox := [] } batches u)
      (hfront : TurnsDown filter state (t.inbox ++ batches.flatten) state₁)
      (hfails : u.collect synchronize true limit = (.error e, v)) (hinbox : v.inbox = [])
      (hpings : v.outgoing = if synchronize then t.pinged (batches.length + 1) else t.outgoing) :
      Searched filter synchronize limit state t (.error e, state₁, v) (t.inbox ++ batches.flatten)
  /-- Everything is turned down, and the collection behind it still waits. -/
  | abandoned {batches : List (List Message)} {state₁ : σ} {u v : Transport}
      (hbatches : Refilled synchronize limit { t with inbox := [] } batches u)
      (hfront : TurnsDown filter state (t.inbox ++ batches.flatten) state₁)
      (hwaits : u.collect synchronize true limit = (.abandoned, v)) (hinbox : v.inbox = [])
      (hpings : v.outgoing = if synchronize then t.pinged (batches.length + 1) else t.outgoing) :
      Searched filter synchronize limit state t (.abandoned, state₁, v)
        (t.inbox ++ batches.flatten)

section Searched

variable {σ : Type} {filter : σ → Message → Bool × σ} {synchronize : Bool} {limit : Nat}
  {state state₁ : σ} {t u v : Transport} {batch : List Message} {batches : List (List Message)}

/-- What a search does behind one batch it does in front of it as well. -/
theorem Searched.behind {result : Outcome Message × σ × Transport} {shown : List Message}
    (hfront : TurnsDown filter state t.inbox state₁)
    (hbatch : { t with inbox := [] }.collect synchronize true limit = (.ok batch, u))
    (h : Searched filter synchronize limit state₁ { u with inbox := batch } result shown) :
    Searched filter synchronize limit state t result (t.inbox ++ shown) := by
  rcases exists_lines_of_collect rfl hbatch with ⟨-, lines, -, -, hlines⟩
  have hempty : u.inbox = [] := by
    have hinbox := inbox_collectLines { t with inbox := [] } synchronize true false false limit
    rw [hlines] at hinbox
    exact hinbox
  have hsame : { u with inbox := [] } = u := by rw [← hempty]
  -- One more batch comes in front of the others, with its `PING`.
  have hmore : ∀ {batches : List (List Message)} {v : Transport},
      Refilled synchronize limit { u with inbox := [] } batches v →
        Refilled synchronize limit { t with inbox := [] } (batch :: batches) v := by
    intro batches v hbatches
    rw [hsame] at hbatches
    exact .more rfl hbatch hbatches
  have hping := pinged_behind hlines
  cases h with
  | @found batches front rest m state₂ state₃ v hbatches hheld hneeded hrest hm hpings =>
      rw [← List.append_assoc]
      refine .found (hmore hbatches) ?_ (fun _ => ?_) (hfront.append hrest) hm
        (hpings.trans (hping batches.length))
      · rw [List.flatten_cons, List.append_assoc]
        exact congrArg (t.inbox ++ ·) hheld
      · cases batches with
        | nil => exact ⟨front, by simp⟩
        | cons other others =>
            rw [List.dropLast_cons_of_ne_nil (List.cons_ne_nil _ _), List.flatten_cons]
            exact (List.prefix_append_right_inj _).2 (hneeded (List.cons_ne_nil _ _))
  | @failed batches state₂ v w e hbatches hrest hfails hinbox hpings =>
      exact .failed (hmore hbatches) (hfront.append hrest) hfails hinbox
        (hpings.trans (hping (batches.length + 1)))
  | @abandoned batches state₂ v w hbatches hrest hwaits hinbox hpings =>
      exact .abandoned (hmore hbatches) (hfront.append hrest) hwaits hinbox
        (hpings.trans (hping (batches.length + 1)))

/-- A message that was left over is accepted. -/
theorem searched_of_some {state₂ : σ} {m : Message} {rest : List Message}
    (hf : firstAccepted filter state t.inbox = (some (m, rest), state₂)) :
    ∃ front, t.inbox = front ++ m :: rest ∧
      Searched filter synchronize limit state t (.ok m, state₂, { t with inbox := rest })
        (front ++ [m]) := by
  rcases exists_front_of_firstAccepted hf with ⟨front, state₁, hheld, hfront, hm⟩
  have hnone : Refilled synchronize limit { t with inbox := [] } [] { t with inbox := [] } :=
    .none rfl
  refine ⟨front, hheld, .found (u := { t with inbox := [] }) hnone ?_ (fun h => absurd rfl h) hfront
    hm (ite_self _).symm⟩
  rw [List.flatten_nil, List.append_nil]
  exact hheld

/-- The first collection of a search is the last one if it gives nothing. -/
theorem last_of_collectLines {outcome : Outcome (List Received)}
    (hlines : { t with inbox := [] }.collectLines synchronize true false false limit =
      (outcome, u)) :
    { t with inbox := [] }.collect synchronize true limit =
        (outcome.map fun lines => lines.filterMap Received.message, u) ∧
      u.inbox = [] ∧ u.outgoing = if synchronize then t.pinged 1 else t.outgoing := by
  have hinbox := inbox_collectLines { t with inbox := [] } synchronize true false false limit
  rw [hlines] at hinbox
  refine ⟨?_, hinbox, (ite_self _).symm.trans (pinged_behind hlines 0)⟩
  rw [collect_of_empty rfl, hlines]

theorem searched_of_failed {e : TransportError}
    (hf : firstAccepted filter state t.inbox = (none, state₁))
    (hlines : { t with inbox := [] }.collectLines synchronize true false false limit =
      (.error e, u)) :
    Searched filter synchronize limit state t (.error e, state₁, u) t.inbox := by
  rcases last_of_collectLines hlines with ⟨hfails, hinbox, hpings⟩
  have hfront := firstAccepted_eq_none_iff.1 hf
  rw [← List.append_nil t.inbox, ← List.flatten_nil] at hfront
  have hends := Searched.failed (.none rfl) hfront hfails hinbox hpings
  rw [List.flatten_nil, List.append_nil] at hends
  exact hends

theorem searched_of_abandoned
    (hf : firstAccepted filter state t.inbox = (none, state₁))
    (hlines : { t with inbox := [] }.collectLines synchronize true false false limit =
      (.abandoned, u)) :
    Searched filter synchronize limit state t (.abandoned, state₁, u) t.inbox := by
  rcases last_of_collectLines hlines with ⟨hwaits, hinbox, hpings⟩
  have hfront := firstAccepted_eq_none_iff.1 hf
  rw [← List.append_nil t.inbox, ← List.flatten_nil] at hfront
  have hends := Searched.abandoned (.none rfl) hfront hwaits hinbox hpings
  rw [List.flatten_nil, List.append_nil] at hends
  exact hends

/-- A filter that remembers what it was shown was shown everything when it accepts
    nothing. -/
theorem firstAccepted_recording_of_none {messages : List Message}
    (hf : firstAccepted filter state messages = (none, state₁)) (seen : List Message) :
    firstAccepted (recording filter) (state, seen) messages =
      (none, (state₁, seen ++ messages)) := by
  rcases firstAccepted_recording filter state seen messages with ⟨front, hrecord, hmessages⟩
  rw [hf] at hrecord hmessages
  rw [Option.map_none, Option.getD_none, List.append_nil] at hmessages
  rw [hrecord, ← hmessages]

/-- A search ends in one of three ways, and a filter that remembers what it was
    shown does not change that. -/
theorem searched_getOne (filter : σ → Message → Bool × σ) (synchronize : Bool) (limit : Nat)
    (state : σ) (t : Transport) : ∀ seen : List Message, ∃ shown,
      t.getOne (recording filter) synchronize limit (state, seen) =
        ((t.getOne filter synchronize limit state).1,
          ((t.getOne filter synchronize limit state).2.1, seen ++ shown),
          (t.getOne filter synchronize limit state).2.2) ∧
      Searched filter synchronize limit state t (t.getOne filter synchronize limit state)
        shown := by
  -- What was shown so far changes from one collection to the next.
  fun_induction getOne filter synchronize limit state t with
  | case1 state t m rest state₂ hf =>
      intro seen
      rcases firstAccepted_recording filter state seen t.inbox with ⟨shown, hrecord, hinbox⟩
      rcases searched_of_some hf with ⟨front, hheld, hsearched⟩
      rw [hf] at hrecord hinbox
      have hshown : shown = front ++ [m] := by
        have hboth : shown ++ rest = front ++ [m] ++ rest := by
          rw [List.append_assoc, List.singleton_append, ← hheld]
          exact hinbox.symm
        exact List.append_cancel_right hboth
      rw [hshown] at hrecord
      exact ⟨front ++ [m], getOne_of_some hrecord synchronize limit, hsearched⟩
  | case2 state t state₁ hf e u hlines =>
      intro seen
      refine ⟨t.inbox, ?_, searched_of_failed hf hlines⟩
      rw [getOne_of_none (firstAccepted_recording_of_none hf seen), hlines]
  | case3 state t state₁ hf u hlines =>
      intro seen
      refine ⟨t.inbox, ?_, searched_of_abandoned hf hlines⟩
      rw [getOne_of_none (firstAccepted_recording_of_none hf seen), hlines]
  | case4 state t state₁ hf u hlines =>
      -- A collection of a search never gives nothing.
      rcases gather_of_collectLines hlines with ⟨v, hgather⟩
      exact absurd rfl (ne_nil_of_gather rfl rfl (congrArg Prod.fst hgather))
  | case5 state t state₁ hf lines u hlines hl ih =>
      intro seen
      rcases ih (seen ++ t.inbox) with ⟨shown, hrecord, hsearched⟩
      refine ⟨t.inbox ++ shown, ?_,
        hsearched.behind (firstAccepted_eq_none_iff.1 hf) (last_of_collectLines hlines).1⟩
      rw [getOne_of_none (firstAccepted_recording_of_none hf seen), hlines, ← List.append_assoc]
      exact (if_neg hl).trans hrecord

/-- A search goes on behind everything that it has turned down. -/
theorem getOne_of_refilled (h : Refilled synchronize limit { t with inbox := [] } batches u)
    (hfront : TurnsDown filter state (t.inbox ++ batches.flatten) state₁) :
    t.getOne filter synchronize limit state = u.getOne filter synchronize limit state₁ := by
  induction batches generalizing t state with
  | nil =>
      rw [List.flatten_nil, List.append_nil] at hfront
      cases h with
      | none hinbox =>
          have hnone : firstAccepted filter state₁ [] = (none, state₁) :=
            firstAccepted_eq_none_iff.2 (.nil state₁)
          rw [getOne_of_none (firstAccepted_eq_none_iff.2 hfront),
            getOne_of_none (t := { t with inbox := [] }) hnone]
  | cons batch batches ih =>
      rcases hfront.of_append with ⟨state₂, hinbox, hrest⟩
      cases h with
      | @more _ v _ _ _ hempty hbatch h =>
          rcases exists_lines_of_collect rfl hbatch with ⟨-, lines, hne, rfl, hlines⟩
          have hv : { v with inbox := [] } = v := by
            have hkept := inbox_collectLines { t with inbox := [] } synchronize true false false
              limit
            rw [hlines] at hkept
            rw [← hkept.trans hempty]
          rw [getOne_of_none (firstAccepted_eq_none_iff.2 hinbox), hlines]
          refine (if_neg hne).trans (ih ?_ hrest)
          rw [hv]
          exact h

/-- A search shows its filter the messages that were left over and then those of
    one collection after the other, in order and each of them once, up to the
    first one that is accepted. The messages behind it stay. A collection is made
    only when all in hand was turned down, with one `PING` if the search is
    synchronized and with none if it is not. The search gives no message exactly
    when such a `PING` is answered by the first line that comes. -/
theorem getOne_finds_first (filter : σ → Message → Bool × σ) (synchronize : Bool) (limit : Nat)
    (state : σ) (t : Transport) :
    Searched filter synchronize limit state t (t.getOne filter synchronize limit state)
        (t.shown filter synchronize limit state) ∧
      ((t.getOne filter synchronize limit state).1 = .error .noMessage ↔
        synchronize = true ∧ ∃ batches state₁ u,
          Refilled synchronize limit { t with inbox := [] } batches u ∧
            TurnsDown filter state (t.inbox ++ batches.flatten) state₁ ∧ u.AnswersFirst limit) := by
  rcases searched_getOne filter synchronize limit state t [] with ⟨shown, hrecord, hsearched⟩
  have hshown : t.shown filter synchronize limit state = shown := by
    unfold Transport.shown
    rw [hrecord]
    rfl
  rw [hshown]
  refine ⟨hsearched, fun h => ?_, ?_⟩
  · cases hresult : t.getOne filter synchronize limit state with
    | mk outcome rest =>
        rw [hresult] at hsearched h
        cases hsearched with
        | found => cases h
        | abandoned => cases h
        | @failed batches state₁ u v e hbatches hfront hfails hinbox hpings =>
            -- Nothing was left over, so the collection gave no line either.
            have hnone := congrArg Prod.fst hfails
            rw [collect_of_empty hbatches.inbox, Outcome.map_eq_error_iff,
              show e = .noMessage from Outcome.error.inj h, collectLines_noMessage_iff] at hnone
            exact ⟨hnone.1, batches, state₁, u, hbatches, hfront, hnone.2⟩
  · rintro ⟨hsync, batches, state₁, u, hbatches, hfront, hanswer⟩
    have hu : { u with inbox := [] } = u := by rw [← hbatches.inbox]
    have hnone : firstAccepted filter state₁ u.inbox = (none, state₁) := by
      rw [hbatches.inbox]
      exact firstAccepted_eq_none_iff.2 (.nil state₁)
    have hlines := collectLines_noMessage_iff.2 ⟨hsync, hanswer⟩
    rw [getOne_of_refilled hbatches hfront, getOne_of_none hnone, hu]
    cases hcollect : u.collectLines synchronize true false false limit with
    | mk outcome w =>
        rw [hcollect] at hlines
        rw [show outcome = .error .noMessage from hlines]

/-- The third message is in the second batch, and the one behind it stays. -/
example :
    (Transport.getOne (fun n _ => (n == 2, n + 1)) true 10000 0
      { Transport.initial "c" .initial fun _ => ⟨0, 0⟩ with
        peer := Peer.idle.willDo
          [.data [.literal (Utf8.ofString "A\r\nB\r\nPONG "), .latestToken,
              .literal (Utf8.ofString "\r\nC\r\n")],
            .data [.literal (Utf8.ofString "D\r\nPONG "), .latestToken,
              .literal (Utf8.ofString "\r\n")]] }).map id (fun r => (r.1, r.2.inbox)) =
      (.ok ⟨[], none, "C", []⟩, 3, [⟨[], none, "D", []⟩]) := by
  decide +kernel

end Searched

end Transport

end IrcHarness
