import IrcHarness.Proofs.Transport.Synchronization

/-!
# What a Collection Takes

A collection takes lines off the stream, one after the other, and each of them
is judged. Most are kept. The answer to the `PING` and the lines that make the
collection fail are taken as well, and they are always the last: whatever ends
a collection, the bytes behind the last line that it took are all still there.

Two things end a collection without a line, the end of the stream and a read
that fails. They take the tail in front of them along, or leave it without the
invariant, so nothing is said of the stream then (`ends_of_gather`).

Everything that is later asked of a collection, what it gives, what it loses
and where it leaves the stream, is read off the lines that it took. So the loop
is opened once, here.

## Main definitions

* `Request.Keeps`: Lines that a collection keeps, one after the other.
* `Request.Offends`: A line that makes a collection fail.
* `Request.Ends`: How the lines that a collection takes end it.
* `Transport.Takes`: Lines that came off the stream between two states.
* `TransportError.IsRefusal`: A failure that a line brought about.

## Theorems

* `offends_of_judge`: A line fails a collection for one of three reasons.
* `Keeps.messages`: A collection keeps the messages of its lines.
* `ends_of_gather`, `ends_of_collectLines`: What a collection takes.
* `Takes.exists_bytes`: What the peer delivered for it.
* `getOne_of_some`, `getOne_of_none`: How a search for one message goes on.
-/

namespace IrcHarness

open StreamItem (ofBytes)

namespace Request

/-- Lines that a collection keeps, one after the other. -/
inductive Keeps (r : Request) : List Received → List (List UInt8) → List Received → Prop where
  /-- No line. -/
  | nil (taken : List Received) : Keeps r taken [] taken
  /-- One line, and then others. -/
  | cons {taken taken' : List Received} {line : List UInt8} {lines : List (List UInt8)}
      {received : Received} (hj : r.judge taken line = .keep received)
      (h : Keeps r (taken ++ [received]) lines taken') : Keeps r taken (line :: lines) taken'

/-- A line that makes a collection fail. -/
inductive Offends (r : Request) (taken : List Received) (line : List UInt8) :
    TransportError → Prop where
  /-- It is no message, and the collection is for messages. -/
  | parse {cause : ParseError} (hraw : r.raw = false)
      (hparse : Message.parseBytes line = .error cause) :
      Offends r taken line (.parse (String.ofList (Utf8.decodeLossy line)) cause)
  /-- It is the answer, and nothing came in front of it although something had
      to. -/
  | noMessage {token : String} {m : Message} (htoken : r.token = some token)
      (hparse : Message.parseBytes line = .ok m) (hanswer : m.answersPing token = true)
      (hrequired : r.required = true) (hnone : taken = []) : Offends r taken line .noMessage
  /-- It refuses the `PING`. -/
  | syncRejected {token : String} {m : Message} (htoken : r.token = some token)
      (hparse : Message.parseBytes line = .ok m) (hanswer : m.answersPing token = false)
      (hrefuses : m.refusesPing = true) :
      Offends r taken line (.syncRejected (String.ofList (Utf8.decodeLossy line)))

/-- How the lines that a collection takes end it. -/
inductive Ends (r : Request) : List (List UInt8) → Outcome (List Received) → Prop where
  /-- There is enough, and no answer is waited for. -/
  | enough {lines : List (List UInt8)} {taken : List Received} (h : r.Keeps [] lines taken)
      (htoken : r.token = none) : Ends r lines (.ok taken)
  /-- The last line is the answer. -/
  | answered {lines : List (List UInt8)} {taken : List Received} {line : List UInt8}
      {token : String} {m : Message} (h : r.Keeps [] lines taken) (htoken : r.token = some token)
      (hparse : Message.parseBytes line = .ok m) (hanswer : m.answersPing token = true) :
      Ends r (lines ++ [line]) (.ok taken)
  /-- The last line makes the collection fail. -/
  | refused {lines : List (List UInt8)} {taken : List Received} {line : List UInt8}
      {e : TransportError} (h : r.Keeps [] lines taken) (he : r.Offends taken line e) :
      Ends r (lines ++ [line]) (.error e)
  /-- The caller lost patience. -/
  | abandoned {lines : List (List UInt8)} {taken : List Received} (h : r.Keeps [] lines taken) :
      Ends r lines .abandoned

variable {r : Request} {taken taken' : List Received} {line : List UInt8}
  {lines : List (List UInt8)}

theorem Keeps.append {more : List (List UInt8)} {taken'' : List Received}
    (h : r.Keeps taken lines taken') (hmore : r.Keeps taken' more taken'') :
    r.Keeps taken (lines ++ more) taken'' := by
  induction h with
  | nil taken => exact hmore
  | cons hj _ ih => exact .cons hj (ih hmore)

theorem Keeps.snoc {received : Received} (h : r.Keeps taken lines taken')
    (hj : r.judge taken' line = .keep received) :
    r.Keeps taken (lines ++ [line]) (taken' ++ [received]) :=
  h.append (.cons hj (.nil _))

/-- A line fails a collection for one of three reasons. -/
theorem offends_of_judge {e : TransportError} (h : r.judge taken line = .fail e) :
    r.Offends taken line e := by
  unfold judge at h
  cases hparse : Message.parseBytes line with
  | error cause =>
      simp only [hparse] at h
      by_cases hraw : r.raw = true
      · rw [if_pos hraw] at h
        cases h
      · rw [if_neg hraw, Judgement.fail.injEq] at h
        rw [← h]
        exact .parse (Bool.eq_false_iff.2 hraw) hparse
  | ok m =>
      cases htoken : r.token with
      | none => simp only [hparse, htoken, reduceCtorEq] at h
      | some token =>
          simp only [hparse, htoken] at h
          by_cases hanswer : m.answersPing token = true
          · rw [if_pos hanswer] at h
            by_cases hnone : r.required = true ∧ taken = []
            · rw [if_pos hnone, Judgement.fail.injEq] at h
              rw [← h]
              exact .noMessage htoken hparse hanswer hnone.1 hnone.2
            · rw [if_neg hnone] at h
              cases h
          · rw [if_neg hanswer] at h
            by_cases hrefuses : m.refusesPing = true
            · rw [if_pos hrefuses, Judgement.fail.injEq] at h
              rw [← h]
              exact .syncRejected htoken hparse (Bool.eq_false_iff.2 hanswer) hrefuses
            · rw [if_neg hrefuses] at h
              cases h

/-- Only the answer ends a collection that succeeds with a line. -/
theorem answer_of_judge (h : r.judge taken line = .complete) :
    ∃ token m, r.token = some token ∧ Message.parseBytes line = .ok m ∧
      m.answersPing token = true := by
  unfold judge at h
  cases hparse : Message.parseBytes line with
  | error cause =>
      simp only [hparse] at h
      split at h <;> cases h
  | ok m =>
      cases htoken : r.token with
      | none => simp only [hparse, htoken, reduceCtorEq] at h
      | some token =>
          simp only [hparse, htoken] at h
          by_cases hanswer : m.answersPing token = true
          · exact ⟨token, m, rfl, rfl, hanswer⟩
          · rw [if_neg hanswer] at h
            split at h <;> cases h

/-- A collection for messages keeps a line with its message. -/
theorem message_of_judge (hraw : r.raw = false) {received : Received}
    (h : r.judge taken line = .keep received) :
    ∃ m, Message.parseBytes line = .ok m ∧ received.message = some m := by
  unfold judge at h
  cases hparse : Message.parseBytes line with
  | error cause =>
      simp only [hparse, hraw, Bool.false_eq_true, if_false, reduceCtorEq] at h
  | ok m =>
      refine ⟨m, rfl, ?_⟩
      simp only [hparse] at h
      -- Whatever the token, a line that is kept is kept as it is.
      split at h
      · rw [Judgement.keep.injEq] at h
        rw [← h]
      · split at h
        · split at h <;> cases h
        · split at h
          · cases h
          · rw [Judgement.keep.injEq] at h
            rw [← h]

/-- A collection for messages keeps the messages of its lines. -/
theorem Keeps.messages (hraw : r.raw = false) (h : r.Keeps taken lines taken') :
    ∃ messages, lines.map Message.parseBytes = messages.map .ok ∧
      taken'.filterMap Received.message = taken.filterMap Received.message ++ messages := by
  induction h with
  | nil taken => exact ⟨[], rfl, (List.append_nil _).symm⟩
  | cons hj _ ih =>
      rcases message_of_judge hraw hj with ⟨m, hparse, hm⟩
      rcases ih with ⟨messages, hlines, hkept⟩
      refine ⟨m :: messages, by rw [List.map_cons, hparse, hlines, List.map_cons], ?_⟩
      rw [hkept, List.filterMap_append, List.filterMap_cons_some hm, List.filterMap_nil,
        List.append_assoc, List.singleton_append]

end Request

/-- A failure that a line brought about. -/
def TransportError.IsRefusal : TransportError → Prop
  | parse _ _ | syncRejected _ | noMessage => True
  | connectionClosed | encode _ | io _ => False

namespace Transport

/-- Lines that came off the stream between two states, and nothing else did. The
    tokens are those of the second state, so they existed all the while. -/
structure Takes (t : Transport) (lines : List (List UInt8)) (t' : Transport) : Prop where
  /-- Each line is one line. -/
  clean : ∀ line ∈ lines, Line.isIn line = false
  /-- The stream begins with the lines, and all behind them is still to come. -/
  stream : t.ahead t'.tokens = ofBytes (Line.wire lines) ++ t'.ahead t'.tokens
  /-- Nothing that was read comes back. -/
  later : t'.peer.items t'.tokens <:+ t.peer.items t'.tokens
  /-- No read has failed. -/
  sound : t'.framing.Sound

variable {t u v : Transport} {lines more : List (List UInt8)}

theorem Takes.refl (hs : t.framing.Sound) : Takes t [] t :=
  ⟨fun _ h => absurd h List.not_mem_nil, rfl, List.suffix_refl _, hs⟩

theorem Takes.trans (h : Takes t lines u) (htokens : v.tokens = u.tokens) (h' : Takes u more v) :
    Takes t (lines ++ more) v := by
  have hstream := h.stream
  have hlater := h.later
  rw [← htokens] at hstream hlater
  refine ⟨fun line hl => ?_, ?_, h'.later.trans hlater, h'.sound⟩
  · rcases List.mem_append.1 hl with hl | hl
    · exact h.clean line hl
    · exact h'.clean line hl
  · have hwire : Line.wire (lines ++ more) = Line.wire lines ++ Line.wire more :=
      List.flatMap_append
    rw [hstream, h'.stream, hwire, StreamItem.ofBytes_append, List.append_assoc]

/-- The log makes no difference to what is taken. -/
theorem Takes.noteLine (h : Takes t lines u) (direction text : String) :
    Takes t lines (u.noteLine direction text) :=
  ⟨h.clean, h.stream, h.later, h.sound⟩

theorem agree_of_gather {r : Request} {taken : List Received} {outcome : Outcome (List Received)}
    (h : gather r taken t = (outcome, u)) : Agree t u := by
  have hagree := agree_gather r taken t
  rw [h] at hagree
  exact hagree

theorem later_of_receive {deadline : Nat} {a : Arrival} (h : t.receive deadline = (a, u)) :
    u.peer.items u.tokens <:+ t.peer.items u.tokens := by
  have hnext := Framing.items_suffix_next t.tokens deadline t.framing t.peer
  rw [(agree_of_receive h).tokens]
  unfold receive at h
  rw [Prod.mk.injEq] at h
  rw [← h.2]
  exact hnext

/-- A line that arrives is taken off the stream. -/
theorem takes_of_receive (hs : t.framing.Sound) {deadline : Nat} {line : List UInt8}
    (h : t.receive deadline = (.line line, u)) : Takes t [line] u := by
  have hlater := later_of_receive h
  have htokens := (agree_of_receive h).tokens
  cases serves_of_receive hs h with
  | line hs' hline hahead hover =>
      refine ⟨fun l hl => ?_, ?_, hlater, hs'⟩
      · rw [List.mem_singleton.1 hl]
        exact hline
      · have hwire : Line.wire [line] = line ++ Line.ending := List.append_nil _
        rw [hwire, htokens]
        exact hahead

/-- An attempt in vain takes nothing off the stream. -/
theorem takes_of_timedOut (hs : t.framing.Sound) {deadline : Nat}
    (h : t.receive deadline = (.timedOut, u)) : Takes t [] u := by
  have hlater := later_of_receive h
  have htokens := (agree_of_receive h).tokens
  cases serves_of_receive hs h with
  | timedOut hs' hpart hahead hnow hl =>
      refine ⟨fun l hl => absurd hl List.not_mem_nil, ?_, hlater, hs'⟩
      rw [htokens]
      exact hahead.symm

theorem takes_wait (hs : t.framing.Sound) (moment : Nat) :
    Takes t [] ((t.note .trace "waiting").waitUntil moment) := by
  have hitems := Peer.items_waitUntil t.tokens t.peer moment
  refine ⟨fun l hl => absurd hl List.not_mem_nil, ?_, ?_, hs⟩
  · exact congrArg (ofBytes t.framing.buffer.bytes ++ ·) hitems.symm
  · exact hitems ▸ List.suffix_refl _

/-- A collection ends with the stream or a failed read, or it takes lines that
    end it, behind the lines that it has kept before. -/
theorem ends_of_gather {r : Request} {taken : List Received} (hs : t.framing.Sound)
    {outcome : Outcome (List Received)} (h : gather r taken t = (outcome, u)) :
    ∀ {front : List (List UInt8)}, r.Keeps [] front taken →
      (outcome = .error .connectionClosed ∨ ∃ f, outcome = .error (.io f)) ∨
        ∃ lines, r.Ends (front ++ lines) outcome ∧ Takes t lines u := by
  -- The lines in front grow with every line that is kept, so they are not fixed
  -- before the induction.
  fun_induction gather r taken t with
  | case1 taken t hc =>
      intro front hkept
      rw [Prod.mk.injEq] at h
      rcases h with ⟨rfl, rfl⟩
      refine .inr ⟨[], ?_, .refl hs⟩
      rw [List.append_nil]
      simp only [Request.isComplete, Bool.and_eq_true, Option.isNone_iff_eq_none] at hc
      exact .enough hkept hc.1.1
  | case2 taken t hc line t' hr _ received hj ih =>
      intro front hkept
      have htake := takes_of_receive hs hr
      rcases ih htake.sound h (hkept.snoc hj) with hend | ⟨lines, hends, htakes⟩
      · exact .inl hend
      · refine .inr ⟨line :: lines, ?_, ?_⟩
        · rw [List.append_assoc] at hends
          exact hends
        · exact (htake.noteLine _ _).trans (agree_of_gather h).tokens htakes
  | case3 taken t hc line t' hr _ hj =>
      -- The answer is taken off the stream like any other line, and it is the last.
      intro front hkept
      rw [Prod.mk.injEq] at h
      rcases h with ⟨rfl, rfl⟩
      rcases Request.answer_of_judge hj with ⟨token, m, htoken, hparse, hanswer⟩
      exact .inr ⟨[line], .answered hkept htoken hparse hanswer,
        (takes_of_receive hs hr).noteLine _ _⟩
  | case4 taken t hc line t' hr _ e hj =>
      intro front hkept
      rw [Prod.mk.injEq] at h
      rcases h with ⟨rfl, rfl⟩
      exact .inr ⟨[line], .refused hkept (Request.offends_of_judge hj),
        (takes_of_receive hs hr).noteLine _ _⟩
  | case5 taken t hc t' hr =>
      intro front hkept
      rw [Prod.mk.injEq] at h
      exact .inl (.inl h.1.symm)
  | case6 taken t hc f t' hr hf =>
      intro front hkept
      rw [Prod.mk.injEq] at h
      exact .inl (.inl h.1.symm)
  | case7 taken t hc f t' hr hf =>
      intro front hkept
      rw [Prod.mk.injEq] at h
      exact .inl (.inr ⟨f, h.1.symm⟩)
  | case8 taken t hc t' hr hl =>
      intro front hkept
      rw [Prod.mk.injEq] at h
      rcases h with ⟨rfl, rfl⟩
      refine .inr ⟨[], ?_, takes_of_timedOut hs hr⟩
      rw [List.append_nil]
      exact .abandoned hkept
  | case9 taken t hc t' hr hl he =>
      intro front hkept
      rw [Prod.mk.injEq] at h
      rcases h with ⟨rfl, rfl⟩
      refine .inr ⟨[], ?_, takes_of_timedOut hs hr⟩
      rw [List.append_nil]
      simp only [Request.endsInSilence, Bool.and_eq_true, Option.isNone_iff_eq_none] at he
      exact .enough hkept he.1.1
  | case10 taken t hc t' hr hl he ht ih =>
      -- Neither the attempt in vain nor the wait takes a line.
      intro front hkept
      have htimed := takes_of_timedOut hs hr
      have hwait := takes_wait htimed.sound (t.peer.now + 1)
      rcases ih htimed.sound h hkept with hend | ⟨lines, hends, htakes⟩
      · exact .inl hend
      · have htokens := (agree_wait t' (t.peer.now + 1)).tokens
        have hwaited := htimed.trans htokens hwait
        exact .inr ⟨lines, hends, hwaited.trans (agree_of_gather h).tokens htakes⟩
  | case11 taken t hc t' hr hl he ht =>
      intro front hkept
      rw [Prod.mk.injEq] at h
      rcases h with ⟨rfl, rfl⟩
      refine .inr ⟨[], ?_, takes_of_timedOut hs hr⟩
      rw [List.append_nil]
      exact .abandoned hkept

/-- What a call asks of its collection. -/
def request (t : Transport) (synchronize required queued raw : Bool) (limit : Nat) : Request :=
  ⟨if synchronize then some t.nextToken else none, required, queued, raw, limit⟩

/-- The tokens once a collection has begun. -/
def tokensOf (t : Transport) (synchronize : Bool) : List String :=
  if synchronize then t.tokens ++ [t.nextToken] else t.tokens

/-- A `PING` that goes out carries the next token, and one that does not means
    that the peer is gone. -/
theorem sendPing_cases (t : Transport) :
    (∃ u, t.sendPing = (.ok t.nextToken, u)) ∨ ∃ u, t.sendPing = (.error .connectionClosed, u) := by
  unfold sendPing
  dsimp only
  split
  · next u hsent => exact .inl ⟨u, rfl⟩
  · next e u hsent =>
      refine .inr ⟨u, ?_⟩
      simp only [sendLine] at hsent
      split at hsent
      · exact absurd (congrArg Prod.fst hsent) (by simp only [reduceCtorEq, not_false_eq_true])
      · rw [Prod.mk.injEq, Except.error.injEq] at hsent
        rw [← hsent.1]

/-- No collection touches the messages that were left over. -/
theorem inbox_collectLines (t : Transport) (synchronize required queued raw : Bool) (limit : Nat) :
    (t.collectLines synchronize required queued raw limit).2.inbox = t.inbox := by
  unfold collectLines
  by_cases hsync : synchronize = true
  · rw [if_pos hsync]
    cases hp : t.sendPing with
    | mk answer u =>
        have hping := congrArg Transport.inbox (sendPing_eq hp)
        cases answer with
        | error e => exact hping
        | ok token => exact (agree_gather _ [] u).inbox.trans hping
  · rw [if_neg hsync]
    exact (agree_gather _ [] t).inbox

/-- Without messages that were left over, collecting messages is collecting lines
    and giving their messages. -/
theorem collect_of_empty {t : Transport} (hinbox : t.inbox = []) (synchronize required : Bool)
    (limit : Nat) :
    t.collect synchronize required limit =
      ((t.collectLines synchronize required false false limit).1.map fun lines =>
        lines.filterMap Received.message,
        (t.collectLines synchronize required false false limit).2) := by
  have hkept := inbox_collectLines t synchronize required false false limit
  rw [hinbox] at hkept
  unfold collect
  simp only [hinbox, List.isEmpty_nil, Bool.not_true, Bool.not_false, Bool.and_true]
  cases hlines : t.collectLines synchronize required false false limit with
  | mk outcome u =>
      rw [hlines] at hkept
      cases outcome with
      | error e => rfl
      | abandoned => rfl
      | ok lines =>
          have hempty : u.inbox = [] := hkept
          simp only [hempty, List.nil_append, Outcome.map]
          rw [← hempty]

/-- A collection ends with the stream, a failed read or a failed write, or it
    takes lines that end it. -/
theorem ends_of_collectLines (hs : t.framing.Sound) {synchronize required queued raw : Bool}
    {limit : Nat} {outcome : Outcome (List Received)}
    (h : t.collectLines synchronize required queued raw limit = (outcome, u)) :
    (outcome = .error .connectionClosed ∨ ∃ f, outcome = .error (.io f)) ∨
      ∃ lines, (t.request synchronize required queued raw limit).Ends lines outcome ∧
        Takes t lines u ∧ u.tokens = t.tokensOf synchronize := by
  unfold collectLines at h
  by_cases hsync : synchronize = true
  · rw [if_pos hsync] at h
    rcases sendPing_cases t with ⟨v, hp⟩ | ⟨v, hp⟩
    · have hping := sendPing_eq hp
      have htokens : v.tokens = t.tokens ++ [t.nextToken] := by
        rw [hping]
        exact tokens_succ t
      simp only [hp] at h
      rcases ends_of_gather (by rw [hping]; exact hs) h (.nil []) with hend | ⟨lines, hends, htake⟩
      · exact .inl hend
      · refine .inr ⟨lines, ?_, ⟨htake.clean, ?_, ?_, htake.sound⟩, ?_⟩
        · unfold request
          rw [if_pos hsync]
          exact hends
        -- The `PING` leaves the stream as it is.
        · rw [← htake.stream, hping]
          rfl
        · have hlater := htake.later
          rw [hping] at hlater
          exact hlater
        · unfold tokensOf
          rw [if_pos hsync, (agree_of_gather h).tokens, htokens]
    · simp only [hp] at h
      rw [Prod.mk.injEq] at h
      exact .inl (.inl h.1.symm)
  · rw [if_neg hsync] at h
    rcases ends_of_gather hs h (.nil []) with hend | ⟨lines, hends, htake⟩
    · exact .inl hend
    · refine .inr ⟨lines, ?_, htake, ?_⟩
      · unfold request
        rw [if_neg hsync]
        exact hends
      · unfold tokensOf
        rw [if_neg hsync]
        exact (agree_of_gather h).tokens

/-- A failure that is ahead stays ahead while lines are taken. -/
theorem Takes.faults (h : Takes t lines u) : u.peer.faults = t.peer.faults := by
  have hcount := congrArg (List.countP StreamItem.isFailed) h.stream
  unfold ahead at hcount
  rw [List.countP_append, StreamItem.countP_ofBytes, Nat.zero_add, Framing.countP_ahead,
    Framing.countP_ahead] at hcount
  exact hcount.symm

/-- What was taken and what is unread had been unread before, or the reads
    brought it. -/
theorem Takes.unread_append (h : Takes t lines u) {bytes : List UInt8}
    (hbytes : t.peer.items u.tokens = ofBytes bytes ++ u.peer.items u.tokens) :
    t.unread ++ bytes = Line.wire lines ++ u.unread := by
  have hstream := h.stream
  unfold ahead Framing.ahead at hstream
  rw [hbytes, ← List.append_assoc, ← List.append_assoc, ← StreamItem.ofBytes_append,
    ← StreamItem.ofBytes_append] at hstream
  have hinj : Function.Injective StreamItem.byte := fun a b he => StreamItem.byte.inj he
  exact List.map_injective_iff.2 hinj (List.append_cancel_right hstream)

/-- While lines are taken, the reads bring nothing but bytes. -/
theorem Takes.exists_bytes (h : Takes t lines u) :
    ∃ bytes, t.peer.items u.tokens = ofBytes bytes ++ u.peer.items u.tokens := by
  rcases h.later with ⟨items, hitems⟩
  have hstream := h.stream
  unfold ahead Framing.ahead at hstream
  rw [← hitems, ← List.append_assoc, ← List.append_assoc, ← StreamItem.ofBytes_append] at hstream
  -- Everything in front of what is still to come is made of bytes.
  rcases List.append_eq_map_iff.1 (List.append_cancel_right hstream) with
    ⟨front, bytes, _, _, rfl⟩
  exact ⟨bytes, hitems.symm⟩

theorem getOne_of_some {σ : Type} {filter : σ → Message → Bool × σ} {state state' : σ} {m : Message}
    {rest : List Message} (hf : firstAccepted filter state t.inbox = (some (m, rest), state'))
    (synchronize : Bool) (limit : Nat) :
    t.getOne filter synchronize limit state = (.ok m, state', { t with inbox := rest }) := by
  rw [getOne]
  simp only [hf]

/-- When nothing that was left over is accepted, one collection decides how a
    search goes on. -/
theorem getOne_of_none {σ : Type} {filter : σ → Message → Bool × σ} {state state' : σ}
    (hf : firstAccepted filter state t.inbox = (none, state')) (synchronize : Bool) (limit : Nat) :
    t.getOne filter synchronize limit state =
      match { t with inbox := [] }.collectLines synchronize true false false limit with
      | (.error e, u) => (.error e, state', u)
      | (.abandoned, u) => (.abandoned, state', u)
      | (.ok lines, u) =>
        if lines = [] then (.error .noMessage, state', u)
        else { u with inbox := lines.filterMap Received.message }.getOne filter synchronize limit
          state' := by
  rw [getOne]
  simp only [hf]
  split
  · next heq => rw [heq]
  · next heq => rw [heq]
  · next heq =>
      rw [heq]
      rfl

end Transport

end IrcHarness
