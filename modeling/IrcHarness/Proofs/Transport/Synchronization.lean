import IrcHarness.Proofs.Transport.Reach

/-!
# Synchronized Collections

A synchronized collection gives the messages in front of the answer to its
`PING`, all of them and nothing else, and leaves the stream right behind that
answer. How the bytes are cut into reads, what was read before and how often a
read gives up in between make no difference.

The argument goes line by line. One line comes off the stream after any number
of attempts in vain, each of which leaves the stream and the moment at which it
is over as they were (`gather_line`). The lines in front of the answer are kept
one after the other, and the answer ends the collection (`gather_of_answer`).

## Main definitions

* `MessageLine`: A line that is a message.
* `Request.NeedsLine`: A collection that has to go on until a line comes.
* `Message.PassesBy`: A message that does not end a synchronized collection.
* `Transport.nextToken`: The token of the next synchronization.

## Theorems

* `gather_line`: A collection that needs a line takes the first one.
* `gather_of_answer`: A collection takes the lines in front of the answer.
* `collect_synchronized`: A synchronized collection is exact.
-/

namespace IrcHarness

open StreamItem (ofBytes)

/-- A line that is a message. -/
structure MessageLine where
  /-- The bytes of the line. -/
  bytes : List UInt8
  /-- What they say. -/
  message : Message
  /-- The line is one line. -/
  clean : Line.isIn bytes = false
  /-- The line says it. -/
  parses : Message.parseBytes bytes = .ok message

namespace MessageLine

/-- Lines as they are sent. -/
def wire (lines : List MessageLine) : List UInt8 :=
  Line.wire (lines.map bytes)

/-- What a collection takes for a line. -/
def received (line : MessageLine) : Received :=
  ⟨String.ofList (Utf8.decodeLossy line.bytes), some line.message⟩

theorem wire_cons (line : MessageLine) (lines : List MessageLine) :
    wire (line :: lines) = line.bytes ++ Line.ending ++ wire lines := rfl

theorem filterMap_received (lines : List MessageLine) :
    (lines.map received).filterMap Received.message = lines.map message := by
  rw [List.filterMap_map]
  exact congrFun (List.filterMap_eq_map (f := message)) lines

end MessageLine

namespace Message

/-- Whether a message neither answers the `PING` with a token nor refuses it. -/
def PassesBy (token : String) (m : Message) : Prop :=
  m.answersPing token = false ∧ m.refusesPing = false

instance (token : String) (m : Message) : Decidable (m.PassesBy token) :=
  inferInstanceAs (Decidable (_ ∧ _))

end Message

namespace Request

/-- A collection has to go on until a line comes, since it waits for an answer or
    since it has nothing yet and must not end with nothing. -/
def NeedsLine (r : Request) (taken : List Received) : Prop :=
  r.token.isSome = true ∨ r.required = true ∧ r.queued = false ∧ taken = []

theorem NeedsLine.not_complete {r : Request} {taken : List Received} (h : r.NeedsLine taken)
    (unread : List UInt8) : ¬r.isComplete taken unread = true := by
  rcases h with htoken | ⟨-, hqueued, rfl⟩
  · simp only [isComplete, Option.isNone_eq_false_iff.2 htoken, Bool.false_and, Bool.false_eq_true,
      not_false_eq_true]
  · simp only [isComplete, hqueued, List.isEmpty_nil, Bool.not_true, Bool.or_self, Bool.and_false,
      Bool.false_and, Bool.false_eq_true, not_false_eq_true]

theorem NeedsLine.not_silent {r : Request} {taken : List Received} (h : r.NeedsLine taken)
    (unread : List UInt8) : ¬r.endsInSilence unread = true := by
  rcases h with htoken | ⟨hrequired, -, -⟩
  · simp only [endsInSilence, Option.isNone_eq_false_iff.2 htoken, Bool.false_and,
      Bool.false_eq_true, not_false_eq_true]
  · simp only [endsInSilence, hrequired, Bool.not_true, Bool.and_false, Bool.false_and,
      Bool.false_eq_true, not_false_eq_true]

theorem judge_of_passesBy {r : Request} {token : String} (hr : r.token = some token)
    (taken : List Received) {line : MessageLine} (h : line.message.PassesBy token) :
    r.judge taken line.bytes = .keep line.received := by
  unfold judge
  simp only [line.parses, hr, h.1, h.2, Bool.false_eq_true, if_false]
  rfl

theorem judge_of_answer {r : Request} {token : String} (hr : r.token = some token)
    (taken : List Received) {line : MessageLine} (h : line.message.answersPing token = true) :
    r.judge taken line.bytes =
      if r.required = true ∧ taken = [] then .fail .noMessage else .complete := by
  unfold judge
  simp only [line.parses, hr, h, if_true]

end Request

namespace Transport

/-- The token of the next synchronization. -/
def nextToken (t : Transport) : String :=
  t.token (t.syncCount + 1)

section Line

variable {t t' : Transport} {line : List UInt8} {rest : List StreamItem}

/-- A line that arrives is the first one, and the rest of the stream stays. -/
theorem line_of_receive (hs : t.framing.Sound) (hline : Line.isIn line = false)
    (hahead : t.ahead t.tokens = ofBytes (line ++ Line.ending) ++ rest) {deadline : Nat}
    {arrived : List UInt8} (h : t.receive deadline = (.line arrived, t')) :
    arrived = line ∧ t'.framing.Sound ∧ t'.peer.doneAt = t.peer.doneAt ∧
      t'.ahead t'.tokens = rest := by
  cases serves_of_receive hs h with
  | line hs' hl ha ho =>
      rcases StreamItem.eq_of_line_append hline hl (hahead.symm.trans ha) with ⟨rfl, hrest⟩
      refine ⟨rfl, hs', ho, ?_⟩
      rw [(agree_of_receive h).tokens]
      exact hrest.symm

/-- An attempt in vain in front of a line has waited as long as it may, and
    the peer will speak before the limit. -/
theorem silence_of_receive (hs : t.framing.Sound)
    (hahead : t.ahead t.tokens = ofBytes (line ++ Line.ending) ++ rest) {timeout limit : Nat}
    (hlimit : t.peer.doneAt ≤ limit)
    (h : t.receive (min (t.peer.now + timeout) limit) = (.timedOut, t')) :
    t'.framing.Sound ∧ t'.ahead t'.tokens = t.ahead t.tokens ∧ t'.peer.Waits ∧
      t'.peer.doneAt = t.peer.doneAt ∧ t'.peer.now = t.peer.now + timeout ∧
      t.peer.now + timeout < limit := by
  cases serves_of_receive hs h with
  | timedOut hs' hp ha hn hl =>
      have hstream : t'.ahead t'.tokens = t.ahead t.tokens := by
        rw [(agree_of_receive h).tokens]
        exact ha
      rcases hl with hi | ⟨hwaits, hover⟩
      · -- A script that is over would have brought the line.
        have hbytes : ofBytes t'.framing.buffer.bytes ++ [] = t.ahead t.tokens := by
          rw [← hi]
          exact ha
        exact absurd (hbytes.trans hahead) (StreamItem.not_line_of_leading hp rfl)
      · have hlt := hwaits.now_lt_doneAt
        have hnow : t'.peer.now = t.peer.now + timeout ∧ t.peer.now + timeout < limit := by omega
        exact ⟨hs', hstream, hwaits, hover, hnow⟩

/-- Neither an end nor a failure arrives in front of a line. -/
theorem not_end_of_receive (hs : t.framing.Sound)
    (hahead : t.ahead t.tokens = ofBytes (line ++ Line.ending) ++ rest) {deadline : Nat}
    {a : Arrival} (h : t.receive deadline = (a, t')) : a ≠ .closed ∧ a.isFault = false := by
  cases serves_of_receive hs h with
  | line => exact ⟨Arrival.noConfusion, rfl⟩
  | timedOut => exact ⟨Arrival.noConfusion, rfl⟩
  | ended hs' ht he ha =>
      exact absurd (ha.symm.trans hahead) (StreamItem.not_line_of_leading ht rfl)
  | stillEnded hs' ht he ha hi =>
      rw [← List.append_nil (ofBytes _)] at ha
      exact absurd (ha.symm.trans hahead) (StreamItem.not_line_of_leading ht rfl)
  | fault hp ha => exact absurd (ha.symm.trans hahead) (StreamItem.not_line_of_leading hp rfl)

/-- A collection that needs a line takes the first one off the stream, however
    often a read gives up before. -/
theorem gather_line {r : Request} {taken : List Received} (hr : r.NeedsLine taken)
    (hs : t.framing.Sound) (hlimit : t.peer.doneAt ≤ r.limit) (hline : Line.isIn line = false)
    (hahead : t.ahead t.tokens = ofBytes (line ++ Line.ending) ++ rest) :
    ∃ t', gather r taken t =
        (match r.judge taken line with
          | .keep received => gather r (taken ++ [received]) t'
          | .complete => (.ok taken, t')
          | .fail e => (.error e, t')) ∧
      t'.framing.Sound ∧ t'.peer.doneAt = t.peer.doneAt ∧ t'.ahead t'.tokens = rest ∧
      Agree t t' := by
  fun_induction gather r taken t with
  | case1 taken t hc => exact absurd hc (hr.not_complete _)
  | case2 taken t hc l t' h t'' received hj ih =>
      rcases line_of_receive hs hline hahead h with ⟨rfl, hs', ho, hrest⟩
      refine ⟨t'', ?_, hs', ho, hrest, (agree_of_receive h).trans (agree_noteLine t' _ _)⟩
      rw [hj]
  | case3 taken t hc l t' h t'' hj =>
      rcases line_of_receive hs hline hahead h with ⟨rfl, hs', ho, hrest⟩
      refine ⟨t'', ?_, hs', ho, hrest, (agree_of_receive h).trans (agree_noteLine t' _ _)⟩
      rw [hj]
  | case4 taken t hc l t' h t'' e hj =>
      rcases line_of_receive hs hline hahead h with ⟨rfl, hs', ho, hrest⟩
      refine ⟨t'', ?_, hs', ho, hrest, (agree_of_receive h).trans (agree_noteLine t' _ _)⟩
      rw [hj]
  | case5 taken t hc t' h => exact absurd rfl (not_end_of_receive hs hahead h).1
  | case6 taken t hc f t' h hf => exact Bool.noConfusion (not_end_of_receive hs hahead h).2
  | case7 taken t hc f t' h hf => exact Bool.noConfusion (not_end_of_receive hs hahead h).2
  | case8 taken t hc t' h hl =>
      rcases silence_of_receive hs hahead hlimit h with ⟨_, _, _, _, _, hlt⟩
      omega
  | case9 taken t hc t' h hl he => exact absurd he (hr.not_silent _)
  | case10 taken t hc t' h hl he ht ih =>
      -- The attempt and the wait behind it leave the stream as it was.
      rcases silence_of_receive hs hahead hlimit h with ⟨hs', hstream, hwaits, ho, hnow, _⟩
      have hover : (t'.peer.waitUntil (t.peer.now + 1)).doneAt = t.peer.doneAt := by
        rw [Peer.doneAt_waitUntil hwaits (by omega), ho]
      have hitems : ((t'.note .trace "waiting").waitUntil (t.peer.now + 1)).ahead t'.tokens =
          t'.ahead t'.tokens :=
        congrArg (ofBytes t'.framing.buffer.bytes ++ ·) (Peer.items_waitUntil _ t'.peer _)
      rcases ih hr hs' (hover ▸ hlimit) (hitems.trans (hstream.trans hahead)) with
        ⟨u, hu, hsu, hou, hrest, hagree⟩
      refine ⟨u, hu, hsu, hou.trans hover, hrest, ?_⟩
      exact ((agree_of_receive h).trans (agree_wait t' _)).trans hagree
  | case11 taken t hc t' h hl he ht =>
      rcases silence_of_receive hs hahead hlimit h with ⟨_, _, _, _, _, hlt⟩
      omega

end Line

/-- A collection takes the lines in front of the answer that it waits for. -/
theorem gather_of_answer {r : Request} {token : String} (hr : r.token = some token)
    {answer : MessageLine} (hanswer : answer.message.answersPing token = true)
    {rest : List StreamItem} (lines : List MessageLine)
    (hlines : ∀ line ∈ lines, line.message.PassesBy token) (taken : List Received)
    {t : Transport} (hs : t.framing.Sound) (hlimit : t.peer.doneAt ≤ r.limit)
    (hahead : t.ahead t.tokens = ofBytes (MessageLine.wire (lines ++ [answer])) ++ rest) :
    ∃ t', gather r taken t =
        (if r.required = true ∧ taken ++ lines.map MessageLine.received = [] then .error .noMessage
          else .ok (taken ++ lines.map MessageLine.received), t') ∧
      t'.ahead t'.tokens = rest ∧ Agree t t' := by
  have hsome : r.token.isSome = true := by rw [hr, Option.isSome_some]
  induction lines generalizing taken t with
  | nil =>
      have hwire : MessageLine.wire ([] ++ [answer]) = answer.bytes ++ Line.ending := by
        rw [List.nil_append, MessageLine.wire_cons]
        exact List.append_nil _
      rw [hwire] at hahead
      rcases gather_line (.inl hsome) hs hlimit answer.clean hahead with
        ⟨t', hgather, _, _, hrest, hagree⟩
      refine ⟨t', ?_, hrest, hagree⟩
      rw [hgather, Request.judge_of_answer hr taken hanswer, List.map_nil, List.append_nil]
      by_cases hc : r.required = true ∧ taken = []
      · rw [if_pos hc, if_pos hc]
      · rw [if_neg hc, if_neg hc]
  | cons line lines ih =>
      rw [List.cons_append, MessageLine.wire_cons, StreamItem.ofBytes_append, List.append_assoc]
        at hahead
      rcases gather_line (.inl hsome) hs hlimit line.clean hahead with
        ⟨t₁, hgather, hs₁, hover, hrest, hagree⟩
      -- The line is kept, and the collection goes on in front of the others.
      rw [Request.judge_of_passesBy hr taken (hlines line List.mem_cons_self)] at hgather
      rcases ih (fun l hl => hlines l (List.mem_cons_of_mem line hl)) (taken ++ [line.received]) hs₁
        (hover ▸ hlimit) hrest with ⟨t', hgather', hrest', hagree'⟩
      refine ⟨t', (hgather.trans hgather').trans ?_, hrest', hagree.trans hagree'⟩
      rw [List.append_assoc, List.map_cons]
      rfl

theorem sendPing_of_writable {t : Transport} (h : t.outgoing.writable = true) :
    t.sendPing.1 = .ok t.nextToken := by
  have hw : ∀ text, (t.outgoing.write text).writable = true := by
    intro text
    unfold Outgoing.write
    rw [if_pos h]
    exact h
  simp only [sendPing, sendLine, noteLine, note, hw, if_true]
  rfl

theorem collectLines_of_sendPing {t t' : Transport} {token : String}
    (h : t.sendPing = (.ok token, t')) (required queued raw : Bool) (limit : Nat) :
    t.collectLines true required queued raw limit =
      gather ⟨some token, required, queued, raw, limit⟩ [] t' := by
  unfold collectLines
  rw [if_pos rfl, h]

theorem tokens_succ (t : Transport) :
    { t with syncCount := t.syncCount + 1 }.tokens = t.tokens ++ [t.nextToken] := by
  unfold tokens
  rw [List.range_succ, List.map_append]
  rfl

/-- A synchronized collection gives what was left over and the messages in
    front of the answer, or fails when one was required and there is none. What
    is behind the answer is still to come. The caller is patient: the limit does
    not come before the peer has sent everything. -/
theorem collect_synchronized {t : Transport} (h : t.Undisturbed)
    (hwritable : t.outgoing.writable = true) (required : Bool) {limit : Nat}
    (hlimit : t.peer.doneAt ≤ limit) {lines : List MessageLine} {answer : MessageLine}
    {rest : List StreamItem}
    (hahead : t.ahead (t.tokens ++ [t.nextToken]) =
      ofBytes (MessageLine.wire (lines ++ [answer])) ++ rest)
    (hlines : ∀ line ∈ lines, line.message.PassesBy t.nextToken)
    (hanswer : answer.message.answersPing t.nextToken = true) :
    ∃ t', t.collect true required limit =
        (if required = true ∧ t.inbox = [] ∧ lines = [] then .error .noMessage
          else .ok (t.inbox ++ lines.map MessageLine.message), t') ∧
      t'.inbox = [] ∧ t'.tokens = t.tokens ++ [t.nextToken] ∧ t'.ahead t'.tokens = rest := by
  cases hp : t.sendPing with
  | mk sent t₁ =>
      have hsent : sent = .ok t.nextToken := by
        have hok := sendPing_of_writable hwritable
        rw [hp] at hok
        exact hok
      -- The `PING` changes neither the stream nor what was left over.
      have hping := sendPing_eq hp
      have htokens : t₁.tokens = t.tokens ++ [t.nextToken] := by
        rw [hping]
        exact tokens_succ t
      have hahead₁ : t₁.ahead t₁.tokens =
          ofBytes (MessageLine.wire (lines ++ [answer])) ++ rest := by
        rw [htokens, hping]
        exact hahead
      rcases gather_of_answer
        (r := ⟨some t.nextToken, required && !!t.inbox.isEmpty, !t.inbox.isEmpty, false, limit⟩)
        (t := t₁) rfl hanswer lines hlines [] (by rw [hping]; exact h.sound)
        (by rw [hping]; exact hlimit) hahead₁ with ⟨t₂, hgather, hrest, hagree⟩
      have hinbox : t₂.inbox = t.inbox := by rw [hagree.inbox, hping]
      have hdone : t₂.tokens = t.tokens ++ [t.nextToken] := hagree.tokens.trans htokens
      have hcollected := (collectLines_of_sendPing (hsent ▸ hp) (required && !!t.inbox.isEmpty)
        (!t.inbox.isEmpty) false limit).trans hgather
      have hcond : ((required && !!t.inbox.isEmpty) = true ∧
          [] ++ lines.map MessageLine.received = []) ↔
          required = true ∧ t.inbox = [] ∧ lines = [] := by
        rw [Bool.not_not, Bool.and_eq_true, List.isEmpty_iff, List.nil_append, List.map_eq_nil_iff,
          and_assoc]
      unfold collect
      simp only [hcollected]
      by_cases hc : required = true ∧ t.inbox = [] ∧ lines = []
      · refine ⟨t₂, ?_, hinbox.trans hc.2.1, hdone, hrest⟩
        rw [if_pos hc, if_pos (hcond.2 hc)]
      · refine ⟨{ t₂ with inbox := [] }, ?_, rfl, hdone, hrest⟩
        rw [if_neg hc, if_neg (mt hcond.1 hc)]
        simp only [List.nil_append, MessageLine.filterMap_received, hinbox]

/-- Both line endings come in two reads, with silences of several timeouts
    between them, and a line begins behind the answer. -/
theorem collect_synchronized_split_endings :
    ∃ t', Transport.collect
        { Transport.initial "c" .initial fun _ => ⟨0, 0⟩ with
          peer := Peer.idle.willDo
            [.data [.literal (Utf8.ofString "NOTICE a :b\r")],
              .silence 2500,
              .data [.literal (Utf8.ofString "\n:srv PONG srv "), .latestToken,
                .literal (Utf8.ofString "\r")],
              .silence 1200,
              .data [.literal (Utf8.ofString "\nTAIL")]] }
        true true 10000 = (.ok [⟨[], none, "NOTICE", ["a", "b"]⟩], t') ∧
      t'.ahead t'.tokens = ofBytes (Utf8.ofString "TAIL") := by
  have hundisturbed := Undisturbed.willDo (.initial "c" .initial fun _ => ⟨0, 0⟩)
    [.data [.literal (Utf8.ofString "NOTICE a :b\r")],
      .silence 2500,
      .data [.literal (Utf8.ofString "\n:srv PONG srv "), .latestToken,
        .literal (Utf8.ofString "\r")],
      .silence 1200,
      .data [.literal (Utf8.ofString "\nTAIL")]]
  rcases @collect_synchronized _ hundisturbed rfl true 10000 (by decide)
    [⟨Utf8.ofString "NOTICE a :b", ⟨[], none, "NOTICE", ["a", "b"]⟩, by decide, by cbv⟩]
    ⟨Utf8.ofString ":srv PONG srv sync0.000000000.1",
      ⟨[], some "srv", "PONG", ["srv", "sync0.000000000.1"]⟩, by decide, by cbv⟩
    (ofBytes (Utf8.ofString "TAIL")) (by decide +kernel) (by decide) (by decide)
    with ⟨t', hcollect, _, _, hrest⟩
  exact ⟨t', hcollect, hrest⟩

end Transport

end IrcHarness
