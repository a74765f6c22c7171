import IrcHarness.Message.Parser
import IrcHarness.Text.Ascii
import IrcHarness.Transport.Basic

/-!
# Collecting

What a peer sends, in batches with a determined end. A synchronized collection
sends a `PING` and takes every line in front of the answer, which shows that
the peer has processed all that was sent before. An unsynchronized one takes
what has come: the lines of the first read that completes one, or nothing when
the peer is idle and nothing was required.

A peer that is silent longer than the read timeout is read again, without end
if need be, so the caller sets a limit at which the collection is abandoned.
With a read timeout of zero a repeated attempt takes a millisecond, since no
peer would ever come to speak otherwise.

Messages that were left over by an earlier call come first in a batch, and a
collection that fails leaves them where they were.

A collection comes to an end because each line uses up a line feed, of which
the buffer and the script hold a fixed number whatever tokens are filled in,
and each attempt in vain uses up time.

## Main definitions

* `Received`: A line that came, with its message if it is one.
* `Request`: What a collection was asked for.
* `Request.judge`: What a line means for a collection.
* `Transport.gather`: Take lines until the collection ends.
* `Transport.collect`, `Transport.collectRaw`: Messages, or lines.
* `Transport.getOne`: The first message that a filter accepts.

## Theorems

* `feeds_gather_lt`: A collection that took a line has used up a line feed.
* `feeds_gather_le`: A collection puts no line feed back.
-/

namespace IrcHarness

/-- A line that came. -/
structure Received where
  /-- The line as text. -/
  text : String
  /-- Its message, if it is one. -/
  message : Option Message
deriving DecidableEq, Repr

/-- What a collection was asked for. -/
structure Request where
  /-- The token whose answer ends the collection. Without one the collection
      ends when something has come. -/
  token : Option String
  /-- Whether a collection without a line is a failure. -/
  required : Bool
  /-- Whether the caller holds messages already. -/
  queued : Bool
  /-- Whether lines that are no messages are taken as well. -/
  raw : Bool
  /-- The moment at which the collection is abandoned. -/
  limit : Nat
deriving DecidableEq, Repr

/-- What a line means for a collection. -/
inductive Judgement where
  /-- The line belongs to the batch. -/
  | keep (r : Received)
  /-- The batch ends in front of the line. -/
  | complete
  /-- The collection fails. -/
  | fail (e : TransportError)
deriving DecidableEq, Repr

namespace Message

/-- Whether a message answers the `PING` with a token. -/
def answersPing (m : Message) (token : String) : Bool :=
  m.isCommand "PONG" && m.params.getLast? == some token

/-- The command of the reply to one who is not registered. -/
def notRegistered : String := "451"

/-- Whether a message refuses a `PING`. -/
def refusesPing (m : Message) : Bool :=
  m.command == notRegistered && m.params[1]?.any (Ascii.eqIgnoreCase · "PING")

end Message

namespace Request

/-- What a line means for a collection that has taken these lines. -/
def judge (r : Request) (taken : List Received) (line : List UInt8) : Judgement :=
  let text := String.ofList (Utf8.decodeLossy line)
  match Message.parseBytes line with
  | .error cause => if r.raw then .keep ⟨text, none⟩ else .fail (.parse text cause)
  | .ok m =>
    match r.token with
    | none => .keep ⟨text, some m⟩
    | some token =>
      if m.answersPing token then
        if r.required ∧ taken = [] then .fail .noMessage else .complete
      else if m.refusesPing then .fail (.syncRejected text)
      else .keep ⟨text, some m⟩

/-- Whether a collection ends before it reads again: there is something to
    give, and no further line is complete. -/
def isComplete (r : Request) (taken : List Received) (unread : List UInt8) : Bool :=
  r.token.isNone && (r.queued || !taken.isEmpty) && !Line.isIn unread

/-- Whether a collection ends when the peer was silent. -/
def endsInSilence (r : Request) (unread : List UInt8) : Bool :=
  r.token.isNone && !r.required && unread.isEmpty

end Request

namespace Transport

/-- Ask for one line. -/
def receive (t : Transport) (deadline : Nat) : Arrival × Transport :=
  let (arrival, framing, peer) := t.framing.next t.tokens deadline t.peer
  (arrival, { t with framing, peer })

/-- The transport at a later moment. -/
def waitUntil (t : Transport) (moment : Nat) : Transport :=
  { t with peer := t.peer.waitUntil moment }

/-- The line feeds that are still to come out. -/
def feeds (t : Transport) : Nat :=
  Framing.feeds t.framing t.peer

theorem feeds_receive_le (t : Transport) (deadline : Nat) :
    (t.receive deadline).2.feeds ≤ t.feeds :=
  Framing.feeds_next_le t.oneLine_tokens deadline t.framing t.peer

theorem feeds_receive_lt {t t' : Transport} {deadline : Nat} {line : List UInt8}
    (h : t.receive deadline = (.line line, t')) : t'.feeds < t.feeds := by
  simp only [receive, Prod.mk.injEq] at h
  rw [← h.2]
  exact Framing.feeds_next_lt t.oneLine_tokens (Prod.ext h.1 rfl)

theorem le_now_receive (t : Transport) (deadline : Nat) :
    t.peer.now ≤ (t.receive deadline).2.peer.now :=
  Framing.le_now_next t.tokens deadline t.framing t.peer

theorem feeds_waitUntil (t : Transport) (moment : Nat) : (t.waitUntil moment).feeds = t.feeds := by
  simp [waitUntil, feeds, Framing.feeds, Peer.feeds_waitUntil]

/-- Take lines until the collection ends. -/
def gather (r : Request) (taken : List Received) (t : Transport) :
    Outcome (List Received) × Transport :=
  if r.isComplete taken t.unread then (.ok taken, t)
  else match _h : t.receive (min (t.peer.now + t.readTimeout) r.limit) with
    | (.line line, t') =>
      let t' := t'.noteLine "<-" (String.ofList (Utf8.decodeLossy line))
      match r.judge taken line with
      | .keep received => gather r (taken ++ [received]) t'
      | .complete => (.ok taken, t')
      | .fail e => (.error e, t')
    | (.closed, t') => (.error .connectionClosed, t')
    | (.fault f, t') =>
      if f.isDisconnect then
        let t' := t'.note .debug "read failed"
        (.error .connectionClosed, { t' with framing := t'.framing.discard })
      else (.error (.io f), t')
    | (.timedOut, t') =>
      if r.limit < t.peer.now + t.readTimeout then (.abandoned, t')
      else if r.endsInSilence t'.unread then (.ok taken, t')
      else if _ht : t.peer.now < r.limit then
        gather r taken ((t'.note .trace "waiting").waitUntil (t.peer.now + 1))
      else (.abandoned, t')
termination_by t.feeds + (r.limit - t.peer.now)
decreasing_by
  -- A line was taken, and with it a line feed.
  · have hlt := feeds_receive_lt _h
    have hnow := le_now_receive t (min (t.peer.now + t.readTimeout) r.limit)
    rw [_h] at hnow
    simp only [noteLine, note, feeds] at hlt hnow ⊢
    omega
  -- Nothing came, and time has passed.
  · have hle := feeds_receive_le t (min (t.peer.now + t.readTimeout) r.limit)
    have hnow := Peer.le_now_waitUntil (t'.note .trace "waiting").peer (t.peer.now + 1)
    rw [_h] at hle
    rw [feeds_waitUntil]
    simp only [note, feeds, waitUntil] at hle hnow ⊢
    omega

/-- A collection puts no line feed back. -/
theorem feeds_gather_le (r : Request) (taken : List Received) (t : Transport) :
    (gather r taken t).2.feeds ≤ t.feeds := by
  have hreceive : ∀ (t : Transport) (deadline : Nat) (a : Arrival × Transport),
      t.receive deadline = a → a.2.feeds ≤ t.feeds := by
    intro t deadline a h
    rw [← h]
    exact feeds_receive_le t deadline
  fun_induction gather r taken t with
  | case1 => exact Nat.le_refl _
  | case2 taken t hc line t' h _ received hj ih => exact Nat.le_trans ih (hreceive t _ _ h)
  | case3 taken t hc line t' h => exact hreceive t _ _ h
  | case4 taken t hc line t' h => exact hreceive t _ _ h
  | case5 taken t hc t' h => exact hreceive t _ _ h
  | case6 taken t hc f t' h hf _ =>
      -- The buffer was emptied.
      exact Nat.le_trans (Nat.add_le_add_right (Nat.zero_le _) _) (hreceive t _ _ h)
  | case7 taken t hc f t' h hf => exact hreceive t _ _ h
  | case8 taken t hc t' h hl => exact hreceive t _ _ h
  | case9 taken t hc t' h hl he => exact hreceive t _ _ h
  | case10 taken t hc t' h hl he ht ih =>
      rw [feeds_waitUntil] at ih
      exact Nat.le_trans ih (hreceive t _ _ h)
  | case11 taken t hc t' h hl he ht => exact hreceive t _ _ h

/-- A collection that took a line has used up a line feed. -/
theorem feeds_gather_lt (r : Request) (taken lines : List Received) (t : Transport)
    (h : (gather r taken t).1 = .ok lines) :
    lines = taken ∨ (gather r taken t).2.feeds < t.feeds := by
  fun_induction gather r taken t with
  | case1 => exact .inl (Outcome.ok.inj h).symm
  | case2 taken t hc line t' hr _ received hj ih =>
      have hlt := feeds_receive_lt hr
      exact .inr (Nat.lt_of_le_of_lt (feeds_gather_le r (taken ++ [received]) _) hlt)
  | case3 => exact .inl (Outcome.ok.inj h).symm
  | case4 => simp at h
  | case5 => simp at h
  | case6 => simp at h
  | case7 => simp at h
  | case8 => simp at h
  | case9 => exact .inl (Outcome.ok.inj h).symm
  | case10 taken t hc t' hr hl he ht ih =>
      rcases ih h with ih | ih
      · exact .inl ih
      · rw [feeds_waitUntil] at ih
        have hle := feeds_receive_le t (min (t.peer.now + t.readTimeout) r.limit)
        rw [hr] at hle
        exact .inr (Nat.lt_of_lt_of_le ih hle)
  | case11 => simp at h

/-- Take lines, behind the answer to everything sent before when the
    collection is synchronized. -/
def collectLines (t : Transport) (synchronize required queued raw : Bool) (limit : Nat) :
    Outcome (List Received) × Transport :=
  if synchronize then
    match t.sendPing with
    | (.error e, t) => (.error e, t)
    | (.ok token, t) => gather ⟨some token, required, queued, raw, limit⟩ [] t
  else gather ⟨none, required, queued, raw, limit⟩ [] t

/-- Collect messages, behind those that were left over. The call is abandoned
    when it still waits at the limit. -/
def collect (t : Transport) (synchronize required : Bool) (limit : Nat) :
    Outcome (List Message) × Transport :=
  let queued := !t.inbox.isEmpty
  match t.collectLines synchronize (required && !queued) queued false limit with
  | (.ok lines, t') => (.ok (t'.inbox ++ lines.filterMap Received.message), { t' with inbox := [] })
  | (.error e, t') => (.error e, t')
  | (.abandoned, t') => (.abandoned, t')

/-- Collect lines, those among them that are no messages as well. -/
def collectRaw (t : Transport) (synchronize required : Bool) (limit : Nat) :
    Outcome (List String) × Transport :=
  let (outcome, t') := t.collectLines synchronize required false true limit
  (outcome.map fun lines => lines.map Received.text, t')

theorem feeds_sendPing (t : Transport) : t.sendPing.2.feeds = t.feeds := by
  have h : ∀ (t : Transport) (line : String), (t.sendLine line).2.feeds = t.feeds := by
    intro t line
    simp only [sendLine]
    split <;> rfl
  have hp := h { t with syncCount := t.syncCount + 1 } ("PING " ++ t.token (t.syncCount + 1))
  simp only [sendPing]
  split <;> next heq => rw [heq] at hp; exact hp

theorem feeds_collectLines_lt {t t' : Transport} {synchronize required queued raw : Bool}
    {limit : Nat} {lines : List Received}
    (h : t.collectLines synchronize required queued raw limit = (.ok lines, t')) :
    lines = [] ∨ t'.feeds < t.feeds := by
  simp only [collectLines] at h
  split at h
  · have hw := feeds_sendPing t
    split at h
    · simp at h
    · next token t₁ hp =>
        rw [hp] at hw
        have hg := feeds_gather_lt ⟨some token, required, queued, raw, limit⟩ [] lines t₁
          (by rw [h])
        rw [h] at hg
        exact hg.imp_right fun hl => hw ▸ hl
  · have hg := feeds_gather_lt ⟨none, required, queued, raw, limit⟩ [] lines t (by rw [h])
    rw [h] at hg
    exact hg

end Transport

/-- The first message that a filter accepts and the messages behind it, and
    the filter's state after it has seen each message up to that one. -/
def firstAccepted {σ : Type} (filter : σ → Message → Bool × σ) (state : σ) :
    List Message → Option (Message × List Message) × σ
  | [] => (none, state)
  | m :: rest =>
    match filter state m with
    | (true, state) => (some (m, rest), state)
    | (false, state) => firstAccepted filter state rest

namespace Transport

/-- The first message that a filter accepts, out of those that were left over
    and then of one collection after the other. The messages in front of it
    are dropped. The filter may carry a state, which is given back. -/
def getOne {σ : Type} (filter : σ → Message → Bool × σ) (synchronize : Bool) (limit : Nat)
    (state : σ) (t : Transport) : Outcome Message × σ × Transport :=
  match firstAccepted filter state t.inbox with
  | (some (m, rest), state) => (.ok m, state, { t with inbox := rest })
  | (none, state) =>
    match _h : { t with inbox := [] }.collectLines synchronize true false false limit with
    | (.error e, t') => (.error e, state, t')
    | (.abandoned, t') => (.abandoned, state, t')
    | (.ok lines, t') =>
      if _hl : lines = [] then (.error .noMessage, state, t')
      else getOne filter synchronize limit state
        { t' with inbox := lines.filterMap Received.message }
termination_by t.feeds
decreasing_by
  -- The collection gave a line, so it has used up a line feed.
  exact (feeds_collectLines_lt _h).resolve_left _hl

end Transport

end IrcHarness
