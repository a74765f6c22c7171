import IrcHarness.Proofs.Transport.Collection

/-!
# What Calls Ask For

A call on a transport asks for one line after the other, and each request may
search the buffer several times, once for what an earlier read has left and
once behind each read. What holds whenever the buffer is searched has to be
said of all these moments, and not only of the states between two calls.

So the requests of a call are listed here, each with the state in which it is
made and the moment at which it gives up, and for a request the buffers that it
searches. The lists follow the recursion of the calls, and they hold whatever
the reads have met before.

## Main definitions

* `Framing.Searches`: A buffer that a request searches for its first line.
* `Request.Asks`: A request that a collection makes.
* `Operation`: A call on a transport.
* `Operation.Asks`: A request that a call makes.
* `Reached`: A state that some calls lead to.

## Theorems

* `Operation.Asks.framing`: What every request keeps holds at each of them.
* `framing_after`: A call keeps it too, unless the peer is gone.
* `after_of_breaks`: A call ends where a read finds that the peer is gone.
-/

namespace IrcHarness

namespace Framing

/-- A buffer that is searched behind a read. -/
inductive SearchesAfterRead (tokens : List String) (deadline : Nat) :
    Framing → Peer → LineBuffer → Prop where
  /-- A read brings bytes. -/
  | read {f : Framing} {p p' : Peer} {b : UInt8} {bs : List UInt8}
      (hread : p.read tokens deadline = (.bytes (b :: bs), p')) :
      SearchesAfterRead tokens deadline f p (f.buffer.append (b :: bs))
  /-- A read brings bytes, no line is found, and there is another read. -/
  | again {f : Framing} {p p' : Peer} {b : UInt8} {bs : List UInt8} {buffer searched : LineBuffer}
      (hread : p.read tokens deadline = (.bytes (b :: bs), p'))
      (hnone : (f.buffer.append (b :: bs)).pop = (none, buffer))
      (h : SearchesAfterRead tokens deadline
        { f with buffer, readable := false, closed := false } p' searched) :
      SearchesAfterRead tokens deadline f p searched

/-- A buffer that a request searches for its first line, while the stream has
    not ended. -/
inductive Searches (tokens : List String) (deadline : Nat) (f : Framing) (p : Peer) :
    LineBuffer → Prop where
  /-- What an earlier read has left. -/
  | left (hunfaulted : f.faulted = false) (hreadable : f.readable = true)
      (hopen : f.closed = false) : Searches tokens deadline f p f.buffer
  /-- No line is left, and there is a read. -/
  | behind {buffer searched : LineBuffer} (hunfaulted : f.faulted = false)
      (hreadable : f.readable = true) (hopen : f.closed = false)
      (hnone : f.buffer.pop = (none, buffer))
      (h : SearchesAfterRead tokens deadline { f with buffer, readable := false } p searched) :
      Searches tokens deadline f p searched
  /-- Nothing is left to be searched, and there is a read. -/
  | fresh {searched : LineBuffer} (hunfaulted : f.faulted = false) (hreadable : f.readable = false)
      (h : SearchesAfterRead tokens deadline f p searched) :
      Searches tokens deadline f p searched

/-- A property that every request keeps, whatever it meets. -/
def Stable (Q : Framing → Prop) : Prop :=
  ∀ (tokens : List String) (deadline : Nat) (f : Framing) (p : Peer), Q f →
    Q (next tokens deadline f p).2.1

end Framing

namespace Request

/-- The moment at which a collection gives up one attempt to read. -/
def deadline (r : Request) (t : Transport) : Nat :=
  min (t.peer.now + t.readTimeout) r.limit

/-- A request that a collection makes, once it has taken some lines. -/
inductive Asks (r : Request) : List Received → Transport → Transport → Nat → Prop where
  /-- The collection is not complete. -/
  | first {taken : List Received} {t : Transport} (hopen : ¬r.isComplete taken t.unread = true) :
      Asks r taken t t (r.deadline t)
  /-- A line is kept, and the collection goes on. -/
  | kept {taken : List Received} {t t' u : Transport} {moment : Nat} {line : List UInt8}
      {received : Received} (hopen : ¬r.isComplete taken t.unread = true)
      (hline : t.receive (r.deadline t) = (.line line, t'))
      (hj : r.judge taken line = .keep received)
      (h : Asks r (taken ++ [received])
        (t'.noteLine "<-" (String.ofList (Utf8.decodeLossy line))) u moment) :
      Asks r taken t u moment
  /-- The peer is silent, and the collection goes on. -/
  | waited {taken : List Received} {t t' u : Transport} {moment : Nat}
      (hopen : ¬r.isComplete taken t.unread = true)
      (hsilent : t.receive (r.deadline t) = (.timedOut, t'))
      (hpatient : ¬r.limit < t.peer.now + t.readTimeout)
      (hends : ¬r.endsInSilence t'.unread = true) (htime : t.peer.now < r.limit)
      (h : Asks r taken ((t'.note .trace "waiting").waitUntil (t.peer.now + 1)) u moment) :
      Asks r taken t u moment

end Request

namespace Transport

/-- A request that a collection makes, behind its `PING` if it sends one. -/
def CollectionAsks (t : Transport) (synchronize required queued raw : Bool) (limit : Nat)
    (u : Transport) (moment : Nat) : Prop :=
  if synchronize then
    ∃ token v, t.sendPing = (.ok token, v) ∧
      Request.Asks ⟨some token, required, queued, raw, limit⟩ [] v u moment
  else Request.Asks ⟨none, required, queued, raw, limit⟩ [] t u moment

/-- A read of one of these requests fails because the peer is gone, and this is
    the framing that it leaves. -/
def Breaks (asks : Transport → Nat → Prop) (framing : Framing) : Prop :=
  ∃ u moment f v, asks u moment ∧ u.receive moment = (.fault f, v) ∧ f.isDisconnect = true ∧
    v.framing = framing

/-- A call keeps a property of the framing, unless a read fails because the peer
    is gone. The call fails then, and the buffer is emptied. -/
def KeptOrBroken {α : Type} (asks : Transport → Nat → Prop) (Q : Framing → Prop)
    (result : Outcome α × Transport) : Prop :=
  Q result.2.framing ∨
    result.1.isError = true ∧ ∃ f, Breaks asks f ∧ Q f ∧ result.2.framing = f.discard

/-- A request that a search for one message makes. -/
inductive SearchAsks {σ : Type} (filter : σ → Message → Bool × σ) (synchronize : Bool)
    (limit : Nat) : σ → Transport → Transport → Nat → Prop where
  /-- Nothing that was left over is accepted, and there is a collection. -/
  | first {state state' : σ} {t u : Transport} {moment : Nat}
      (hnone : firstAccepted filter state t.inbox = (none, state'))
      (h : { t with inbox := [] }.CollectionAsks synchronize true false false limit u moment) :
      SearchAsks filter synchronize limit state t u moment
  /-- The collection brings messages, and the search goes on with them. -/
  | again {state state' : σ} {t t' u : Transport} {moment : Nat} {lines : List Received}
      (hnone : firstAccepted filter state t.inbox = (none, state'))
      (hlines : { t with inbox := [] }.collectLines synchronize true false false limit =
        (.ok lines, t')) (hsome : lines ≠ [])
      (h : SearchAsks filter synchronize limit state'
        { t' with inbox := lines.filterMap Received.message } u moment) :
      SearchAsks filter synchronize limit state t u moment

end Transport

/-- A call on a transport. -/
inductive Operation : Type 1 where
  /-- Write a line. -/
  | sendLine (line : String)
  /-- Write a message. -/
  | sendMessage (m : Message)
  /-- Collect messages. -/
  | collect (synchronize required : Bool) (limit : Nat)
  /-- Collect lines. -/
  | collectRaw (synchronize required : Bool) (limit : Nat)
  /-- Look for one message. -/
  | getOne {σ : Type} (filter : σ → Message → Bool × σ) (synchronize : Bool) (limit : Nat)
      (state : σ)

namespace Operation

/-- The state that a call leads to. -/
def after : Operation → Transport → Transport
  | sendLine line, t => (t.sendLine line).2
  | sendMessage m, t => (t.sendMessage m).2
  | collect synchronize required limit, t => (t.collect synchronize required limit).2
  | collectRaw synchronize required limit, t => (t.collectRaw synchronize required limit).2
  | getOne filter synchronize limit state, t => (t.getOne filter synchronize limit state).2.2

/-- A request that a call makes, with the state in which it is made and the
    moment at which it gives up. -/
def Asks : Operation → Transport → Transport → Nat → Prop
  | sendLine _, _ | sendMessage _, _ => fun _ _ => False
  | collect synchronize required limit, t =>
    t.CollectionAsks synchronize (required && t.inbox.isEmpty) (!t.inbox.isEmpty) false limit
  | collectRaw synchronize required limit, t =>
    t.CollectionAsks synchronize required false true limit
  | getOne filter synchronize limit state, t => t.SearchAsks filter synchronize limit state

end Operation

/-- A state that some calls lead to, each of which is allowed where it is made.
    Between two calls the peer gets more to do, time passes, and writing starts
    or stops to work. -/
inductive Reached (allowed : Operation → Transport → Prop) : Transport → Prop where
  /-- Nothing has happened. -/
  | initial (name : String) (settings : TransportSettings) (clock : Nat → Duration) :
      Reached allowed (.initial name settings clock)
  /-- The peer gets more to do. -/
  | willDo {t : Transport} (h : Reached allowed t) (events : List PeerEvent) :
      Reached allowed { t with peer := t.peer.willDo events }
  /-- Time passes. -/
  | waitUntil {t : Transport} (h : Reached allowed t) (moment : Nat) :
      Reached allowed (t.waitUntil moment)
  /-- Writing starts or stops to work. -/
  | writes {t : Transport} (h : Reached allowed t) (works : Bool) :
      Reached allowed { t with outgoing := { t.outgoing with writable := works } }
  /-- A call is made. -/
  | call {t : Transport} (h : Reached allowed t) (op : Operation) (hallowed : allowed op t) :
      Reached allowed (op.after t)

namespace Transport

variable {Q : Framing → Prop} {t u v : Transport} {moment : Nat}

theorem framing_of_receive (hstable : Framing.Stable Q) (hq : Q t.framing) {a : Arrival}
    (h : t.receive moment = (a, u)) : Q u.framing := by
  have hkept := hstable t.tokens moment t.framing t.peer hq
  unfold receive at h
  rw [Prod.mk.injEq] at h
  rw [← h.2]
  exact hkept

end Transport

namespace Request

open Transport

variable {Q : Framing → Prop} {r : Request} {taken : List Received} {t u v : Transport}
  {moment : Nat}

/-- A property that every request keeps holds whenever a collection makes one. -/
theorem Asks.framing (hstable : Framing.Stable Q) (h : r.Asks taken t u moment)
    (hq : Q t.framing) : Q u.framing := by
  induction h with
  | first hopen => exact hq
  | @kept taken t t' u moment line received hopen hline hj h ih =>
      have hkept : Q t'.framing := framing_of_receive hstable hq hline
      exact ih hkept
  | @waited taken t t' u moment hopen hsilent hpatient hends htime h ih =>
      have hkept : Q t'.framing := framing_of_receive hstable hq hsilent
      exact ih hkept

end Request

namespace Transport

variable {Q : Framing → Prop} {t u v : Transport} {moment : Nat}

theorem Breaks.mono {f : Framing} {asks asks' : Transport → Nat → Prop} (hbreaks : Breaks asks f)
    (h : ∀ u moment, asks u moment → asks' u moment) : Breaks asks' f := by
  rcases hbreaks with ⟨u, moment, e, v, hasks, hrest⟩
  exact ⟨u, moment, e, v, h u moment hasks, hrest⟩

/-- More requests can only break more. -/
theorem KeptOrBroken.mono {α : Type} {asks asks' : Transport → Nat → Prop}
    {result : Outcome α × Transport} (hkept : KeptOrBroken asks Q result)
    (h : ∀ u moment, asks u moment → asks' u moment) : KeptOrBroken asks' Q result := by
  rcases hkept with hq | ⟨herror, f, hbreaks, hq, hframing⟩
  · exact .inl hq
  · exact .inr ⟨herror, f, hbreaks.mono h, hq, hframing⟩

/-- A call that did not fail keeps the property. -/
theorem KeptOrBroken.of_ok {α : Type} {asks : Transport → Nat → Prop} {outcome : Outcome α}
    (hkept : KeptOrBroken asks Q (outcome, t)) (hok : outcome.isError = false) : Q t.framing := by
  rcases hkept with hq | ⟨herror, _⟩
  · exact hq
  · exact Bool.noConfusion (hok.symm.trans herror)

/-- A collection keeps the property, unless a read fails because the peer is
    gone. -/
theorem kept_or_broken_gather (hstable : Framing.Stable Q) (r : Request) (taken : List Received)
    (t : Transport) (hq : Q t.framing) : KeptOrBroken (r.Asks taken t) Q (gather r taken t) := by
  fun_induction gather r taken t with
  | case1 taken t hc => exact .inl hq
  | case2 taken t hc line t' hr _ received hj ih =>
      have hkept : Q t'.framing := framing_of_receive hstable hq hr
      exact (ih hkept).mono fun u moment h => .kept hc hr hj h
  | case3 taken t hc line t' hr =>
      have hkept : Q t'.framing := framing_of_receive hstable hq hr
      exact .inl hkept
  | case4 taken t hc line t' hr =>
      have hkept : Q t'.framing := framing_of_receive hstable hq hr
      exact .inl hkept
  | case5 taken t hc t' hr => exact .inl (framing_of_receive hstable hq hr)
  | case6 taken t hc f t' hr hf =>
      -- The only place where the buffer is changed other than by a request.
      have hkept : Q t'.framing := framing_of_receive hstable hq hr
      exact .inr ⟨rfl, t'.framing, ⟨t, _, f, t', .first hc, hr, hf, rfl⟩, hkept, rfl⟩
  | case7 taken t hc f t' hr hf => exact .inl (framing_of_receive hstable hq hr)
  | case8 taken t hc t' hr hl => exact .inl (framing_of_receive hstable hq hr)
  | case9 taken t hc t' hr hl he => exact .inl (framing_of_receive hstable hq hr)
  | case10 taken t hc t' hr hl he ht ih =>
      have hkept : Q t'.framing := framing_of_receive hstable hq hr
      exact (ih hkept).mono fun u moment h => .waited hc hr hl he ht h
  | case11 taken t hc t' hr hl he ht => exact .inl (framing_of_receive hstable hq hr)

/-- One step of a collection that is not complete. -/
theorem gather_of_receive {r : Request} {taken : List Received} {a : Arrival}
    (hopen : ¬r.isComplete taken t.unread = true) (h : t.receive (r.deadline t) = (a, u)) :
    gather r taken t =
      match a with
      | .line line =>
        match r.judge taken line with
        | .keep received =>
          gather r (taken ++ [received]) (u.noteLine "<-" (String.ofList (Utf8.decodeLossy line)))
        | .complete => (.ok taken, u.noteLine "<-" (String.ofList (Utf8.decodeLossy line)))
        | .fail e => (.error e, u.noteLine "<-" (String.ofList (Utf8.decodeLossy line)))
      | .closed => (.error .connectionClosed, u)
      | .fault f =>
        if f.isDisconnect then
          (.error .connectionClosed,
            { u.note .debug "read failed" with framing := u.framing.discard })
        else (.error (.io f), u)
      | .timedOut =>
        if r.limit < t.peer.now + t.readTimeout then (.abandoned, u)
        else if r.endsInSilence u.unread then (.ok taken, u)
        else if t.peer.now < r.limit then
          gather r taken ((u.note .trace "waiting").waitUntil (t.peer.now + 1))
        else (.abandoned, u) := by
  unfold Request.deadline at h
  rw [gather, if_neg hopen]
  split <;> next heq =>
    rw [h, Prod.mk.injEq] at heq
    rcases heq with ⟨rfl, rfl⟩
    rfl

/-- A request that fails because the peer is gone ends its collection. -/
theorem gather_of_breaks {r : Request} {taken : List Received} {f : Framing}
    (h : Breaks (r.Asks taken t) f) :
    (gather r taken t).1 = .error .connectionClosed ∧ (gather r taken t).2.framing = f.discard := by
  rcases h with ⟨u, moment, e, v, hasks, hfault, hgone, rfl⟩
  induction hasks with
  | first hopen =>
      rw [gather_of_receive hopen hfault]
      simp only [hgone, if_true, note, and_self]
  | kept hopen hline hj h ih =>
      rw [gather_of_receive hopen hline]
      simp only [hj]
      exact ih hfault
  | waited hopen hsilent hpatient hends htime h ih =>
      rw [gather_of_receive hopen hsilent]
      simp only [if_neg hpatient, if_neg hends, if_pos htime]
      exact ih hfault

/-- A `PING` leaves the framing as it is. -/
theorem framing_of_sendPing {answer : Except TransportError String}
    (h : t.sendPing = (answer, u)) : u.framing = t.framing := by
  rw [sendPing_eq h]

theorem CollectionAsks.framing (hstable : Framing.Stable Q)
    {synchronize required queued raw : Bool} {limit : Nat}
    (h : t.CollectionAsks synchronize required queued raw limit u moment) (hq : Q t.framing) :
    Q u.framing := by
  unfold CollectionAsks at h
  by_cases hsync : synchronize = true
  · rw [if_pos hsync] at h
    rcases h with ⟨token, v, hping, hasks⟩
    rw [← framing_of_sendPing hping] at hq
    exact hasks.framing hstable hq
  · rw [if_neg hsync] at h
    exact h.framing hstable hq

theorem kept_or_broken_collectLines (hstable : Framing.Stable Q) (hq : Q t.framing)
    (synchronize required queued raw : Bool) (limit : Nat) :
    KeptOrBroken (t.CollectionAsks synchronize required queued raw limit) Q
      (t.collectLines synchronize required queued raw limit) := by
  unfold collectLines
  by_cases hsync : synchronize = true
  · rw [if_pos hsync]
    cases hping : t.sendPing with
    | mk answer v =>
        rw [← framing_of_sendPing hping] at hq
        cases answer with
        | error e => exact .inl hq
        | ok token =>
            refine (kept_or_broken_gather hstable _ [] v hq).mono fun u moment h => ?_
            unfold CollectionAsks
            rw [if_pos hsync]
            exact ⟨token, v, hping, h⟩
  · rw [if_neg hsync]
    refine (kept_or_broken_gather hstable _ [] t hq).mono fun u moment h => ?_
    unfold CollectionAsks
    rw [if_neg hsync]
    exact h

theorem collectLines_of_breaks {synchronize required queued raw : Bool} {limit : Nat} {f : Framing}
    (h : Breaks (t.CollectionAsks synchronize required queued raw limit) f) :
    (t.collectLines synchronize required queued raw limit).1 = .error .connectionClosed ∧
      (t.collectLines synchronize required queued raw limit).2.framing = f.discard := by
  unfold collectLines
  by_cases hsync : synchronize = true
  · rcases h with ⟨u, moment, e, w, hasks, hrest⟩
    unfold CollectionAsks at hasks
    rw [if_pos hsync] at hasks ⊢
    rcases hasks with ⟨token, v, hping, hasks⟩
    simp only [hping]
    exact gather_of_breaks ⟨u, moment, e, w, hasks, hrest⟩
  · rw [if_neg hsync]
    refine gather_of_breaks (h.mono fun u moment hasks => ?_)
    unfold CollectionAsks at hasks
    rw [if_neg hsync] at hasks
    exact hasks

theorem SearchAsks.framing {σ : Type} {filter : σ → Message → Bool × σ} {synchronize : Bool}
    {limit : Nat} {state : σ} (hstable : Framing.Stable Q)
    (h : SearchAsks filter synchronize limit state t u moment) (hq : Q t.framing) :
    Q u.framing := by
  induction h with
  | first hnone h => exact h.framing hstable hq
  | @again state state' t t' u moment lines hnone hlines hsome h ih =>
      -- The collection gave lines, so no read has failed.
      have hkept := kept_or_broken_collectLines (t := { t with inbox := [] }) hstable hq synchronize
        true false false limit
      rw [hlines] at hkept
      exact ih (hkept.of_ok rfl)

theorem kept_or_broken_collect (hstable : Framing.Stable Q) (hq : Q t.framing)
    (synchronize required : Bool) (limit : Nat) :
    KeptOrBroken ((Operation.collect synchronize required limit).Asks t) Q
      (t.collect synchronize required limit) := by
  have hkept := kept_or_broken_collectLines hstable hq synchronize
    (required && !!t.inbox.isEmpty) (!t.inbox.isEmpty) false limit
  unfold Operation.Asks
  rw [Bool.not_not] at hkept
  unfold collect
  dsimp only
  rw [Bool.not_not]
  split <;> next hlines =>
    rw [hlines] at hkept
    exact hkept

theorem kept_or_broken_getOne {σ : Type} (hstable : Framing.Stable Q)
    (filter : σ → Message → Bool × σ) (synchronize : Bool) (limit : Nat) (state : σ)
    (t : Transport) (hq : Q t.framing) :
    KeptOrBroken (t.SearchAsks filter synchronize limit state) Q
      ((t.getOne filter synchronize limit state).1,
        (t.getOne filter synchronize limit state).2.2) := by
  have hlines : ∀ t : Transport, Q t.framing →
      KeptOrBroken
        ({ t with inbox := [] }.CollectionAsks synchronize true false false limit) Q
        ({ t with inbox := [] }.collectLines synchronize true false false limit) :=
    fun t hq => kept_or_broken_collectLines (t := { t with inbox := [] }) hstable hq synchronize
      true false false limit
  fun_induction getOne filter synchronize limit state t with
  | case1 => exact .inl hq
  | case2 state t state' hf e u h =>
      have hkept : KeptOrBroken (t.SearchAsks filter synchronize limit state) Q
          ({ t with inbox := [] }.collectLines synchronize true false false limit) :=
        (hlines t hq).mono fun _ _ => .first hf
      rw [h] at hkept
      exact hkept
  | case3 state t state' hf u h =>
      have hkept := hlines t hq
      rw [h] at hkept
      exact .inl (hkept.of_ok rfl)
  | case4 state t state' hf u h =>
      have hkept := hlines t hq
      rw [h] at hkept
      exact .inl (hkept.of_ok rfl)
  | case5 state t state' hf lines u h hl ih =>
      have hkept := hlines t hq
      rw [h] at hkept
      exact (ih (hkept.of_ok rfl)).mono fun _ _ => .again hf h hl

theorem getOne_of_breaks {σ : Type} {filter : σ → Message → Bool × σ} {synchronize : Bool}
    {limit : Nat} {state : σ} {f : Framing}
    (h : Breaks (t.SearchAsks filter synchronize limit state) f) :
    (t.getOne filter synchronize limit state).2.2.framing = f.discard := by
  rcases h with ⟨u, moment, e, v, hasks, hrest⟩
  induction hasks with
  | @first state state' t u moment hnone h =>
      have hbreaks := collectLines_of_breaks ⟨u, moment, e, v, h, hrest⟩
      cases hlines : { t with inbox := [] }.collectLines synchronize true false false limit with
      | mk outcome w =>
          rw [hlines] at hbreaks
          rw [getOne_of_none hnone, hlines, show outcome = .error .connectionClosed from hbreaks.1]
          exact hbreaks.2
  | again hnone hlines hsome h ih =>
      rw [getOne_of_none hnone, hlines]
      simp only [if_neg hsome]
      exact ih hrest

end Transport

namespace Operation

variable {Q : Framing → Prop} {t u : Transport} {moment : Nat}

theorem Asks.framing (hstable : Framing.Stable Q) {op : Operation} (h : op.Asks t u moment)
    (hq : Q t.framing) : Q u.framing := by
  cases op with
  | sendLine line => exact h.elim
  | sendMessage m => exact h.elim
  | collect synchronize required limit => exact Transport.CollectionAsks.framing hstable h hq
  | collectRaw synchronize required limit => exact Transport.CollectionAsks.framing hstable h hq
  | getOne filter synchronize limit state => exact Transport.SearchAsks.framing hstable h hq

/-- A call keeps a property that every request keeps, unless a read fails because
    the peer is gone, and then the buffer that this read has left is emptied. -/
theorem framing_after (hstable : Framing.Stable Q) (op : Operation) (hq : Q t.framing) :
    Q (op.after t).framing ∨
      ∃ f, Transport.Breaks (op.Asks t) f ∧ Q f ∧ (op.after t).framing = f.discard := by
  cases op with
  | sendLine line =>
      rw [after, Transport.sendLine_eq]
      exact .inl hq
  | sendMessage m =>
      rw [after, Transport.sendMessage]
      split
      · exact .inl hq
      · rw [Transport.sendLine_eq]
        exact .inl hq
  | collect synchronize required limit =>
      exact (Transport.kept_or_broken_collect hstable hq synchronize required limit).imp_right
        And.right
  | collectRaw synchronize required limit =>
      exact (Transport.kept_or_broken_collectLines hstable hq synchronize required false true
        limit).imp_right And.right
  | getOne filter synchronize limit state =>
      exact (Transport.kept_or_broken_getOne hstable filter synchronize limit state t hq).imp_right
        And.right

theorem after_of_breaks {op : Operation} {f : Framing} (h : Transport.Breaks (op.Asks t) f) :
    (op.after t).framing = f.discard := by
  cases op with
  | sendLine line =>
      rcases h with ⟨_, _, _, _, hasks, _⟩
      exact hasks.elim
  | sendMessage m =>
      rcases h with ⟨_, _, _, _, hasks, _⟩
      exact hasks.elim
  | collect synchronize required limit =>
      have hbreaks := Transport.collectLines_of_breaks h
      unfold after Transport.collect
      dsimp only
      rw [Bool.not_not]
      split <;> next hlines =>
        rw [hlines] at hbreaks
        exact hbreaks.2
  | collectRaw synchronize required limit => exact (Transport.collectLines_of_breaks h).2
  | getOne filter synchronize limit state => exact Transport.getOne_of_breaks h

end Operation

end IrcHarness
