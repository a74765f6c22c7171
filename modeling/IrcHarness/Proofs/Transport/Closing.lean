import IrcHarness.Proofs.Transport.Reports

/-!
# Reports That the Peer Is Gone

A call reports a closed connection when a read brings no bytes, when a read
fails with a kind that means a disconnect, and when a write fails. A read that
fails otherwise is reported as what it is, in every call and in every state.
That failure is not over with the report, though: the framing answers the next
request with the end of the stream and makes no read for it. So the call after
such a failure reports a closed connection, although the peer is there and may
have sent something.

As long as no call has found the peer gone, this is the only way to a false
report, and it happens exactly once for each failure, at the first request that
follows it (`closed_report_iff`).

## Main definitions

* `Operation.Fails`: What a call reports.
* `Operation.Meets`: A reading that a call meets.
* `Operation.LosesPeer`: A call that finds the peer gone.

## Theorems

* `truthful_after`: What failures a call reports and leaves behind.
* `closed_report_iff`: When a call reports a closed connection.
* `timeout_reported_as_closed`: A connection is reported as closed that is open.
-/

namespace IrcHarness

namespace Operation

/-- What a call reports. -/
def Fails : Operation → Transport → TransportError → Prop
  | sendLine line, t, e => (t.sendLine line).1 = .error e
  | sendMessage m, t, e => (t.sendMessage m).1 = .error e
  | collect synchronize required limit, t, e => (t.collect synchronize required limit).1 = .error e
  | collectRaw synchronize required limit, t, e =>
    (t.collectRaw synchronize required limit).1 = .error e
  | getOne filter synchronize limit state, t, e =>
    (t.getOne filter synchronize limit state).1 = .error e

/-- A call that writes. -/
def Writes : Operation → Transport → Prop
  | sendLine _, _ => True
  | sendMessage m, _ => ∃ line, m.encode = .ok line
  | collect synchronize _ _, _ | collectRaw synchronize _ _, _ => synchronize = true
  | getOne filter synchronize _ state, t =>
    (firstAccepted filter state t.inbox).1 = none ∧ synchronize = true

/-- A call meets a reading. -/
def Meets (op : Operation) (t : Transport) (reading : Reading) : Prop :=
  Requests.Meet (op.Asks t) reading

/-- A call finds the peer gone. A write fails, or a read brings no bytes or fails
    with a kind that means a disconnect. -/
def LosesPeer (op : Operation) (t : Transport) : Prop :=
  op.Writes t ∧ t.outgoing.writable = false ∨ ∃ reading, op.Meets t reading ∧ reading.isEnd = true

variable {t : Transport} {op : Operation}

/-- A line that is written leaves the framing as it is, and it fails only if
    writing does. -/
theorem truthful_sendLine (t : Transport) (line : String) :
    Truthful t.framing (fun _ _ => False) (t.outgoing.writable = true)
      (fun e => (t.sendLine line).1 = .error e) (t.sendLine line).2.framing := by
  rw [Transport.sendLine_eq]
  by_cases hw : t.outgoing.writable = true
  · have hok : (t.sendLine line).1 = .ok () := by
      simp only [Transport.sendLine, Transport.noteLine, Transport.note, Outgoing.write, hw,
        if_true]
    refine .of_no_request (fun _ _ => id) (fun e => ?_) fun _ => ?_
    · simp only [hok, reduceCtorEq, not_false_eq_true]
    · simp only [hok, reduceCtorEq, not_false_eq_true]
  · have hfail : (t.sendLine line).1 = .error .connectionClosed := by
      simp only [Transport.sendLine, Transport.noteLine, Transport.note, Outgoing.write, hw,
        Bool.false_eq_true, if_false]
    refine .of_no_request (fun _ _ => id) (fun e => ?_) fun hkept => absurd hkept hw
    simp only [hfail, Except.error.injEq, reduceCtorEq, not_false_eq_true]

theorem truthful_sendMessage (t : Transport) (m : Message) :
    Truthful t.framing (fun _ _ => False)
      ((∃ line, m.encode = .ok line) → t.outgoing.writable = true)
      (fun e => (t.sendMessage m).1 = .error e) (t.sendMessage m).2.framing := by
  unfold Transport.sendMessage
  cases hm : m.encode with
  | error e =>
      refine .of_no_request (fun _ _ => id) (fun e h => ?_) fun _ h => ?_
      · exact TransportError.noConfusion (Except.error.inj h)
      · exact TransportError.noConfusion (Except.error.inj h)
  | ok line =>
      exact (truthful_sendLine t line).congr (fun _ _ => Iff.rfl) (fun hkept => hkept ⟨line, rfl⟩)
        Iff.rfl fun _ => Iff.rfl

theorem truthful_collect (t : Transport) (synchronize required : Bool) (limit : Nat) :
    Truthful t.framing ((collect synchronize required limit).Asks t)
      ((synchronize = true → t.outgoing.writable = true) ∧
        Requests.Stay ((collect synchronize required limit).Asks t))
      (fun e => (t.collect synchronize required limit).1 = .error e)
      (t.collect synchronize required limit).2.framing := by
  have hlines := Transport.truthful_collectLines t synchronize (required && t.inbox.isEmpty)
    (!t.inbox.isEmpty) false limit
  unfold Transport.collect
  dsimp only
  rw [Bool.not_not]
  split <;> next heq =>
    rw [heq] at hlines
    refine hlines.congr (fun _ _ => Iff.rfl) id ?_ fun e => ?_
    all_goals simp only [reduceCtorEq, Outcome.error.injEq]

theorem truthful_collectRaw (t : Transport) (synchronize required : Bool) (limit : Nat) :
    Truthful t.framing ((collectRaw synchronize required limit).Asks t)
      ((synchronize = true → t.outgoing.writable = true) ∧
        Requests.Stay ((collectRaw synchronize required limit).Asks t))
      (fun e => (t.collectRaw synchronize required limit).1 = .error e)
      (t.collectRaw synchronize required limit).2.framing := by
  have hlines := Transport.truthful_collectLines t synchronize required false true limit
  have hmap : ∀ e, (t.collectRaw synchronize required limit).1 = .error e ↔
      (t.collectLines synchronize required false true limit).1 = .error e := by
    intro e
    unfold Transport.collectRaw
    dsimp only
    cases (t.collectLines synchronize required false true limit).1 <;>
      simp only [Outcome.map, reduceCtorEq, Outcome.error.injEq]
  exact hlines.congr (fun _ _ => Iff.rfl) id (hmap _) fun e => hmap _

/-- A call that does not find the peer gone is able to write where it needs to,
    and no reading says that the peer is gone. -/
theorem kept_of_not_losesPeer (h : ¬op.LosesPeer t) :
    (op.Writes t → t.outgoing.writable = true) ∧ Requests.Stay (op.Asks t) := by
  constructor
  · intro hwrites
    by_contra hw
    exact h (.inl ⟨hwrites, Bool.eq_false_iff.2 hw⟩)
  · intro reading hmeet
    by_contra hend
    exact h (.inr ⟨reading, hmeet, Bool.eq_true_of_not_eq_false hend⟩)

/-- A call is truthful. -/
theorem truthful_after (op : Operation) (t : Transport) :
    Truthful t.framing (op.Asks t) (¬op.LosesPeer t) (op.Fails t) (op.after t).framing := by
  cases op with
  | sendLine line =>
      exact (truthful_sendLine t line).congr (fun _ _ => Iff.rfl)
        (fun h => (kept_of_not_losesPeer h).1 trivial) Iff.rfl fun _ => Iff.rfl
  | sendMessage m =>
      exact (truthful_sendMessage t m).congr (fun _ _ => Iff.rfl)
        (fun h => (kept_of_not_losesPeer h).1) Iff.rfl fun _ => Iff.rfl
  | collect synchronize required limit =>
      exact (truthful_collect t synchronize required limit).congr (fun _ _ => Iff.rfl)
        kept_of_not_losesPeer Iff.rfl fun _ => Iff.rfl
  | collectRaw synchronize required limit =>
      exact (truthful_collectRaw t synchronize required limit).congr (fun _ _ => Iff.rfl)
        kept_of_not_losesPeer Iff.rfl fun _ => Iff.rfl
  | getOne filter synchronize limit state =>
      refine (Transport.truthful_getOne filter synchronize limit state t).congr
        (fun _ _ => Iff.rfl) (fun h => ?_) Iff.rfl fun _ => Iff.rfl
      have hkept := kept_of_not_losesPeer h
      exact ⟨fun hnone hsync => hkept.1 ⟨hnone, hsync⟩, hkept.2⟩

end Operation

/-- As long as no call has found the peer gone, the stream has not ended. -/
theorem Reached.opened {t : Transport} (h : Reached (fun op t => ¬op.LosesPeer t) t) :
    t.framing.closed = false := by
  induction h with
  | initial name settings clock => rfl
  | willDo h events ih => exact ih
  | waitUntil h moment ih => exact ih
  | writes h works ih => exact ih
  | call h op hallowed ih => exact (Operation.truthful_after op _).opened ih hallowed

/-- In every state, a call reports a failed read that it meets, unless that means
    a disconnect, and no other one. It leaves a failure behind, or one that was
    there when it asked for no line.

    In a state in front of which no call has found the peer gone, a closed
    connection is reported by a call that finds the peer gone, or behind a failure.
    If the call does not find the peer gone, it reports one exactly if there is a
    failure behind which it is the first to ask for a line. -/
theorem closed_report_iff (op : Operation) (t : Transport) :
    (∀ e, op.Fails t (.io e) ↔ e.isDisconnect = false ∧ op.Meets t (.fault e)) ∧
      ((op.after t).framing.faulted = true ↔ (∃ e, op.Meets t (.fault e)) ∨
        t.framing.faulted = true ∧ ¬∃ u moment, op.Asks t u moment) ∧
      (Reached (fun op t => ¬op.LosesPeer t) t →
        (t.framing.faulted = false → op.Fails t .connectionClosed → op.LosesPeer t) ∧
          (¬op.LosesPeer t → (op.Fails t .connectionClosed ↔
            t.framing.faulted = true ∧ ∃ u moment, op.Asks t u moment))) := by
  have htruth := Operation.truthful_after op t
  refine ⟨htruth.failed, htruth.pending, fun h => ⟨fun hunfaulted hclosed => ?_, fun hkept => ?_⟩⟩
  · by_contra hkept
    have hfaulted := (htruth.unended h.opened hkept hclosed).1
    exact Bool.false_ne_true (hunfaulted.symm.trans hfaulted)
  · exact ⟨htruth.unended h.opened hkept, fun hfaulted => htruth.ended hfaulted.1 hfaulted.2⟩

/-- A collection that ends with its first answer has not found the peer gone, if
    no reading on the way to this answer says so. -/
theorem not_losesPeer_of_receive {t u : Transport} {e : TransportError} {required : Bool}
    {limit : Nat} (moment : Nat) (a : Arrival) (hinbox : t.inbox = [])
    (hmoment : min (t.peer.now + t.readTimeout) limit = moment)
    (h : t.receive moment = (a, u)) (he : a.error? = some e)
    (hmeets : ∀ reading, t.framing.Meets t.tokens moment t.peer reading → reading.isEnd = false) :
    ¬(Operation.collect false required limit).LosesPeer t := by
  rintro (⟨hsync, -⟩ | ⟨reading, ⟨v, m, hasks, hmeet⟩, hend⟩)
  · exact Bool.false_ne_true hsync
  · subst hmoment
    rw [Operation.Asks, Transport.CollectionAsks, if_neg Bool.false_ne_true, hinbox] at hasks
    have hopen : ¬Request.isComplete ⟨none, required && true, false, false, limit⟩ [] t.unread =
        true := Bool.false_ne_true
    rcases Transport.single_of_asks hopen h he hasks with ⟨rfl, rfl⟩
    exact Bool.false_ne_true ((hmeets reading hmeet).symm.trans hend)

/-- A peer from which the first read times out, and which sends a line then. It
    is not found gone by a call that meets this read, and not by the next one. -/
theorem timeout_not_losesPeer :
    ∃ t, Reached (fun op t => ¬op.LosesPeer t) t ∧
      t = { Transport.initial "c" .initial fun _ => ⟨0, 0⟩ with
        peer := Peer.idle.willDo [.fault ⟨.timedOut, "scripted failure"⟩,
          .data [.literal (Utf8.ofString "NOTICE a :x\r\n")]] } ∧
      ¬(Operation.collect false true 10000).LosesPeer t ∧
      ¬(Operation.collect false true 10000).LosesPeer
        ((Operation.collect false true 10000).after t) := by
  have hfresh : Reached (fun op t => ¬op.LosesPeer t)
      (.initial "c" .initial fun _ => ⟨0, 0⟩) := .initial ..
  refine ⟨_, hfresh.willDo [.fault ⟨.timedOut, "scripted failure"⟩,
    .data [.literal (Utf8.ofString "NOTICE a :x\r\n")]], rfl, ?_, ?_⟩
  · refine not_losesPeer_of_receive 1000 (.fault ⟨.timedOut, "scripted failure"⟩) rfl
      (by decide +kernel) (Prod.ext (by decide +kernel) rfl) rfl ?_
    rintro reading (⟨-, hreadable, -, -, -⟩ | ⟨-, -, hawaits⟩)
    · exact Bool.noConfusion hreadable
    · rw [Framing.eq_of_awaits (e := ⟨.timedOut, "scripted failure"⟩) (by decide +kernel) hawaits]
      rfl
  · -- The end is reported without a read.
    refine not_losesPeer_of_receive 1000 .closed (by decide +kernel) (by decide +kernel)
      (Prod.ext (by decide +kernel) rfl) rfl fun reading hmeets => ?_
    exact absurd hmeets (Framing.not_meets_of_faulted (by decide +kernel))

/-- A read that times out is reported. The end that follows it is pending then,
    and the next call reports it. -/
theorem closed_report_iff_timeout :
    ∃ t, Reached (fun op t => ¬op.LosesPeer t) t ∧
      (Operation.collect false true 10000).Fails t (.io ⟨.timedOut, "scripted failure"⟩) ∧
      ((Operation.collect false true 10000).after t).framing.faulted = true ∧
      (Operation.collect false true 10000).Fails ((Operation.collect false true 10000).after t)
        .connectionClosed := by
  rcases timeout_not_losesPeer with ⟨t, hreached, ht, hkept, hnext⟩
  have hfails : (Operation.collect false true 10000).Fails t
      (.io ⟨.timedOut, "scripted failure"⟩) := by
    rw [ht]
    unfold Operation.Fails
    decide +kernel
  have hfirst := closed_report_iff (.collect false true 10000) t
  have hmeets := ((hfirst.1 _).1 hfails).2
  have hpending := hfirst.2.1.2 (.inl ⟨_, hmeets⟩)
  have hsecond := closed_report_iff (.collect false true 10000)
    ((Operation.collect false true 10000).after t)
  have hasks : ∃ u moment, (Operation.collect false true 10000).Asks
      ((Operation.collect false true 10000).after t) u moment := by
    subst ht
    exact ⟨_, _, Request.Asks.first (by decide +kernel)⟩
  exact ⟨t, hreached, hfails, hpending,
    ((hsecond.2.2 (hreached.call _ hkept)).2 hnext).2 ⟨hpending, hasks⟩⟩

/-- A read times out, and the next call reports a closed connection. The peer is
    there all the time, and the call behind that one gives what it has sent. -/
theorem timeout_reported_as_closed :
    ∃ t, Reached (fun op t => ¬op.LosesPeer t) t ∧
      ¬(Operation.collect false true 10000).LosesPeer t ∧
      (t.collect false true 10000).1 = .error .connectionClosed ∧
      ((t.collect false true 10000).2.collect false true 10000).1 =
        .ok [⟨[], none, "NOTICE", ["a", "x"]⟩] := by
  rcases timeout_not_losesPeer with ⟨t, hreached, ht, hkept, hnext⟩
  refine ⟨_, hreached.call (.collect false true 10000) hkept, hnext, ?_⟩
  subst ht
  exact ⟨by decide +kernel, by decide +kernel⟩

end IrcHarness
