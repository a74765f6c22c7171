import IrcHarness.Proofs.Transport.Readings
import IrcHarness.Proofs.Transport.Requests

/-!
# Failures in Reports

What a call reports when a read fails, and what it leaves behind. A failed read
is reported as what it is, or as a closed connection when it means a disconnect.
Either way an end is pending, which the next request gives without a read.

What is said of one request is said of a collection and a search, with more
requests and the same words. The pieces are put together by `Truthful.trans`:
requests that nothing has come of are followed by others. Nothing is assumed of
the state in which a call is made. What depends on the peer still being there is
said under the condition `kept`, which the pieces hand down.

## Main definitions

* `Requests`: The requests of a call.
* `Requests.Meet`: A reading that one of them meets.
* `Truthful`: What failures are reported and left behind.

## Theorems

* `Truthful.trans`: One piece behind the other.
* `truthful_receive`: One request is truthful.
* `truthful_gather`: So is a collection.
* `truthful_getOne`: So is a search.
-/

namespace IrcHarness

/-- A set of requests, each with the state in which it is made and the moment at
    which it gives up. -/
abbrev Requests := Transport → Nat → Prop

/-- A reading that one of some requests meets. -/
def Requests.Meet (asks : Requests) (reading : Reading) : Prop :=
  ∃ u moment, asks u moment ∧ u.framing.Meets u.tokens moment u.peer reading

/-- No reading that one of some requests meets tells that the peer is gone. -/
def Requests.Stay (asks : Requests) : Prop :=
  ∀ reading, asks.Meet reading → reading.isEnd = false

/-- What failures are reported for some requests, and what they leave behind.
    Under the condition `kept` the peer has not been found gone. -/
structure Truthful (f : Framing) (asks : Requests) (kept : Prop) (fails : TransportError → Prop)
    (f' : Framing) : Prop where
  /-- A read that fails is reported as what it is, unless it means a disconnect. -/
  failed : ∀ e, fails (.io e) ↔ e.isDisconnect = false ∧ asks.Meet (.fault e)
  /-- A disconnect is reported as a closed connection. -/
  lost : ∀ e, e.isDisconnect = true → asks.Meet (.fault e) → fails .connectionClosed
  /-- Behind a failure an end will be reported, and it has to be asked for. -/
  pending : f'.faulted = true ↔
    (∃ e, asks.Meet (.fault e)) ∨ f.faulted = true ∧ ¬∃ u moment, asks u moment
  /-- The first request behind a failure gives a closed connection. -/
  ended : f.faulted = true → (∃ u moment, asks u moment) → fails .connectionClosed
  /-- The stream has not ended. -/
  opened : f.closed = false → kept → f'.closed = false
  /-- A closed connection is reported behind a failure only. -/
  unended : f.closed = false → kept → fails .connectionClosed →
    f.faulted = true ∧ ∃ u moment, asks u moment

variable {f f' f'' : Framing} {asks asks' : Requests} {kept kept' : Prop}
  {fails fails' : TransportError → Prop}

theorem Requests.Stay.mono (h : asks.Stay) (hsub : ∀ u moment, asks' u moment → asks u moment) :
    asks'.Stay := by
  rintro reading ⟨u, moment, hasks, hmeets⟩
  exact h reading ⟨u, moment, hsub u moment hasks, hmeets⟩

/-- Nothing is asked for and no read fails. -/
theorem Truthful.of_no_request (hnone : ∀ u moment, ¬asks u moment) (hio : ∀ e, ¬fails (.io e))
    (hclosed : kept → ¬fails .connectionClosed) : Truthful f asks kept fails f := by
  have hno : ¬∃ u moment, asks u moment := fun ⟨u, moment, h⟩ => hnone u moment h
  have hmeet : ∀ reading, ¬asks.Meet reading := fun _ ⟨u, moment, h, _⟩ => hnone u moment h
  refine {
    failed := fun e => iff_of_false (hio e) fun h => hmeet _ h.2
    lost := fun e _ h => absurd h (hmeet _)
    pending := ?_
    ended := fun _ h => absurd h hno
    opened := fun hopen _ => hopen
    unended := fun _ hkept h => absurd h (hclosed hkept) }
  rw [or_iff_right fun ⟨e, h⟩ => hmeet _ h, and_iff_left hno]

/-- The same requests and the same reports. -/
theorem Truthful.congr (h : Truthful f asks kept fails f')
    (hasks : ∀ u moment, asks' u moment ↔ asks u moment) (hkept : kept' → kept)
    (hclosed : fails' .connectionClosed ↔ fails .connectionClosed)
    (hio : ∀ e, fails' (.io e) ↔ fails (.io e)) : Truthful f asks' kept' fails' f' := by
  have heq : asks' = asks := funext fun u => funext fun moment => propext (hasks u moment)
  subst heq
  exact {
    failed := fun e => (hio e).trans (h.failed e)
    lost := fun e he hmeet => hclosed.2 (h.lost e he hmeet)
    pending := h.pending
    ended := fun hf hsome => hclosed.2 (h.ended hf hsome)
    opened := fun hopen hk => h.opened hopen (hkept hk)
    unended := fun hopen hk hfail => h.unended hopen (hkept hk) (hclosed.1 hfail) }

/-- The bytes of the buffer do not count. -/
theorem Truthful.discard (h : Truthful f asks kept fails f') :
    Truthful f asks kept fails f'.discard :=
  ⟨h.failed, h.lost, h.pending, h.ended, h.opened, h.unended⟩

/-- Requests for which nothing is reported meet no failure. -/
theorem Truthful.not_meet (h : Truthful f asks kept (fun _ => False) f') (e : Fault) :
    ¬asks.Meet (.fault e) := by
  intro hmeet
  by_cases he : e.isDisconnect = true
  · exact h.lost e he hmeet
  · exact (h.failed e).2 ⟨Bool.eq_false_iff.2 he, hmeet⟩

/-- Some requests after which nothing is reported, and others behind them. -/
theorem Truthful.trans (h : Truthful f asks kept (fun _ => False) f')
    (hsome : ∃ u moment, asks u moment) (h' : Truthful f' asks' kept' fails f'') :
    Truthful f (fun u moment => asks u moment ∨ asks' u moment) (kept ∧ kept') fails f'' := by
  -- The first requests would have reported a failure that was there before.
  have hbefore : ¬f.faulted = true := fun hf => h.ended hf hsome
  have hbetween : ¬f'.faulted = true := by
    rw [h.pending]
    rintro (⟨e, hmeet⟩ | ⟨hf, -⟩)
    · exact h.not_meet e hmeet
    · exact hbefore hf
  have hmeet : ∀ e, Requests.Meet (fun u moment => asks u moment ∨ asks' u moment) (.fault e) ↔
      asks'.Meet (.fault e) := by
    intro e
    constructor
    · rintro ⟨u, moment, hasks | hasks, hmeets⟩
      · exact absurd ⟨u, moment, hasks, hmeets⟩ (h.not_meet e)
      · exact ⟨u, moment, hasks, hmeets⟩
    · rintro ⟨u, moment, hasks, hmeets⟩
      exact ⟨u, moment, .inr hasks, hmeets⟩
  refine {
    failed := fun e => (h'.failed e).trans (and_congr_right' (hmeet e).symm)
    lost := fun e he hfault => h'.lost e he ((hmeet e).1 hfault)
    pending := ?_
    ended := fun hf => absurd hf hbefore
    opened := fun hopen hk => h'.opened (h.opened hopen hk.1) hk.2
    unended := fun hopen hk hfail =>
      absurd (h'.unended (h.opened hopen hk.1) hk.2 hfail).1 hbetween }
  rw [h'.pending]
  simp only [hmeet]
  exact or_congr_right (iff_of_false (fun h => hbetween h.1) fun h => hbefore h.1)

namespace Arrival

/-- What is reported of an answer that ends a call. -/
def error? : Arrival → Option TransportError
  | closed => some .connectionClosed
  | fault f => some (if f.isDisconnect then .connectionClosed else .io f)
  | line _ | timedOut => none

variable {a : Arrival}

theorem error?_eq_connectionClosed_iff : a.error? = some .connectionClosed ↔
    a = .closed ∨ ∃ e, a = .fault e ∧ e.isDisconnect = true := by
  cases a with
  | fault f => cases hf : f.isDisconnect <;> simp [error?, hf]
  | closed => simp [error?]
  | line bytes => simp [error?]
  | timedOut => simp [error?]

theorem error?_eq_io_iff (e : Fault) :
    a.error? = some (.io e) ↔ e.isDisconnect = false ∧ a = .fault e := by
  cases a with
  | fault f =>
      simp only [error?, Option.some.injEq, fault.injEq]
      split
      · next hf =>
          refine iff_of_false TransportError.noConfusion ?_
          rintro ⟨he, rfl⟩
          exact Bool.false_ne_true (he.symm.trans hf)
      · next hf =>
          rw [TransportError.io.injEq]
          refine ⟨?_, And.right⟩
          rintro rfl
          exact ⟨Bool.eq_false_iff.2 hf, rfl⟩
  | closed => simp [error?]
  | line bytes => simp [error?]
  | timedOut => simp [error?]

theorem isFault_iff : a.isFault = true ↔ ∃ e, a = .fault e := by
  cases a <;> simp [isFault]

end Arrival

namespace Transport

variable {t u v : Transport} {moment : Nat} {a : Arrival} {r : Request} {taken : List Received}

/-- The one request that is made in a state and gives up at a moment. -/
def Single (t : Transport) (moment : Nat) : Requests := fun u m => u = t ∧ m = moment

theorem meet_single (reading : Reading) :
    (t.Single moment).Meet reading ↔ t.framing.Meets t.tokens moment t.peer reading := by
  constructor
  · rintro ⟨_, _, ⟨rfl, rfl⟩, hmeets⟩
    exact hmeets
  · exact fun hmeets => ⟨t, moment, ⟨rfl, rfl⟩, hmeets⟩

/-- One request is truthful. -/
theorem truthful_receive (h : t.receive moment = (a, u)) :
    Truthful t.framing (t.Single moment) (t.Single moment).Stay (fun e => a.error? = some e)
      u.framing := by
  have htells := Framing.next_tells t.tokens moment t.framing t.peer
  unfold receive at h
  rw [Prod.mk.injEq] at h
  rw [h.1] at htells
  rw [← h.2]
  have hsome : ∃ v m, t.Single moment v m := ⟨t, moment, rfl, rfl⟩
  have hend : (t.Single moment).Stay →
      ¬t.framing.Meets t.tokens moment t.peer (.bytes []) :=
    fun hstays hmeets => Bool.noConfusion (hstays (.bytes []) ((meet_single _).2 hmeets))
  refine {
    failed := fun e => ?failed
    lost := fun e he hmeet => ?lost
    pending := ?pending
    ended := fun hf _ => Arrival.error?_eq_connectionClosed_iff.2 (.inl (htells.ended hf))
    opened := fun hopen hstays => htells.opened hopen (hend hstays)
    unended := fun hopen hstays hfail => ?unended }
  case failed => rw [Arrival.error?_eq_io_iff, htells.failed, meet_single]
  case lost =>
    have hfault := (htells.failed e).2 ((meet_single _).1 hmeet)
    exact Arrival.error?_eq_connectionClosed_iff.2 (.inr ⟨e, hfault, he⟩)
  case pending =>
    rw [htells.pending, Arrival.isFault_iff, or_iff_left fun h => h.2 hsome]
    simp only [htells.failed, meet_single]
  case unended =>
    rcases Arrival.error?_eq_connectionClosed_iff.1 hfail with hclosed | ⟨e, hfault, he⟩
    · exact ⟨htells.unended hopen (hend hstays) hclosed, hsome⟩
    · -- A disconnect tells that the peer is gone.
      have hmeet := (meet_single (.fault e)).2 ((htells.failed e).1 hfault)
      exact absurd he (Bool.eq_false_iff.1 (hstays (.fault e) hmeet))

/-- A line is never the reason for reporting a closed connection or a failed
    read. -/
theorem judge_ne_fail {line : List UInt8} {e : TransportError}
    (h : r.judge taken line = .fail e) : e ≠ .connectionClosed ∧ ∀ f, e ≠ .io f := by
  unfold Request.judge at h
  dsimp only at h
  repeat' split at h
  all_goals
    cases h
    try exact ⟨TransportError.noConfusion, fun _ => TransportError.noConfusion⟩

/-- The requests of a collection are the first one and those behind it, which
    depend on the answer. -/
theorem asks_iff (hopen : ¬r.isComplete taken t.unread = true)
    (h : t.receive (r.deadline t) = (a, u)) (v : Transport) (moment : Nat) :
    r.Asks taken t v moment ↔ t.Single (r.deadline t) v moment ∨
      match a with
      | .line line =>
        match r.judge taken line with
        | .keep received => r.Asks (taken ++ [received])
            (u.noteLine "<-" (String.ofList (Utf8.decodeLossy line))) v moment
        | .complete | .fail _ => False
      | .timedOut => (¬r.limit < t.peer.now + t.readTimeout ∧ ¬r.endsInSilence u.unread = true ∧
          t.peer.now < r.limit) ∧
          r.Asks taken ((u.note .trace "waiting").waitUntil (t.peer.now + 1)) v moment
      | .closed | .fault _ => False := by
  constructor
  · intro hasks
    cases hasks with
    | first => exact .inl ⟨rfl, rfl⟩
    | kept hopen hline hj hasks =>
        rw [hline, Prod.mk.injEq] at h
        rcases h with ⟨rfl, rfl⟩
        simp only [hj]
        exact .inr hasks
    | waited hopen hsilent hpatient hends htime hasks =>
        rw [hsilent, Prod.mk.injEq] at h
        rcases h with ⟨rfl, rfl⟩
        exact .inr ⟨⟨hpatient, hends, htime⟩, hasks⟩
  · rintro (⟨rfl, rfl⟩ | hasks)
    · exact .first hopen
    · cases a with
      | line line =>
          simp only [] at hasks
          split at hasks
          · next hj => exact .kept hopen h hj hasks
          · exact hasks.elim
          · exact hasks.elim
      | timedOut => exact .waited hopen h hasks.1.1 hasks.1.2.1 hasks.1.2.2 hasks.2
      | closed => exact hasks.elim
      | fault f => exact hasks.elim

/-- An answer that ends a call is the only one. -/
theorem single_of_asks {e : TransportError} (hopen : ¬r.isComplete taken t.unread = true)
    (h : t.receive (r.deadline t) = (a, u)) (he : a.error? = some e)
    (hasks : r.Asks taken t v moment) : t.Single (r.deadline t) v moment := by
  rcases (asks_iff hopen h v moment).1 hasks with hfirst | hrest
  · exact hfirst
  · cases a with
    | line line => cases he
    | timedOut => cases he
    | closed => exact hrest.elim
    | fault f => exact hrest.elim

variable {outcome : Outcome (List Received)}

/-- A collection whose first request is the last one reports its answer. -/
theorem truthful_of_last (hc : ¬r.isComplete taken t.unread = true)
    (h : t.receive (r.deadline t) = (a, u))
    (honly : ∀ v m, r.Asks taken t v m → t.Single (r.deadline t) v m)
    (hclosed : outcome = .error .connectionClosed ↔ a.error? = some .connectionClosed)
    (hio : ∀ e, outcome = .error (.io e) ↔ a.error? = some (.io e)) :
    Truthful t.framing (r.Asks taken t) (Requests.Stay (r.Asks taken t))
      (fun e => outcome = .error e) u.framing := by
  have hfirst : ∀ v m, t.Single (r.deadline t) v m → r.Asks taken t v m :=
    fun v m h' => (asks_iff hc h v m).2 (.inl h')
  exact (truthful_receive h).congr (fun v m => ⟨honly v m, hfirst v m⟩)
    (fun hstays => hstays.mono hfirst) hclosed hio

/-- It need not fail, nor does it report every failure as one of the stream. -/
theorem truthful_of_quiet (hc : ¬r.isComplete taken t.unread = true)
    (h : t.receive (r.deadline t) = (a, u))
    (honly : ∀ v m, r.Asks taken t v m → t.Single (r.deadline t) v m) (hnone : a.error? = none)
    (hquiet : ∀ e, outcome = .error e → e ≠ .connectionClosed ∧ ∀ f, e ≠ .io f) :
    Truthful t.framing (r.Asks taken t) (Requests.Stay (r.Asks taken t))
      (fun e => outcome = .error e) u.framing := by
  refine truthful_of_last hc h honly ?_ fun e => ?_
  · rw [hnone]
    exact iff_of_false (fun he => (hquiet _ he).1 rfl) (Option.some_ne_none _).symm
  · rw [hnone]
    exact iff_of_false (fun he => (hquiet _ he).2 e rfl) (Option.some_ne_none _).symm

/-- A collection that goes on is truthful when what comes then is. -/
theorem truthful_of_next {taken' : List Received} (h : t.receive (r.deadline t) = (a, u))
    (hnone : a.error? = none)
    (hasks : ∀ w m, r.Asks taken t w m ↔ t.Single (r.deadline t) w m ∨ r.Asks taken' v w m)
    (hnext : Truthful u.framing (r.Asks taken' v) (Requests.Stay (r.Asks taken' v)) fails f) :
    Truthful t.framing (r.Asks taken t) (Requests.Stay (r.Asks taken t)) fails f := by
  have hkept : Truthful t.framing (t.Single (r.deadline t)) (t.Single (r.deadline t)).Stay
      (fun _ => False) u.framing := by
    refine (truthful_receive h).congr (fun _ _ => Iff.rfl) id ?_ fun e => ?_
    · rw [hnone]
      exact iff_of_false id (Option.some_ne_none _).symm
    · rw [hnone]
      exact iff_of_false id (Option.some_ne_none _).symm
  exact (hkept.trans ⟨t, _, rfl, rfl⟩ hnext).congr hasks
    (fun hstays => ⟨hstays.mono fun w m h' => (hasks w m).2 (.inl h'),
      hstays.mono fun w m h' => (hasks w m).2 (.inr h')⟩) Iff.rfl fun _ => Iff.rfl

/-- A collection is truthful. -/
theorem truthful_gather (r : Request) (taken : List Received) (t : Transport) :
    Truthful t.framing (r.Asks taken t) (Requests.Stay (r.Asks taken t))
      (fun e => (gather r taken t).1 = .error e) (gather r taken t).2.framing := by
  fun_induction gather r taken t with
  | case1 taken t hc =>
      refine .of_no_request (fun u m h => ?_) (fun e h => ?_) fun _ h => ?_
      · cases h with
        | first hopen => exact hopen hc
        | kept hopen => exact hopen hc
        | waited hopen => exact hopen hc
      · cases h
      · cases h
  | case2 taken t hc line t' h _ received hj ih =>
      refine truthful_of_next h rfl (fun w m => ?_) ih
      rw [asks_iff hc h]
      simp only [hj]
      rfl
  | case3 taken t hc line t' h _ hj =>
      refine truthful_of_quiet (u := t') hc h (fun w m h' => ?_) rfl fun e he => by cases he
      rw [asks_iff hc h] at h'
      simpa only [hj, or_false] using h'
  | case4 taken t hc line t' h _ e hj =>
      refine truthful_of_quiet (u := t') hc h (fun w m h' => ?_) rfl fun e' he => ?_
      · rw [asks_iff hc h] at h'
        simpa only [hj, or_false] using h'
      · exact Outcome.error.inj he ▸ judge_ne_fail hj
  | case5 taken t hc t' h =>
      refine truthful_of_last (u := t') hc h (fun w m => single_of_asks hc h rfl) ?_ fun e => ?_
      · exact iff_of_true rfl rfl
      · rw [Outcome.error.injEq, Arrival.error?, Option.some.injEq]
  | case6 taken t hc f t' h hf =>
      refine (truthful_of_last (u := t') hc h (fun w m => single_of_asks hc h rfl) ?_
        fun e => ?_).discard
      · rw [Outcome.error.injEq, Arrival.error?, if_pos hf, Option.some.injEq]
      · rw [Outcome.error.injEq, Arrival.error?, if_pos hf, Option.some.injEq]
  | case7 taken t hc f t' h hf =>
      refine truthful_of_last (u := t') hc h (fun w m => single_of_asks hc h rfl) ?_ fun e => ?_
      · rw [Outcome.error.injEq, Arrival.error?, if_neg hf, Option.some.injEq]
      · rw [Outcome.error.injEq, Arrival.error?, if_neg hf, Option.some.injEq]
  | case8 taken t hc t' h hl =>
      refine truthful_of_quiet (u := t') hc h (fun w m h' => ?_) rfl fun e he => by cases he
      rw [asks_iff hc h] at h'
      simpa only [hl, not_true_eq_false, false_and, or_false] using h'
  | case9 taken t hc t' h hl he =>
      refine truthful_of_quiet (u := t') hc h (fun w m h' => ?_) rfl fun e he => by cases he
      rw [asks_iff hc h] at h'
      simpa only [he, not_true_eq_false, false_and, and_false, or_false] using h'
  | case10 taken t hc t' h hl he ht ih =>
      refine truthful_of_next h rfl (fun w m => ?_) ih
      rw [asks_iff hc h]
      exact or_congr_right ⟨And.right, fun h' => ⟨⟨hl, he, ht⟩, h'⟩⟩
  | case11 taken t hc t' h hl he ht =>
      refine truthful_of_quiet (u := t') hc h (fun w m h' => ?_) rfl fun e he => by cases he
      rw [asks_iff hc h] at h'
      simpa only [ht, and_false, false_and, or_false] using h'

/-- Writing works behind a collection if it does in front of it. -/
theorem writable_collectLines (t : Transport) (synchronize required queued raw : Bool)
    (limit : Nat) :
    (t.collectLines synchronize required queued raw limit).2.outgoing.writable =
      t.outgoing.writable := by
  have hwrite : ∀ (o : Outgoing) (text : String), (o.write text).writable = o.writable := by
    intro o text
    unfold Outgoing.write
    split <;> rfl
  have hping : t.sendPing.2.outgoing.writable = t.outgoing.writable := by
    simp only [sendPing, sendLine]
    split <;> next heq =>
      split at heq <;>
        · rw [← (Prod.mk.inj heq).2]
          exact hwrite ..
  unfold collectLines
  split
  · split <;> next heq =>
      rw [heq] at hping
      first
      | exact hping
      | rw [(agree_gather _ [] _).outgoing]
        exact hping
  · rw [(agree_gather _ [] t).outgoing]

section Collection

variable {synchronize required queued raw : Bool} {limit : Nat}

/-- A collection that is synchronized makes its requests behind a `PING`. -/
theorem collectionAsks_iff {token : String} (h : t.sendPing = (.ok token, u))
    (required queued raw : Bool) (limit : Nat) (v : Transport) (m : Nat) :
    t.CollectionAsks true required queued raw limit v m ↔
      Request.Asks ⟨some token, required, queued, raw, limit⟩ [] u v m := by
  unfold CollectionAsks
  rw [if_pos rfl]
  constructor
  · rintro ⟨token', u', h', hasks⟩
    rw [h, Prod.mk.injEq, Except.ok.injEq] at h'
    rcases h' with ⟨rfl, rfl⟩
    exact hasks
  · exact fun hasks => ⟨token, u, h, hasks⟩

/-- A collection is truthful. The peer is found gone by its `PING` as well. -/
theorem truthful_collectLines (t : Transport) (synchronize required queued raw : Bool)
    (limit : Nat) :
    Truthful t.framing (t.CollectionAsks synchronize required queued raw limit)
      ((synchronize = true → t.outgoing.writable = true) ∧
        Requests.Stay (t.CollectionAsks synchronize required queued raw limit))
      (fun e => (t.collectLines synchronize required queued raw limit).1 = .error e)
      (t.collectLines synchronize required queued raw limit).2.framing := by
  cases synchronize with
  | true =>
      rcases sendPing_cases t with ⟨u, hping⟩ | ⟨u, hping⟩
      · have hasks := collectionAsks_iff hping required queued raw limit
        rw [collectLines_of_sendPing hping, ← framing_of_sendPing hping]
        exact (truthful_gather _ [] u).congr hasks
          (fun hkept => hkept.2.mono fun v m => (hasks v m).2) Iff.rfl fun _ => Iff.rfl
      · have hfail : t.collectLines true required queued raw limit =
            (.error .connectionClosed, u) := by
          unfold collectLines
          rw [if_pos rfl, hping]
        rw [hfail, framing_of_sendPing hping]
        refine .of_no_request (fun v m hasks => ?_) (fun e h => ?_) fun hkept => ?_
        · unfold CollectionAsks at hasks
          rw [if_pos rfl, hping] at hasks
          rcases hasks with ⟨token, u', h, -⟩
          cases h
        · cases h
        · -- A `PING` that does not go out has found the peer gone.
          have hok := sendPing_of_writable (hkept.1 rfl)
          rw [hping] at hok
          cases hok
  | false =>
      exact (truthful_gather _ [] t).congr (fun _ _ => Iff.rfl) And.right Iff.rfl fun _ => Iff.rfl

/-- A collection that gives something has asked for it, unless it had something
    to give before. -/
theorem exists_collectionAsks {lines : List Received}
    (h : t.collectLines synchronize required false raw limit = (.ok lines, u)) :
    ∃ v m, t.CollectionAsks synchronize required false raw limit v m := by
  cases synchronize with
  | true =>
      rcases sendPing_cases t with ⟨v, hping⟩ | ⟨v, hping⟩
      · refine ⟨v, _, (collectionAsks_iff hping _ _ _ _ v _).2 (.first ?_)⟩
        exact Bool.false_ne_true
      · unfold collectLines at h
        rw [if_pos rfl, hping] at h
        cases h
  | false => exact ⟨t, _, Request.Asks.first Bool.false_ne_true⟩

end Collection

section Search

variable {σ : Type} {filter : σ → Message → Bool × σ} {synchronize : Bool} {limit : Nat}
  {state state' : σ} {lines : List Received}

/-- The requests of a search are those of a collection and of the search that
    goes on with what it brings. -/
theorem searchAsks_iff (hnone : firstAccepted filter state t.inbox = (none, state'))
    (h : { t with inbox := [] }.collectLines synchronize true false false limit = (outcome, u))
    (v : Transport) (m : Nat) :
    t.SearchAsks filter synchronize limit state v m ↔
      { t with inbox := [] }.CollectionAsks synchronize true false false limit v m ∨
        ∃ lines, outcome = .ok lines ∧ lines ≠ [] ∧
          { u with inbox := lines.filterMap Received.message }.SearchAsks filter synchronize limit
            state' v m := by
  constructor
  · intro hasks
    cases hasks with
    | first hnone' hasks => exact .inl hasks
    | again hnone' hlines hsome hasks =>
        rw [hnone, Prod.mk.injEq] at hnone'
        rw [h, Prod.mk.injEq] at hlines
        rcases hnone' with ⟨-, rfl⟩
        rcases hlines with ⟨rfl, rfl⟩
        exact .inr ⟨_, rfl, hsome, hasks⟩
  · rintro (hasks | ⟨lines, rfl, hsome, hasks⟩)
    · exact .first hnone hasks
    · exact .again hnone h hsome hasks

/-- The first collection of a search is truthful. -/
theorem truthful_searched (hnone : firstAccepted filter state t.inbox = (none, state'))
    (h : { t with inbox := [] }.collectLines synchronize true false false limit = (outcome, u)) :
    Truthful t.framing ({ t with inbox := [] }.CollectionAsks synchronize true false false limit)
      (((firstAccepted filter state t.inbox).1 = none → synchronize = true →
        t.outgoing.writable = true) ∧ Requests.Stay (t.SearchAsks filter synchronize limit state))
      (fun e => outcome = .error e) u.framing := by
  have hcollection := truthful_collectLines { t with inbox := [] } synchronize true false false
    limit
  rw [h] at hcollection
  refine hcollection.congr (fun _ _ => Iff.rfl) (fun hkept => ⟨?_, ?_⟩) Iff.rfl fun _ => Iff.rfl
  · exact hkept.1 (congrArg Prod.fst hnone)
  · exact hkept.2.mono fun v m hasks => (searchAsks_iff hnone h v m).2 (.inl hasks)

/-- A search is truthful. It sends a `PING` only if it has to ask. -/
theorem truthful_getOne (filter : σ → Message → Bool × σ) (synchronize : Bool) (limit : Nat)
    (state : σ) (t : Transport) :
    Truthful t.framing (t.SearchAsks filter synchronize limit state)
      (((firstAccepted filter state t.inbox).1 = none → synchronize = true →
        t.outgoing.writable = true) ∧ Requests.Stay (t.SearchAsks filter synchronize limit state))
      (fun e => (t.getOne filter synchronize limit state).1 = .error e)
      (t.getOne filter synchronize limit state).2.2.framing := by
  fun_induction getOne filter synchronize limit state t with
  | case1 state t m rest state' hf =>
      refine .of_no_request (fun u m h => ?_) (fun e h => ?_) fun _ h => ?_
      · cases h with
        | first hnone => rw [hf] at hnone; cases hnone
        | again hnone => rw [hf] at hnone; cases hnone
      · cases h
      · cases h
  | case2 state t state' hf e u h =>
      refine (truthful_searched hf h).congr (fun v m => ?_) id ?_ fun e' => ?_
      · rw [searchAsks_iff hf h]
        refine or_iff_left ?_
        rintro ⟨lines, he, -⟩
        cases he
      · rw [Outcome.error.injEq, Outcome.error.injEq]
      · rw [Outcome.error.injEq, Outcome.error.injEq]
  | case3 state t state' hf u h =>
      refine (truthful_searched hf h).congr (fun v m => ?_) id ?_ fun e => ?_
      · rw [searchAsks_iff hf h]
        refine or_iff_left ?_
        rintro ⟨lines, he, -⟩
        cases he
      · simp only [reduceCtorEq]
      · simp only [reduceCtorEq]
  | case4 state t state' hf u h =>
      refine (truthful_searched hf h).congr (fun v m => ?_) id ?_ fun e => ?_
      · rw [searchAsks_iff hf h]
        refine or_iff_left ?_
        rintro ⟨lines, he, hsome, -⟩
        exact hsome (Outcome.ok.inj he).symm
      · simp only [Outcome.error.injEq, reduceCtorEq]
      · simp only [Outcome.error.injEq, reduceCtorEq]
  | case5 state t state' hf lines u h hl ih =>
      have hasks := searchAsks_iff hf h
      have hfirst : Truthful t.framing
          ({ t with inbox := [] }.CollectionAsks synchronize true false false limit) _
          (fun _ => False) u.framing :=
        (truthful_searched hf h).congr (fun _ _ => Iff.rfl) id (by simp only [reduceCtorEq])
          fun e => by simp only [reduceCtorEq]
      have hsame : u.outgoing.writable = t.outgoing.writable := by
        have hlines := writable_collectLines { t with inbox := [] } synchronize true false false
          limit
        rw [h] at hlines
        exact hlines
      refine (hfirst.trans (exists_collectionAsks h) ih).congr (fun v m => ?_)
        (fun hkept => ⟨hkept, fun _ hsync => ?_, ?_⟩) Iff.rfl fun _ => Iff.rfl
      · rw [hasks]
        refine or_congr_right ⟨?_, fun h' => ⟨lines, rfl, hl, h'⟩⟩
        rintro ⟨lines', he, -, h'⟩
        exact Outcome.ok.inj he ▸ h'
      · exact hsame.trans (hkept.1 (congrArg Prod.fst hf) hsync)
      · exact hkept.2.mono fun v m h' => (hasks v m).2 (.inr ⟨lines, rfl, hl, h'⟩)

end Search

end Transport

end IrcHarness
