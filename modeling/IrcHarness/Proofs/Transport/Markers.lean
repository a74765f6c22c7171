import IrcHarness.Proofs.Transport.Modes
import IrcHarness.Proofs.Transport.Tokens

/-!
# Answers That Come Late

A collection that fails does not wait for its answer, which then comes to a later
collection. This one must not end with it, since the lines that it waits for are
behind its own answer.

A run carries the synchronized collections that were made in it, also those that
failed and those that a search makes one after the other. Each of them makes one
token, so their tokens are the tokens of the transport (`Run.tokens`), and these
are distinct. A line that ends one collection is therefore no answer for any other
one. It does not refuse a `PING` either, so the others keep it, wherever it comes.

## Main definitions

* `Synchronization`: A synchronized collection and where it starts.
* `Synchronization.Marks`: A line that ends it as its answer.
* `Synchronization.Ignores`: What ends another one is like any other line.
* `Transport.refills`: Where the collections of a search start.
* `Operation.synchronizations`: The synchronized collections of a call.
* `Run`: What happened to a transport, and the synchronized collections in it.

## Theorems

* `marks_iff`: Only the answer to its own `PING` ends a collection as such.
* `mem_of_consumes`: A line that is kept wherever it comes is in the batch.
* `tokens_after`: Each synchronized collection makes one token.
* `markers_never_confused`: An answer ends only the collection that it is for.
-/

namespace IrcHarness

/-- A synchronized collection, what it was asked for, and where it starts. -/
structure Synchronization where
  /-- The state in which it is made. -/
  start : Transport
  /-- Whether a collection without a line is a failure. -/
  required : Bool
  /-- Whether the caller holds messages already. -/
  queued : Bool
  /-- Whether lines that are no messages are taken as well. -/
  raw : Bool
  /-- The moment at which it is abandoned. -/
  limit : Nat

namespace Synchronization

open Transport

/-- Its token. -/
def token (s : Synchronization) : String :=
  s.start.nextToken

/-- What it asks for. -/
def request (s : Synchronization) : Request :=
  ⟨some s.token, s.required, s.queued, s.raw, s.limit⟩

/-- What comes of it. -/
def result (s : Synchronization) : Outcome (List Received) × Transport :=
  s.start.collectLines true s.required s.queued s.raw s.limit

/-- A line that it takes off the stream. -/
def Consumes (s : Synchronization) (line : List UInt8) : Prop :=
  ∃ u moment v, s.start.CollectionAsks true s.required s.queued s.raw s.limit u moment ∧
    u.receive moment = (.line line, v)

/-- A line that ends it as its answer, with a batch or without one. -/
def Marks (s : Synchronization) (line : List UInt8) : Prop :=
  ∃ taken, s.request.judge taken line = .complete ∨ s.request.judge taken line = .fail .noMessage

/-- What ends another collection as its answer does not end this one. It is
    collected as the message that it is, wherever it comes. -/
def Ignores (s other : Synchronization) : Prop :=
  ∀ line, other.Marks line → ¬s.Marks line ∧ ∃ m, Message.parseBytes line = .ok m ∧
    (∀ taken, s.request.judge taken line =
      .keep ⟨String.ofList (Utf8.decodeLossy line), some m⟩) ∧
    ∀ lines u, s.result = (.ok lines, u) → s.Consumes line →
      ⟨String.ofList (Utf8.decodeLossy line), some m⟩ ∈ lines

end Synchronization

theorem Message.refusesPing_of_isCommand {m : Message} (h : m.isCommand "PONG" = true) :
    m.refusesPing = false := by
  have hne : ¬m.command = notRegistered := by
    intro hcommand
    rw [isCommand, hcommand] at h
    exact absurd h (by decide)
  rw [refusesPing, beq_eq_false_iff_ne.2 hne, Bool.false_and]

namespace Transport

variable {r : Request} {taken lines : List Received} {t u : Transport} {line : List UInt8}
  {received : Received}

/-- What a collection has taken is in its batch. -/
theorem subset_of_gather (h : gather r taken t = (.ok lines, u)) (hmem : received ∈ taken) :
    received ∈ lines := by
  have hne := List.ne_nil_of_mem hmem
  rcases gather_behind r taken t hne with ⟨outcome, v, hbehind⟩
  rw [hbehind taken hne] at h
  cases outcome with
  | ok behind =>
      rw [Outcome.map, Prod.mk.injEq, Outcome.ok.injEq] at h
      rw [← h.1]
      exact List.mem_append_left behind hmem
  | error e => cases h
  | abandoned => cases h

/-- A line that is kept wherever it comes is in the batch. -/
theorem mem_of_consumes (hkeep : ∀ taken, r.judge taken line = .keep received)
    (h : gather r taken t = (.ok lines, u)) (hline : r.Consumes taken t line) :
    received ∈ lines := by
  rcases hline with ⟨v, moment, w, hasks, hline⟩
  induction hasks with
  | first hopen =>
      rw [gather_of_receive hopen hline] at h
      simp only [hkeep] at h
      exact subset_of_gather h (List.mem_append_right _ (List.mem_singleton.2 rfl))
  | kept hopen hfirst hj hasks ih =>
      rw [gather_of_receive hopen hfirst] at h
      simp only [hj] at h
      exact ih h hline
  | waited hopen hsilent hpatient hends htime hasks ih =>
      rw [gather_of_receive hopen hsilent] at h
      simp only [if_neg hpatient, if_neg hends, if_pos htime] at h
      exact ih h hline

end Transport

namespace Synchronization

open Transport

variable {s other : Synchronization} {line : List UInt8} {m : Message}

/-- A synchronized collection ends as such with an answer to its own `PING`. -/
theorem marks_iff :
    s.Marks line ↔ ∃ m, Message.parseBytes line = .ok m ∧ m.answersPing s.token = true := by
  constructor
  · rintro ⟨taken, hj | hj⟩
    · rcases Request.answer_of_judge hj with ⟨token, m, htoken, hparse, hanswer⟩
      rw [← Option.some.inj htoken] at hanswer
      exact ⟨m, hparse, hanswer⟩
    · cases Request.offends_of_judge hj with
      | @noMessage token m htoken hparse hanswer hrequired hnone =>
          rw [← Option.some.inj htoken] at hanswer
          exact ⟨m, hparse, hanswer⟩
  · rintro ⟨m, hparse, hanswer⟩
    refine ⟨[], ?_⟩
    simp only [Request.judge, request, hparse, hanswer, if_true, and_true]
    by_cases hrequired : s.required = true
    · exact .inr (if_pos hrequired)
    · exact .inl (if_neg hrequired)

/-- The answer may name a server, and it may have tags and a source. -/
theorem marks_of_pong (hparse : Message.parseBytes line = .ok m) (hcommand : m.isCommand "PONG")
    (hparams : m.params = [s.token] ∨ ∃ server, m.params = [server, s.token]) : s.Marks line := by
  rw [marks_iff]
  refine ⟨m, hparse, ?_⟩
  rw [Message.answersPing, hcommand, Bool.true_and, beq_iff_eq]
  rcases hparams with hparams | ⟨server, hparams⟩
  · rw [hparams, List.getLast?_singleton]
  · rw [hparams, List.getLast?_cons_cons, List.getLast?_singleton]

/-- Collections with different tokens do not end with each other's answers. -/
theorem ignores_of_token_ne (hne : s.token ≠ other.token) : s.Ignores other := by
  intro line hmarks
  rcases marks_iff.1 hmarks with ⟨m, hparse, hanswer⟩
  rw [Message.answersPing, Bool.and_eq_true, beq_iff_eq] at hanswer
  have hother : m.answersPing s.token = false := by
    rw [Message.answersPing, hanswer.2, hanswer.1, Bool.true_and, beq_eq_false_iff_ne]
    exact fun h => hne (Option.some.inj h).symm
  have hkeep : ∀ taken, s.request.judge taken line =
      .keep ⟨String.ofList (Utf8.decodeLossy line), some m⟩ := by
    intro taken
    simp only [Request.judge, request, hparse, hother,
      Message.refusesPing_of_isCommand hanswer.1, Bool.false_eq_true, if_false]
  refine ⟨fun h => ?_, m, hparse, hkeep, fun lines u hresult hline => ?_⟩
  · rcases marks_iff.1 h with ⟨m', hparse', hanswer'⟩
    rw [hparse, Except.ok.injEq] at hparse'
    rw [← hparse', hother] at hanswer'
    exact Bool.false_ne_true hanswer'
  · rcases s.start.sendPing_cases with ⟨v, hping⟩ | ⟨v, hping⟩
    · rcases hline with ⟨w, moment, x, hasks, hline⟩
      rw [result, collectLines_of_sendPing hping] at hresult
      have hgathers := (collectionAsks_iff hping _ _ _ _ w moment).1 hasks
      exact mem_of_consumes hkeep hresult ⟨w, moment, x, hgathers, hline⟩
    · -- Nothing comes of a collection whose `PING` does not go out.
      unfold result collectLines at hresult
      rw [if_pos rfl, hping] at hresult
      cases hresult

end Synchronization

namespace Transport

/-- The states in which a search makes its collections, one after the other. -/
def refills {σ : Type} (filter : σ → Message → Bool × σ) (synchronize : Bool) (limit : Nat)
    (state : σ) (t : Transport) : List Transport :=
  match firstAccepted filter state t.inbox with
  | (some _, _) => []
  | (none, state) =>
    { t with inbox := [] } ::
      match _h : { t with inbox := [] }.collectLines synchronize true false false limit with
      | (.ok lines, u) =>
        if _hl : lines = [] then []
        else refills filter synchronize limit state
          { u with inbox := lines.filterMap Received.message }
      | (.error _, _) | (.abandoned, _) => []
termination_by t.feeds
decreasing_by
  -- The same line feed is used up as in the search itself.
  exact (feeds_collectLines_lt _h).resolve_left _hl

section Refills

variable {σ : Type} {filter : σ → Message → Bool × σ} {synchronize : Bool} {limit : Nat}
  {state state' : σ} {t u : Transport} {outcome : Outcome (List Received)}

/-- A collection makes the next token if it is synchronized. -/
theorem tokens_collectLines (t : Transport) (synchronize required queued raw : Bool)
    (limit : Nat) :
    (t.collectLines synchronize required queued raw limit).2.tokens =
      t.tokens ++ if synchronize then [t.nextToken] else [] := by
  have hcount := count_collectLines t synchronize required queued raw limit
  cases synchronize with
  | false =>
      rw [if_neg Bool.false_ne_true] at hcount ⊢
      rw [List.append_nil, tokens, hcount.2]
      unfold token
      rw [hcount.1]
      rfl
  | true =>
      rw [if_pos rfl] at hcount ⊢
      rw [← tokens_succ, tokens, hcount.2]
      unfold token
      rw [hcount.1]
      rfl

theorem refills_of_some {m : Message} {rest : List Message}
    (hf : firstAccepted filter state t.inbox = (some (m, rest), state')) :
    t.refills filter synchronize limit state = [] := by
  rw [refills]
  simp only [hf]

/-- A search whose collection gives no line makes no other one. -/
theorem refills_of_last (hf : firstAccepted filter state t.inbox = (none, state'))
    (hlines : { t with inbox := [] }.collectLines synchronize true false false limit = (outcome, u))
    (hlast : ∀ lines, outcome = .ok lines → lines = []) :
    t.refills filter synchronize limit state = [{ t with inbox := [] }] := by
  rw [refills]
  simp only [hf]
  split
  · next lines v heq =>
      rw [hlines, Prod.mk.injEq] at heq
      rw [dif_pos (hlast lines heq.1)]
  · rfl
  · rfl

theorem refills_of_more {lines : List Received}
    (hf : firstAccepted filter state t.inbox = (none, state'))
    (hlines : { t with inbox := [] }.collectLines synchronize true false false limit =
      (.ok lines, u)) (hsome : lines ≠ []) :
    t.refills filter synchronize limit state = { t with inbox := [] } ::
      { u with inbox := lines.filterMap Received.message }.refills filter synchronize limit
        state' := by
  rw [refills]
  simp only [hf]
  split <;> next heq =>
    rw [hlines] at heq
    cases heq
    try rw [dif_neg hsome]

/-- A search makes one token in each of its collections if it is synchronized. -/
theorem tokens_getOne (filter : σ → Message → Bool × σ) (synchronize : Bool)
    (limit : Nat) (state : σ) (t : Transport) :
    (t.getOne filter synchronize limit state).2.2.tokens = t.tokens ++
      if synchronize then (t.refills filter synchronize limit state).map nextToken else [] := by
  have hcollect : ∀ {t u : Transport} {outcome : Outcome (List Received)},
      { t with inbox := [] }.collectLines synchronize true false false limit = (outcome, u) →
        u.tokens = t.tokens ++ if synchronize then [t.nextToken] else [] := by
    intro t u outcome hlines
    have htokens := tokens_collectLines { t with inbox := [] } synchronize true false false limit
    rw [hlines] at htokens
    exact htokens
  fun_induction getOne filter synchronize limit state t with
  | case1 state t m rest state' hf =>
      rw [refills_of_some hf, List.map_nil, ite_self, List.append_nil]
      rfl
  | case2 state t state' hf e u hlines =>
      rw [refills_of_last hf hlines (by simp only [reduceCtorEq, false_imp_iff, implies_true])]
      exact hcollect hlines
  | case3 state t state' hf u hlines =>
      rw [refills_of_last hf hlines (by simp only [reduceCtorEq, false_imp_iff, implies_true])]
      exact hcollect hlines
  | case4 state t state' hf u hlines =>
      rw [refills_of_last hf hlines fun _ h => (Outcome.ok.inj h).symm]
      exact hcollect hlines
  | case5 state t state' hf lines u hlines hl ih =>
      rw [refills_of_more hf hlines hl, ih]
      -- The tokens of the others come behind the one that was made first.
      have hfirst : { u with inbox := lines.filterMap Received.message }.tokens = u.tokens := rfl
      rw [hfirst, hcollect hlines, List.append_assoc]
      cases synchronize with
      | false => rfl
      | true => rfl

end Refills

end Transport

namespace Operation

open Transport

/-- The synchronized collections that a call makes, one after the other. -/
def synchronizations : Operation → Transport → List Synchronization
  | sendLine _, _ | sendMessage _, _ => []
  | collect synchronize required limit, t =>
    if synchronize then [⟨t, required && t.inbox.isEmpty, !t.inbox.isEmpty, false, limit⟩] else []
  | collectRaw synchronize required limit, t =>
    if synchronize then [⟨t, required, false, true, limit⟩] else []
  | getOne filter synchronize limit state, t =>
    if synchronize then
      (t.refills filter synchronize limit state).map (Synchronization.mk · true false false limit)
    else []

/-- Each synchronized collection makes one token, and nothing else does. -/
theorem tokens_after (op : Operation) (t : Transport) :
    (op.after t).tokens = t.tokens ++ (op.synchronizations t).map Synchronization.token := by
  have hline : ∀ line, (t.sendLine line).2.tokens = t.tokens := by
    intro line
    rw [sendLine_eq]
    rfl
  cases op with
  | sendLine line =>
      rw [synchronizations, List.map_nil, List.append_nil]
      exact hline line
  | sendMessage m =>
      rw [synchronizations, List.map_nil, List.append_nil, after, Transport.sendMessage]
      split
      · rfl
      · exact hline _
  | collect synchronize required limit =>
      have htokens := tokens_collectLines t synchronize (required && t.inbox.isEmpty)
        (!t.inbox.isEmpty) false limit
      have hcollect : (t.collect synchronize required limit).2.tokens =
          (t.collectLines synchronize (required && t.inbox.isEmpty) (!t.inbox.isEmpty) false
            limit).2.tokens := by
        unfold Transport.collect
        dsimp only
        rw [Bool.not_not]
        split <;> next heq => exact (congrArg (fun result => result.2.tokens) heq).symm
      rw [after, hcollect, htokens, synchronizations]
      cases synchronize <;> rfl
  | collectRaw synchronize required limit =>
      refine (tokens_collectLines t synchronize required false true limit).trans ?_
      rw [synchronizations]
      cases synchronize <;> rfl
  | getOne filter synchronize limit state =>
      refine (tokens_getOne filter synchronize limit state t).trans ?_
      rw [synchronizations]
      cases synchronize with
      | false => rfl
      | true =>
          rw [if_pos rfl, if_pos rfl, List.map_map]
          rfl

end Operation

/-- What happened to a transport since the start, with the synchronized
    collections that were made, in order. Calls may end in any way. Between two
    calls the peer gets more to do, time passes, and writing starts or stops to
    work. -/
inductive Run : List Synchronization → Transport → Prop where
  /-- Nothing has happened. -/
  | initial (name : String) (settings : TransportSettings) (clock : Nat → Duration) :
      Run [] (.initial name settings clock)
  /-- The peer gets more to do. -/
  | willDo {made : List Synchronization} {t : Transport} (h : Run made t)
      (events : List PeerEvent) : Run made { t with peer := t.peer.willDo events }
  /-- Time passes. -/
  | waitUntil {made : List Synchronization} {t : Transport} (h : Run made t) (moment : Nat) :
      Run made (t.waitUntil moment)
  /-- Writing starts or stops to work. -/
  | writes {made : List Synchronization} {t : Transport} (h : Run made t) (works : Bool) :
      Run made { t with outgoing := { t.outgoing with writable := works } }
  /-- A call is made. -/
  | call {made : List Synchronization} {t : Transport} (h : Run made t) (op : Operation) :
      Run (made ++ op.synchronizations t) (op.after t)

variable {made : List Synchronization} {t : Transport}

/-- The tokens of the collections are the tokens of the transport. -/
theorem Run.tokens (h : Run made t) : made.map Synchronization.token = t.tokens := by
  induction h with
  | initial name settings clock => rfl
  | willDo h events ih => exact ih
  | waitUntil h moment ih => exact ih
  | writes h works ih => exact ih
  | call h op ih => rw [List.map_append, ih, op.tokens_after]

/-- In any run, whatever the clock shows, the synchronized collections have
    distinct tokens. Each of them writes one line that reads as a `PING` with its
    token and nothing else. A `PONG` with this token, behind the name of a server
    or alone, ends it. Whatever ends one of them as its answer is a message like
    any other to all the others. -/
theorem markers_never_confused (h : Run made t) :
    (made.map Synchronization.token).Nodup ∧
      (∀ s ∈ made,
        s.result.2.outgoing = s.start.outgoing.write ("PING " ++ s.token ++ "\r\n") ∧
          Message.parse ("PING " ++ s.token ++ "\r\n") = .ok ⟨[], none, "PING", [s.token]⟩ ∧
          ∀ line m, Message.parseBytes line = .ok m → m.isCommand "PONG" = true →
            (m.params = [s.token] ∨ ∃ server, m.params = [server, s.token]) → s.Marks line) ∧
      made.Pairwise fun s other => s.Ignores other ∧ other.Ignores s := by
  have hnodup : (made.map Synchronization.token).Nodup := by
    rw [h.tokens]
    exact t.nodup_tokens
  refine ⟨hnodup, fun s _ => ⟨?_, ?_, fun line m => Synchronization.marks_of_pong⟩, ?_⟩
  · exact Transport.outgoing_collectLines s.start true s.required s.queued s.raw s.limit
  · exact Message.parse_ping _ _
  · refine (List.pairwise_map.1 hnodup).imp fun hne => ?_
    exact ⟨Synchronization.ignores_of_token_ne hne, Synchronization.ignores_of_token_ne hne.symm⟩

/-- The first collection is refused, and its answer comes to the second one, with
    a source, the name of a server and in lower case. The clock stands still. -/
theorem markers_never_confused_late : ∃ (first second : Synchronization) (t : Transport),
    Run [first, second] t ∧
      [first.token, second.token] = ["sync0.000000000.1", "sync0.000000000.2"] ∧
      first.Marks (Utf8.ofString ":srv pong srv sync0.000000000.1") ∧
      second.Ignores first ∧
      second.result.1 = .ok [⟨":srv pong srv sync0.000000000.1",
        some ⟨[], some "srv", "pong", ["srv", "sync0.000000000.1"]⟩⟩] := by
  have hstart := Run.willDo (.initial "c" .initial fun _ => ⟨0, 0⟩)
    [.data [.literal (Utf8.ofString ":srv 451 * PING :wait\r\n")],
      .data [.literal (Utf8.ofString ":srv pong srv "), .token 1,
        .literal (Utf8.ofString "\r\nPONG "), .token 2, .literal (Utf8.ofString "\r\n")]]
  have hrun := (hstart.call (.collect true false 10000)).call (.collect true false 10000)
  have hconfused := markers_never_confused hrun
  have hparse : Message.parseBytes (Utf8.ofString ":srv pong srv sync0.000000000.1") =
      .ok ⟨[], some "srv", "pong", ["srv", "sync0.000000000.1"]⟩ := by cbv
  have hmarks := (hconfused.2.1 _ List.mem_cons_self).2.2 _ _ hparse (by decide +kernel)
    (.inr ⟨"srv", by decide +kernel⟩)
  have hignores := (List.pairwise_cons.1 hconfused.2.2).1 _ List.mem_cons_self
  exact ⟨_, _, _, hrun, by decide +kernel, hmarks, hignores.2, by decide +kernel⟩

end IrcHarness
