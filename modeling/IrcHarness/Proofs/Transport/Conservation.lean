import IrcHarness.Proofs.Transport.Collection

/-!
# Conservation

What a peer delivers goes a long way before a test sees it. It lies in the
buffer until its line is complete and a collection takes it, then among the
messages that were left over, until a call hands it out or a filter turns it
down. Synchronized collections stop in front of an answer, the others behind a
read, and searches take as much as they need, so the lines that one call leaves
are picked up by the next one, whichever that is.

In a run in which every call is completed nothing is lost on this way, nothing
comes twice and nothing overtakes anything. The messages that were handed out or
turned down, those left over, and those of the complete lines in the buffer are
the lines that the peer has delivered, in the order in which they came. Only the
answers are missing, one for each token, and each where its token stands among
the tokens (`conserved_of_calls`).

All calls are made of two things only: a collection that puts its messages
behind those left over, and messages that go out from the front. `History` is a
run in these terms. It also carries the bytes that the reads brought, which no
call gives back, and the induction is on it.

## Main definitions

* `recording`: A filter that remembers what it was shown.
* `Transport.Calls`: A run of completed calls, with what went out.
* `Transport.History`: The same run in single steps, with what came in.
* `Transport.Accounts`: Where each line that was taken has gone.
* `Transport.Conserved`: Where each line that came is.

## Theorems

* `Ends.kept_and_answer`: A completed collection keeps all but its answer.
* `Accounts.collection`, `Accounts.handOut`: What the two steps preserve.
* `history_getOne`: A search is made of the two steps.
* `conserved_of_calls`: Between calls every line is accounted for.
-/

namespace IrcHarness

open StreamItem (ofBytes)

namespace Outcome

variable {α β : Type}

/-- A call was completed: it gave something, or there was nothing to give. -/
def Completed : Outcome α → Prop
  | ok _ => True
  | error e => e = .noMessage
  | abandoned => False

instance (outcome : Outcome α) : Decidable outcome.Completed :=
  match outcome with
  | ok _ => inferInstanceAs (Decidable True)
  | error e => inferInstanceAs (Decidable (e = .noMessage))
  | abandoned => inferInstanceAs (Decidable False)

/-- What a call gave. -/
def given : Outcome (List α) → List α
  | ok values => values
  | error _ | abandoned => []

end Outcome

/-- A filter that remembers what it was shown, in order. -/
def recording {σ : Type} (filter : σ → Message → Bool × σ) (state : σ × List Message)
    (m : Message) : Bool × (σ × List Message) :=
  ((filter state.1 m).1, ((filter state.1 m).2, state.2 ++ [m]))

/-- A filter that remembers what it was shown accepts the same message, and it
    was shown all up to that one. -/
theorem firstAccepted_recording {σ : Type} (filter : σ → Message → Bool × σ) (state : σ)
    (seen messages : List Message) :
    ∃ front, firstAccepted (recording filter) (state, seen) messages =
        ((firstAccepted filter state messages).1,
          ((firstAccepted filter state messages).2, seen ++ front)) ∧
      messages = front ++ ((firstAccepted filter state messages).1.map Prod.snd).getD [] := by
  induction messages generalizing state seen with
  | nil => exact ⟨[], by rw [List.append_nil]; rfl, rfl⟩
  | cons m rest ih =>
      unfold firstAccepted
      cases hf : filter state m with
      | mk accepted next =>
          have hrecord : recording filter (state, seen) m = (accepted, (next, seen ++ [m])) := by
            unfold recording
            rw [hf]
          cases accepted with
          -- The message that is accepted is the last one that is shown.
          | true =>
              refine ⟨[m], ?_, rfl⟩
              rw [hrecord]
          | false =>
              rcases ih next (seen ++ [m]) with ⟨front, hfront, hrest⟩
              refine ⟨m :: front, ?_, ?_⟩
              · rw [hrecord]
                simp only [hfront, List.append_assoc, List.singleton_append]
              · exact congrArg (m :: ·) hrest

namespace Request

/-- A completed collection keeps all lines that it takes but the answer, and it
    takes an answer exactly when it waits for one. -/
theorem Ends.kept_and_answer {r : Request} {lines : List (List UInt8)}
    {outcome : Outcome (List Received)} (h : r.Ends lines outcome) (hc : outcome.Completed) :
    ∃ kept answer, r.Keeps [] kept outcome.given ∧ lines = kept ++ answer ∧
      (r.token = none ∧ answer = [] ∨
        ∃ token m line, r.token = some token ∧ answer = [line] ∧
          Message.parseBytes line = .ok m ∧ m.answersPing token = true) := by
  cases h with
  | @enough lines taken hkept htoken =>
      exact ⟨lines, [], hkept, (List.append_nil lines).symm, .inl ⟨htoken, rfl⟩⟩
  | @answered lines taken line token m hkept htoken hparse hanswer =>
      exact ⟨lines, [line], hkept, rfl, .inr ⟨token, m, line, htoken, rfl, hparse, hanswer⟩⟩
  | @refused lines taken line e hkept hoffends =>
      rw [show e = .noMessage from hc] at hoffends
      cases hoffends with
      | noMessage htoken hparse hanswer hrequired hnone =>
          rw [hnone] at hkept
          exact ⟨lines, [line], hkept, rfl, .inr ⟨_, _, line, htoken, rfl, hparse, hanswer⟩⟩
  | abandoned hkept => exact hc.elim

end Request

/-- A line that came, and whether it was taken for an answer. -/
structure Arrived where
  /-- The line. -/
  line : List UInt8
  /-- Whether a collection took it for the answer that it waited for. -/
  isAnswer : Bool

namespace Transport

/-- The messages that a search shows to its filter, in order: those that the
    filter turns down and the one that it accepts. -/
def shown {σ : Type} (filter : σ → Message → Bool × σ) (synchronize : Bool) (limit : Nat)
    (state : σ) (t : Transport) : List Message :=
  (getOne (recording filter) synchronize limit (state, []) t).2.1.2

/-- A run of completed calls from the start, with the messages that were handed
    out or that a filter turned down, in order. Between calls the peer gets more
    to do, and time passes. -/
inductive Calls : List Message → Transport → Prop where
  /-- Nothing has happened. -/
  | initial (name : String) (settings : TransportSettings) (clock : Nat → Duration) :
      Calls [] (initial name settings clock)
  /-- The peer gets more to do. -/
  | willDo {handed : List Message} {t : Transport} (h : Calls handed t)
      (events : List PeerEvent) : Calls handed { t with peer := t.peer.willDo events }
  /-- Time passes. -/
  | waitUntil {handed : List Message} {t : Transport} (h : Calls handed t) (moment : Nat) :
      Calls handed (t.waitUntil moment)
  /-- Messages are collected. -/
  | collect {handed : List Message} {t : Transport} (h : Calls handed t)
      (synchronize required : Bool) (limit : Nat)
      (hc : (t.collect synchronize required limit).1.Completed) :
      Calls (handed ++ (t.collect synchronize required limit).1.given)
        (t.collect synchronize required limit).2
  /-- One message is looked for. -/
  | getOne {handed : List Message} {t : Transport} (h : Calls handed t) {σ : Type}
      (filter : σ → Message → Bool × σ) (synchronize : Bool) (limit : Nat) (state : σ)
      (hc : (t.getOne filter synchronize limit state).1.Completed) :
      Calls (handed ++ t.shown filter synchronize limit state)
        (t.getOne filter synchronize limit state).2.2

/-- The transport with messages behind those that are left over. -/
def queue (t : Transport) (messages : List Message) : Transport :=
  { t with inbox := t.inbox ++ messages }

/-- Between two states the reads brought these bytes, and nothing else came off
    the stream. The tokens are those of the second state, so they existed all
    the while. -/
def Delivers (t : Transport) (bytes : List UInt8) (t' : Transport) : Prop :=
  t.peer.items t'.tokens = ofBytes bytes ++ t'.peer.items t'.tokens

/-- A run in single steps, with the messages that went out and the bytes that
    the reads have brought, both in order. -/
inductive History : List Message → List UInt8 → Transport → Prop where
  /-- Nothing has happened. -/
  | initial (name : String) (settings : TransportSettings) (clock : Nat → Duration) :
      History [] [] (initial name settings clock)
  /-- The peer gets more to do. -/
  | willDo {handed : List Message} {bytes : List UInt8} {t : Transport}
      (h : History handed bytes t) (events : List PeerEvent) :
      History handed bytes { t with peer := t.peer.willDo events }
  /-- Time passes. -/
  | waitUntil {handed : List Message} {bytes : List UInt8} {t : Transport}
      (h : History handed bytes t) (moment : Nat) : History handed bytes (t.waitUntil moment)
  /-- A collection is completed and puts its messages behind the others. -/
  | collection {handed : List Message} {bytes more : List UInt8} {t u : Transport}
      {outcome : Outcome (List Received)} (h : History handed bytes t)
      {synchronize required queued : Bool} {limit : Nat}
      (hlines : t.collectLines synchronize required queued false limit = (outcome, u))
      (hc : outcome.Completed) (hmore : t.Delivers more u) :
      History handed (bytes ++ more) (u.queue (outcome.given.filterMap Received.message))
  /-- Messages go out from the front. -/
  | handOut {handed front rest : List Message} {bytes : List UInt8} {t : Transport}
      (h : History handed bytes t) (hinbox : t.inbox = front ++ rest) :
      History (handed ++ front) bytes { t with inbox := rest }

/-- Where each line that was taken has gone: it is an answer, or its message went
    out or is left over. -/
structure Accounts (arrived : List Arrived) (handed : List Message) (bytes : List UInt8)
    (t : Transport) : Prop where
  /-- Each line is one line. -/
  clean : ∀ a ∈ arrived, Line.isIn a.line = false
  /-- What came is the lines that were taken and what is unread. -/
  delivered : bytes = Line.wire (arrived.map Arrived.line) ++ t.unread
  /-- The other lines are the messages that went out or are left over. -/
  kept : (handed ++ t.inbox).map .ok =
    (arrived.filter (!·.isAnswer)).map fun a => Message.parseBytes a.line
  /-- There is one answer for each token. -/
  answers : List.Forall₂
    (fun a token => ∃ m, Message.parseBytes a.line = .ok m ∧ m.answersPing token = true)
    (arrived.filter Arrived.isAnswer) t.tokens
  /-- No read has failed. -/
  sound : t.framing.Sound

/-- Where each line that came is. The messages that went out, those that are left
    over, and those of the complete lines that are unread are the lines that the
    peer has delivered, less one answer for each token. -/
def Conserved (handed : List Message) (bytes : List UInt8) (t : Transport) : Prop :=
  ∃ arrived : List Arrived,
    arrived.map Arrived.line = (Line.split bytes).1 ∧
      (handed ++ t.inbox).map .ok ++ (Line.split t.unread).1.map Message.parseBytes =
        (arrived.filter (!·.isAnswer)).map (fun a => Message.parseBytes a.line) ∧
      List.Forall₂
        (fun a token => ∃ m, Message.parseBytes a.line = .ok m ∧ m.answersPing token = true)
        (arrived.filter Arrived.isAnswer) t.tokens

variable {handed : List Message} {bytes more : List UInt8} {t u : Transport}
  {arrived : List Arrived} {outcome : Outcome (List Received)}

theorem accounts_initial (name : String) (settings : TransportSettings) (clock : Nat → Duration) :
    Accounts [] [] [] (initial name settings clock) :=
  ⟨fun _ h => absurd h List.not_mem_nil, rfl, rfl, .nil, Framing.sound_initial⟩

/-- Messages that go out stay accounted for. -/
theorem Accounts.handOut (h : Accounts arrived handed bytes t) {front rest : List Message}
    (hinbox : t.inbox = front ++ rest) :
    Accounts arrived (handed ++ front) bytes { t with inbox := rest } := by
  refine ⟨h.clean, h.delivered, ?_, h.answers, h.sound⟩
  rw [← h.kept, hinbox, List.append_assoc]

/-- The lines that a collection kept and the answer behind them, each of its
    kind. -/
theorem kinds_of_arrived (kept answer : List (List UInt8)) :
    (kept.map (Arrived.mk · false) ++ answer.map (Arrived.mk · true)).map Arrived.line =
        kept ++ answer ∧
      (kept.map (Arrived.mk · false) ++ answer.map (Arrived.mk · true)).filter (!·.isAnswer) =
        kept.map (Arrived.mk · false) ∧
      (kept.map (Arrived.mk · false) ++ answer.map (Arrived.mk · true)).filter Arrived.isAnswer =
        answer.map (Arrived.mk · true) := by
  refine ⟨?_, ?_, ?_⟩
  · simp [Function.comp_def]
  · simp [List.filter_map, Function.comp_def]
  · simp [List.filter_map, Function.comp_def]

/-- A completed collection keeps the messages of its lines and takes one answer
    if it made a token. -/
theorem Accounts.collection (h : Accounts arrived handed bytes t)
    {synchronize required queued : Bool} {limit : Nat}
    (hlines : t.collectLines synchronize required queued false limit = (outcome, u))
    (hc : outcome.Completed) (hmore : t.Delivers more u) :
    ∃ arrived', Accounts arrived' handed (bytes ++ more)
      (u.queue (outcome.given.filterMap Received.message)) := by
  have hinbox := inbox_collectLines t synchronize required queued false limit
  rw [hlines] at hinbox
  rcases ends_of_collectLines h.sound hlines with hend | ⟨lines, hends, htake, htokens⟩
  · rcases hend with rfl | ⟨f, rfl⟩ <;> exact absurd hc (by simp [Outcome.Completed])
  rcases hends.kept_and_answer hc with ⟨kept, answer, hkept, rfl, hanswer⟩
  rcases hkept.messages rfl with ⟨messages, hparsed, hmessages⟩
  rcases kinds_of_arrived kept answer with ⟨hline, hplain, hmark⟩
  refine ⟨arrived ++ (kept.map (Arrived.mk · false) ++ answer.map (Arrived.mk · true)), ?_, ?_, ?_,
    ?_, htake.sound⟩
  -- The lines come behind those that were taken before.
  · intro a ha
    rcases List.mem_append.1 ha with ha | ha
    · exact h.clean a ha
    · refine htake.clean a.line ?_
      rw [← hline]
      exact List.mem_map_of_mem ha
  -- What the reads brought went into lines, and the rest is unread.
  · have hwire : Line.wire (arrived.map Arrived.line ++ (kept ++ answer)) =
        Line.wire (arrived.map Arrived.line) ++ Line.wire (kept ++ answer) :=
      List.flatMap_append
    rw [h.delivered, List.append_assoc, htake.unread_append hmore, List.map_append, hline, hwire,
      List.append_assoc]
    rfl
  -- The messages of the lines that were kept are behind those left over.
  · have hqueue : (u.queue (outcome.given.filterMap Received.message)).inbox =
        t.inbox ++ messages := by
      rw [hmessages, ← hinbox]
      rfl
    rw [hqueue, ← List.append_assoc, List.map_append, h.kept, List.filter_append, hplain,
      List.map_append, List.map_map, ← hparsed]
    rfl
  -- With a token there is one answer, and without a token there is none.
  · rw [List.filter_append, hmark]
    have hqueue : (u.queue (outcome.given.filterMap Received.message)).tokens =
        t.tokensOf synchronize := htokens
    rw [hqueue]
    unfold request at hanswer
    unfold tokensOf
    rcases hanswer with ⟨htoken, rfl⟩ | ⟨token, m, line, htoken, rfl, hparse, hanswer⟩
    · by_cases hsync : synchronize = true
      · rw [if_pos hsync] at htoken
        exact absurd htoken (Option.some_ne_none _)
      · rw [if_neg hsync, List.map_nil, List.append_nil]
        exact h.answers
    · by_cases hsync : synchronize = true
      · rw [if_pos hsync, Option.some.injEq] at htoken
        rw [if_pos hsync]
        refine List.rel_append h.answers (.cons ⟨m, hparse, ?_⟩ .nil)
        rw [htoken]
        exact hanswer
      · rw [if_neg hsync] at htoken
        exact absurd htoken.symm (Option.some_ne_none _)

/-- Every line that was taken in a run is accounted for. -/
theorem History.accounts (h : History handed bytes t) :
    ∃ arrived, Accounts arrived handed bytes t := by
  induction h with
  | initial name settings clock => exact ⟨[], accounts_initial name settings clock⟩
  | willDo h events ih =>
      rcases ih with ⟨arrived, ha⟩
      exact ⟨arrived, ha.clean, ha.delivered, ha.kept, ha.answers, ha.sound⟩
  | waitUntil h moment ih =>
      rcases ih with ⟨arrived, ha⟩
      exact ⟨arrived, ha.clean, ha.delivered, ha.kept, ha.answers, ha.sound⟩
  | collection h hlines hc hmore ih =>
      rcases ih with ⟨arrived, ha⟩
      exact ha.collection hlines hc hmore
  | handOut h hinbox ih =>
      rcases ih with ⟨arrived, ha⟩
      exact ⟨arrived, ha.handOut hinbox⟩

/-- The lines of all that came are those that were taken and those that are
    complete in the buffer. -/
theorem Accounts.conserved (h : Accounts arrived handed bytes t) : Conserved handed bytes t := by
  have hplain : ((Line.split t.unread).1.map (Arrived.mk · false)).filter (!·.isAnswer) =
      (Line.split t.unread).1.map (Arrived.mk · false) := by
    simp [List.filter_map, Function.comp_def]
  have hmark : ((Line.split t.unread).1.map (Arrived.mk · false)).filter Arrived.isAnswer = [] := by
    simp [List.filter_map, Function.comp_def]
  have hclean : ∀ line ∈ arrived.map Arrived.line, Line.isIn line = false := by
    intro line hl
    rcases List.mem_map.1 hl with ⟨a, ha, rfl⟩
    exact h.clean a ha
  refine ⟨arrived ++ (Line.split t.unread).1.map (Arrived.mk · false), ?_, ?_, ?_⟩
  · rw [h.delivered, Line.split_wire_append hclean, List.map_append, List.map_map]
    exact congrArg (arrived.map Arrived.line ++ ·) (List.map_id _)
  · rw [h.kept, List.filter_append, hplain, List.map_append, List.map_map]
    rfl
  · rw [List.filter_append, hmark, List.append_nil]
    exact h.answers

/-- A completed collection brings bytes and is a step of the run. -/
theorem History.collect_lines (h : History handed bytes t)
    {synchronize required queued : Bool} {limit : Nat}
    (hlines : t.collectLines synchronize required queued false limit = (outcome, u))
    (hc : outcome.Completed) :
    ∃ more, History handed (bytes ++ more)
      (u.queue (outcome.given.filterMap Received.message)) := by
  rcases h.accounts with ⟨arrived, ha⟩
  rcases ends_of_collectLines ha.sound hlines with hend | ⟨lines, hends, htake, htokens⟩
  · rcases hend with rfl | ⟨f, rfl⟩ <;> exact absurd hc (by simp [Outcome.Completed])
  · rcases htake.exists_bytes with ⟨more, hmore⟩
    exact ⟨more, .collection h hlines hc hmore⟩

theorem queue_nil (t : Transport) : t.queue [] = t := by
  unfold queue
  rw [List.append_nil]

/-- A call for all messages is a collection, behind which everything goes out. -/
theorem history_collect (h : History handed bytes t) (synchronize required : Bool) (limit : Nat)
    (hc : (t.collect synchronize required limit).1.Completed) :
    ∃ more, History (handed ++ (t.collect synchronize required limit).1.given) (bytes ++ more)
      (t.collect synchronize required limit).2 := by
  unfold collect at hc ⊢
  dsimp only at hc ⊢
  cases hlines : t.collectLines synchronize (required && !!t.inbox.isEmpty) (!t.inbox.isEmpty)
      false limit with
  | mk outcome u =>
      rw [hlines] at hc
      cases outcome with
      | ok lines =>
          rcases h.collect_lines hlines trivial with ⟨more, hmore⟩
          have hinbox : (u.queue (lines.filterMap Received.message)).inbox =
              (u.inbox ++ lines.filterMap Received.message) ++ [] := (List.append_nil _).symm
          have hout := hmore.handOut hinbox
          exact ⟨more, hout⟩
      | error e =>
          rcases h.collect_lines hlines hc with ⟨more, hmore⟩
          refine ⟨more, ?_⟩
          rw [Outcome.given, List.filterMap_nil, queue_nil] at hmore
          rw [Outcome.given, List.append_nil]
          exact hmore
      | abandoned => exact hc.elim

/-- A search is made of collections, in front of each of which everything goes
    out, until the message that the filter accepts goes out. -/
theorem history_getOne {σ : Type} (filter : σ → Message → Bool × σ) (synchronize : Bool)
    (limit : Nat) (state : σ) (t : Transport) :
    ∀ (seen handed : List Message) (bytes : List UInt8), History handed bytes t →
      (t.getOne filter synchronize limit state).1.Completed →
      ∃ front more,
        t.getOne (recording filter) synchronize limit (state, seen) =
          ((t.getOne filter synchronize limit state).1,
            ((t.getOne filter synchronize limit state).2.1, seen ++ front),
            (t.getOne filter synchronize limit state).2.2) ∧
        History (handed ++ front) (bytes ++ more)
          (t.getOne filter synchronize limit state).2.2 := by
  -- What was shown and handed out so far changes from one collection to the next,
  -- so it is not fixed before the induction.
  fun_induction getOne filter synchronize limit state t with
  | case1 state t m rest state' hf =>
      intro seen handed bytes h hc
      rcases firstAccepted_recording filter state seen t.inbox with ⟨front, hrecord, hinbox⟩
      rw [hf] at hrecord hinbox
      refine ⟨front, [], ?_, ?_⟩
      · exact getOne_of_some hrecord synchronize limit
      · rw [List.append_nil]
        exact h.handOut hinbox
  | case2 state t state' hf e u hlines =>
      intro seen handed bytes h hc
      rcases firstAccepted_recording filter state seen t.inbox with ⟨front, hrecord, hinbox⟩
      rw [hf] at hrecord hinbox
      rcases (h.handOut hinbox).collect_lines hlines hc with ⟨more, hmore⟩
      rw [Outcome.given, List.filterMap_nil, queue_nil] at hmore
      refine ⟨front, more, ?_, hmore⟩
      rw [getOne_of_none hrecord, hlines]
  | case3 state t state' hf u hlines =>
      intro seen handed bytes h hc
      exact hc.elim
  | case4 state t state' hf u hlines =>
      intro seen handed bytes h hc
      rcases firstAccepted_recording filter state seen t.inbox with ⟨front, hrecord, hinbox⟩
      rw [hf] at hrecord hinbox
      rcases (h.handOut hinbox).collect_lines hlines trivial with ⟨more, hmore⟩
      rw [Outcome.given, List.filterMap_nil, queue_nil] at hmore
      refine ⟨front, more, ?_, hmore⟩
      rw [getOne_of_none hrecord, hlines]
      rfl
  | case5 state t state' hf lines u hlines hl ih =>
      intro seen handed bytes h hc
      rcases firstAccepted_recording filter state seen t.inbox with ⟨front, hrecord, hinbox⟩
      rw [hf] at hrecord hinbox
      rcases (h.handOut hinbox).collect_lines hlines trivial with ⟨more, hmore⟩
      -- Nothing was left over, so the queue holds what was collected.
      have hempty := inbox_collectLines { t with inbox := [] } synchronize true false false limit
      rw [hlines] at hempty
      have hqueue : u.queue ((Outcome.ok lines).given.filterMap Received.message) =
          { u with inbox := lines.filterMap Received.message } := by
        unfold queue
        rw [hempty]
        rfl
      rw [hqueue] at hmore
      -- The search goes on with the batch, behind all that it has turned down.
      rcases ih (seen ++ front) (handed ++ front) (bytes ++ more) hmore hc with
        ⟨front', more', hrest, hend⟩
      refine ⟨front ++ front', more ++ more', ?_, ?_⟩
      · rw [getOne_of_none hrecord, hlines, ← List.append_assoc]
        exact (if_neg hl).trans hrest
      · rw [← List.append_assoc, ← List.append_assoc]
        exact hend

/-- A run of completed calls can be told in single steps. -/
theorem Calls.history (h : Calls handed t) : ∃ bytes, History handed bytes t := by
  induction h with
  | initial name settings clock => exact ⟨[], .initial name settings clock⟩
  | willDo h events ih =>
      rcases ih with ⟨bytes, hrun⟩
      exact ⟨bytes, hrun.willDo events⟩
  | waitUntil h moment ih =>
      rcases ih with ⟨bytes, hrun⟩
      exact ⟨bytes, hrun.waitUntil moment⟩
  | collect h synchronize required limit hc ih =>
      rcases ih with ⟨bytes, hrun⟩
      rcases history_collect hrun synchronize required limit hc with ⟨more, hmore⟩
      exact ⟨bytes ++ more, hmore⟩
  | @getOne handed t h σ filter synchronize limit state hc ih =>
      rcases ih with ⟨bytes, hrun⟩
      rcases history_getOne filter synchronize limit state t [] handed bytes hrun hc with
        ⟨front, more, hrecord, hmore⟩
      have hshown : t.shown filter synchronize limit state = front := by
        unfold shown
        rw [hrecord]
        rfl
      rw [hshown]
      exact ⟨bytes ++ more, hmore⟩

/-- Between completed calls every line is accounted for. The run can be told in
    single steps, and however it is told, the lines that the reads brought are
    the messages that went out, those that are left over, and those that are
    complete in the buffer, in this order, less one answer for each token. -/
theorem conserved_of_calls (h : Calls handed t) :
    (∃ bytes, History handed bytes t) ∧
      ∀ bytes, History handed bytes t → Conserved handed bytes t := by
  refine ⟨h.history, fun bytes hrun => ?_⟩
  rcases hrun.accounts with ⟨arrived, haccounts⟩
  exact haccounts.conserved

/-- A call for all messages leaves a line behind its answer, which the filter of
    a search turns down together with another one. The next search takes a
    batch, of which it leaves a message, and a line behind the answer. -/
theorem conserved_of_calls_three_calls :
    ∃ t : Transport,
      Calls [⟨[], none, "NOTICE", ["a", "one"]⟩, ⟨[], none, "NOTICE", ["a", "two"]⟩,
        ⟨[], none, "PRIVMSG", ["a", "three"]⟩, ⟨[], none, "NOTICE", ["a", "four"]⟩,
        ⟨[], none, "PRIVMSG", ["a", "five"]⟩] t ∧
      t.inbox = [⟨[], none, "NOTICE", ["a", "six"]⟩] ∧
      t.unread = Utf8.ofString "NOTICE a :seven\r\nTAIL" ∧
      ∃ bytes, Conserved [⟨[], none, "NOTICE", ["a", "one"]⟩, ⟨[], none, "NOTICE", ["a", "two"]⟩,
        ⟨[], none, "PRIVMSG", ["a", "three"]⟩, ⟨[], none, "NOTICE", ["a", "four"]⟩,
        ⟨[], none, "PRIVMSG", ["a", "five"]⟩] bytes t := by
  have hrun : ∃ t : Transport,
      Calls [⟨[], none, "NOTICE", ["a", "one"]⟩, ⟨[], none, "NOTICE", ["a", "two"]⟩,
        ⟨[], none, "PRIVMSG", ["a", "three"]⟩, ⟨[], none, "NOTICE", ["a", "four"]⟩,
        ⟨[], none, "PRIVMSG", ["a", "five"]⟩] t ∧
      t.inbox = [⟨[], none, "NOTICE", ["a", "six"]⟩] ∧
      t.unread = Utf8.ofString "NOTICE a :seven\r\nTAIL" := by
    have hstart := Calls.willDo (.initial "c" .initial fun _ => ⟨0, 0⟩)
      [.data [.literal (Utf8.ofString "NOTICE a :one\r\nPO")], .silence 50,
        .data [.literal (Utf8.ofString "NG "), .latestToken,
          .literal (Utf8.ofString "\r\nNOTICE a :two\r\nPRIVMSG a :th")],
        .data [.literal (Utf8.ofString "ree\r\nNOTICE a :four\r\n")],
        .data [.literal (Utf8.ofString "PRIVMSG a :five\r\nNOTICE a :six\r\nPONG "), .latestToken,
          .literal (Utf8.ofString "\r\nNOTICE a :seven\r\nTAIL")]]
    have hone := hstart.collect true false 10000 (by decide +kernel)
    have htwo := hone.getOne (fun _ m => (m.isCommand "PRIVMSG", ())) false 10000 ()
      (by decide +kernel)
    have hthree := htwo.getOne (fun _ m => (m.isCommand "PRIVMSG", ())) true 10000 ()
      (by decide +kernel)
    have hshown : ∀ {handed handed' : List Message} {t : Transport}, Calls handed t →
        handed = handed' → Calls handed' t := fun h he => he ▸ h
    exact ⟨_, hshown hthree (by decide +kernel), by decide +kernel, by decide +kernel⟩
  rcases hrun with ⟨t, hcalls, hinbox, hunread⟩
  have hconserved := conserved_of_calls hcalls
  rcases hconserved.1 with ⟨bytes, hbytes⟩
  exact ⟨t, hcalls, hinbox, hunread, bytes, hconserved.2 bytes hbytes⟩

end Transport

end IrcHarness
