import IrcHarness.Proofs.Transport.Attempts

/-!
# Collections That Take What Is There

A collection that waits for no answer sends nothing. When there is something to
give, messages left over by an earlier call or lines in the buffer, it makes no
read. Otherwise it reads until one read completes a line, however often it has to
try, and gives every line that is complete then. Which lines these are depends on
the reads, so they are named here by the buffer behind this read (`Fills`).

From there on a collection is the same as one that finds the bytes in the buffer
when it starts (`gather_of_fills`), and this one goes through the buffer line by
line (`gather_of_left`). It must not stop early, since what is left would look like
the reply to something that was sent later, and it must not go on, since the peer
may stay silent.

The one way to give nothing is to find the buffer empty and the peer silent in the
first read of the call, when nothing was required.

## Main definitions

* `Transport.Fills`: Attempts, up to the read that completes a line.
* `Transport.FirstFilled`: The buffer once it holds a line.
* `Transport.Silent`: A peer that sends nothing to a collection that has nothing.
* `Transport.Gives`: How a collection ends that takes some lines.
* `Transport.TakesWhatIsThere`: What an unsynchronized collection does.

## Theorems

* `gather_of_left`: A collection takes all lines in the buffer, without a read.
* `gather_of_fills`: Where the bytes come from makes no difference.
* `fills_of_gather`: A collection gives nothing only to a silent peer.
* `asks_isIn`: A collection that has something asks for lines in the buffer.
* `collect_of_gives`: The messages that are given are those in the lines.
* `collect_takes_what_is_there`: What an unsynchronized collection does.
-/

namespace IrcHarness

namespace Line

/-- Bytes with a line in them are not split into none. -/
theorem split_ne_nil {bytes : List UInt8} (h : isIn bytes = true) :
    (split bytes).1 ≠ [] := by
  intro hnil
  rcases wire_split bytes with ⟨hwire, hleft, -⟩
  rw [hnil] at hwire
  rw [hwire] at h
  exact Bool.false_ne_true (hleft.symm.trans h)

end Line

namespace Message

/-- Lines parse to one list of messages. -/
theorem messages_of_parses {parts : List (List UInt8)} {messages messages' : List Message}
    (h : parts.map parseBytes = messages.map .ok)
    (h' : parts.map parseBytes = messages'.map .ok) : messages = messages' :=
  List.map_injective_iff.2 (fun _ _ heq => Except.ok.inj heq) (h.symm.trans h')

/-- Lines that are messages are none of those that are not. -/
theorem not_error_of_parses {parts : List (List UInt8)} {messages : List Message}
    (h : parts.map parseBytes = messages.map .ok) {line : List UInt8} (hmem : line ∈ parts)
    (cause : ParseError) : parseBytes line ≠ .error cause := by
  have hparsed : parseBytes line ∈ messages.map .ok := by
    rw [← h]
    exact List.mem_map_of_mem hmem
  rcases List.mem_map.1 hparsed with ⟨m, -, hm⟩
  rw [← hm]
  exact fun herror => by cases herror

/-- A buffer that holds a line holds a message, if its lines are messages. -/
theorem ne_nil_of_isIn {bytes : List UInt8} {messages : List Message}
    (hin : Line.isIn bytes = true)
    (hmessages : (Line.split bytes).1.map parseBytes = messages.map .ok) :
    messages ≠ [] := by
  rintro rfl
  exact Line.split_ne_nil hin (List.map_eq_nil_iff.1 hmessages)

end Message

namespace Transport

open Framing (Attempt)

/-- Attempts to read a line, of which the last one completes one. The others end
    with silence, and the collection has a reason and the time to go on. The bytes
    in the buffer come first, and then those behind the read that completes a
    line. -/
inductive Fills (tokens : List String) (timeout limit : Nat) (required : Bool) :
    List UInt8 → Peer → List UInt8 → Peer → Prop where
  /-- The attempt completes a line. -/
  | completed {bytes front bs : List UInt8} {b : UInt8} {p q : Peer}
      (h : Attempt tokens (min (p.now + timeout) limit) bytes p front (.bytes (b :: bs)) q) :
      Fills tokens timeout limit required bytes p (front ++ b :: bs) q
  /-- The attempt is in vain, and there is another one. -/
  | retried {bytes front filled : List UInt8} {p q w : Peer}
      (h : Attempt tokens (min (p.now + timeout) limit) bytes p front .timedOut q)
      (hpatient : ¬limit < p.now + timeout) (hsome : required = true ∨ front ≠ [])
      (htime : p.now < limit)
      (hrest : Fills tokens timeout limit required front (q.waitUntil (p.now + 1)) filled w) :
      Fills tokens timeout limit required bytes p filled w

/-- The bytes in the buffer and the peer once a line is complete: at once, or behind
    the first read that completes one. -/
def FirstFilled (t : Transport) (required : Bool) (limit : Nat) (bytes : List UInt8)
    (p : Peer) : Prop :=
  if Line.isIn t.unread then bytes = t.unread ∧ p = t.peer
  else Fills t.tokens t.readTimeout limit required t.unread t.peer bytes p

/-- Nothing is required, the buffer is empty, and the first read brings nothing
    until its deadline, before the caller loses patience. -/
def Silent (t : Transport) (required : Bool) (limit : Nat) : Prop :=
  required = false ∧ t.unread = [] ∧ ¬limit < t.peer.now + t.readTimeout ∧
    (t.peer.read t.tokens (min (t.peer.now + t.readTimeout) limit)).1 = .timedOut

/-- How a collection ends that takes these lines behind those it has, and leaves
    these bytes and this peer. -/
inductive Gives (parts : List (List UInt8)) (left : List UInt8) (p : Peer)
    (taken : List Received) : Outcome (List Received) × Transport → Prop where
  /-- All of them are messages. -/
  | all {more : List Received} {u : Transport}
      (hparts : parts.map Message.parseBytes = (more.filterMap Received.message).map .ok)
      (hleft : u.unread = left) (hpeer : u.peer = p) :
      Gives parts left p taken (.ok (taken ++ more), u)
  /-- One of them is no message. -/
  | failed {part : List UInt8} {cause : ParseError} {e : TransportError} {u : Transport}
      (hmem : part ∈ parts) (hparse : Message.parseBytes part = .error cause) (hpeer : u.peer = p) :
      Gives parts left p taken (.error e, u)

section Gather

variable {r : Request} {taken lines : List Received} {t u : Transport}

theorem not_complete_of_isIn (h : Line.isIn t.unread = true) :
    ¬r.isComplete taken t.unread = true := by
  simp [Request.isComplete, h]

theorem not_complete_of_nil (hqueued : r.queued = false) :
    ¬r.isComplete [] t.unread = true := by
  simp [Request.isComplete, hqueued]

/-- A collection without a token has enough when it has something and no line is
    left. -/
theorem complete_of_some (htoken : r.token = none) (hsome : r.queued = true ∨ taken ≠ [])
    (h : Line.isIn t.unread = false) : r.isComplete taken t.unread = true := by
  have hany : (r.queued || !taken.isEmpty) = true := by
    rcases hsome with hqueued | htaken
    · rw [hqueued, Bool.true_or]
    · rw [List.isEmpty_eq_false_iff.2 htaken, Bool.not_false, Bool.or_true]
  rw [Request.isComplete, htoken, hany, h]
  rfl

theorem isIn_of_cut {line rest : List UInt8} (hcut : Line.cut t.unread = some (line, rest)) :
    Line.isIn t.unread = true := by
  rw [Line.isIn_iff, hcut, Option.isSome_some]

/-- The first line in the buffer is given without a read, and the bytes behind it
    stay. -/
theorem receive_of_cut (hs : t.framing.Sound) {line rest : List UInt8}
    (hcut : Line.cut t.unread = some (line, rest)) (deadline : Nat) :
    ∃ u, t.receive deadline = (.line line, u) ∧ u.framing.Sound ∧ u.unread = rest ∧
      u.peer = t.peer := by
  have hin := isIn_of_cut hcut
  rcases LineBuffer.pop_of_isIn hs.searched hin with ⟨line', buffer, hpop⟩
  rcases LineBuffer.bytes_of_pop_some hs.searched hpop with ⟨hbytes, hline, -⟩
  -- What is taken off is what is cut off, since a line holds no ending.
  have hsame : line' = line ∧ buffer.bytes = rest := by
    have hcut' := Line.cut_append_ending hline buffer.bytes
    rw [← hbytes] at hcut'
    rw [unread, hcut', Option.some.injEq, Prod.mk.injEq] at hcut
    exact hcut
  have hreceive : t.receive deadline =
      (.line line, { t with framing := { t.framing with buffer } }) := by
    rw [receive, Framing.next_of_pop hs (hs.readable_of_isIn hin) hpop, hsame.1]
  exact ⟨_, hreceive, (sound_of_receive hs hreceive rfl).1, hsame.2, rfl⟩

/-- One more message in front. -/
theorem Gives.cons {parts : List (List UInt8)} {left : List UInt8} {p : Peer} {received : Received}
    {result : Outcome (List Received) × Transport}
    (h : Gives parts left p (taken ++ [received]) result) {part : List UInt8} {m : Message}
    (hparse : Message.parseBytes part = .ok m) (hmessage : received.message = some m) :
    Gives (part :: parts) left p taken result := by
  cases h with
  | @all more u hparts hleft hpeer =>
      rw [List.append_assoc, List.singleton_append]
      refine .all ?_ hleft hpeer
      rw [List.map_cons, hparse, hparts, List.filterMap_cons_some hmessage, List.map_cons]
  | failed hmem hparse hpeer => exact .failed (List.mem_cons_of_mem part hmem) hparse hpeer

/-- A collection that has something, or that finds a line in the buffer, takes all
    lines in the buffer and makes no read. It fails if one of them is no message. -/
theorem gather_of_left (htoken : r.token = none) (hraw : r.raw = false) (hs : t.framing.Sound)
    (hsome : r.queued = true ∨ taken ≠ [] ∨ Line.isIn t.unread = true) :
    Gives (Line.split t.unread).1 (Line.split t.unread).2 t.peer taken (gather r taken t) := by
  -- The recursion is that of `split`. Behind the first line there is something to
  -- give, so the collection ends exactly when no line is left.
  generalize hbytes : t.unread = bytes at hsome ⊢
  fun_induction Line.split bytes generalizing taken t with
  | case1 bytes hcut =>
      have hin : Line.isIn bytes = false := (Line.isIn_eq_false_iff bytes).2 hcut
      rw [hin, or_iff_left Bool.false_ne_true] at hsome
      have hgives : Gives [] bytes t.peer taken (.ok (taken ++ []), t) := .all rfl hbytes rfl
      rw [List.append_nil] at hgives
      rw [← hbytes] at hin
      rw [gather, if_pos (complete_of_some htoken hsome hin)]
      exact hgives
  | case2 bytes line rest hcut ih =>
      rw [← hbytes] at hcut
      rcases receive_of_cut hs hcut (r.deadline t) with ⟨v, hreceive, hv, hrest, hpeer⟩
      have hopen : ¬r.isComplete taken t.unread = true := not_complete_of_isIn (isIn_of_cut hcut)
      rw [gather_of_receive hopen hreceive, ← hpeer]
      cases hparse : Message.parseBytes line with
      | error cause =>
          have hj : r.judge taken line =
              .fail (.parse (String.ofList (Utf8.decodeLossy line)) cause) := by
            simp [Request.judge, hparse, hraw]
          simp only [hj]
          exact .failed List.mem_cons_self hparse rfl
      | ok m =>
          have hj : r.judge taken line =
              .keep ⟨String.ofList (Utf8.decodeLossy line), some m⟩ := by
            simp only [Request.judge, hparse, htoken]
          have hne : taken ++ [⟨String.ofList (Utf8.decodeLossy line), some m⟩] ≠ [] :=
            List.append_ne_nil_of_right_ne_nil _ (List.cons_ne_nil _ _)
          simp only [hj]
          exact (ih (t := v.noteLine "<-" (String.ofList (Utf8.decodeLossy line))) hv hrest
            (.inr (.inl hne))).cons hparse rfl

/-- Behind the read that completes a line, a collection goes on as if the bytes had
    been in the buffer when it started. -/
theorem gather_of_fills (hqueued : r.queued = false) (htoken : r.token = none) {bytes : List UInt8}
    {p : Peer} (h : Fills t.tokens t.readTimeout r.limit r.required t.unread t.peer bytes p)
    (hs : t.framing.Sound) (hin : Line.isIn t.unread = false) :
    ∃ u, u.framing.Sound ∧ u.unread = bytes ∧ u.peer = p ∧ Line.isIn bytes = true ∧
      gather r [] t = gather r [] u := by
  generalize htokens : t.tokens = tokens at h
  generalize htimeout : t.readTimeout = timeout at h
  generalize hunread : t.unread = before at h hin
  generalize hpeer : t.peer = peer at h
  -- The induction is on the attempts. Each one but the last one leaves a transport
  -- that is like the first one, with more bytes in the buffer.
  induction h generalizing t with
  | @completed before front bs b q p h =>
      subst htokens htimeout hunread hpeer
      have hdeadline : Attempt t.tokens (r.deadline t) t.unread t.peer front
          (.bytes (b :: bs)) p := h
      rcases receive_of_completed hs hin hdeadline with ⟨line, g, v, hreceive, hg, hfront, hline⟩
      refine ⟨{ t with framing := g.filled (b :: bs), peer := p }, hg.filled (b :: bs),
        congrArg (· ++ b :: bs) hfront, rfl, h.isIn, ?_⟩
      -- Both take the same line and are in the same state behind it.
      rw [gather_of_receive (not_complete_of_nil hqueued) hreceive,
        gather_of_receive (not_complete_of_nil hqueued) (hline _)]
  | @retried before front filled q p w h hpatient hsome htime hrest ih =>
      subst htokens htimeout hunread hpeer
      have hdeadline : Attempt t.tokens (r.deadline t) t.unread t.peer front .timedOut p := h
      rcases receive_of_vain hs hin hdeadline with ⟨g, hg, hfront, hreceive⟩
      have hends : ¬r.endsInSilence { t with framing := g, peer := p }.unread = true := by
        rw [unread, hfront, Request.endsInSilence, htoken]
        rcases hsome with hrequired | hne
        · simp [hrequired]
        · simp [hne]
      -- The next attempt starts with the bytes that this one has read.
      have hagree : Agree t (({ t with framing := g, peer := p }.note .trace
          "waiting").waitUntil (t.peer.now + 1)) :=
        ⟨rfl, rfl, rfl, rfl, rfl, rfl⟩
      have htimeout := congrArg (fun s => s.readTimeoutMs.toNat) hagree.settings
      rcases ih hg hagree.tokens htimeout hfront (h.not_isIn hin) rfl with
        ⟨u, hu, hbytes, hpeer, hline, hgather⟩
      refine ⟨u, hu, hbytes, hpeer, hline, ?_⟩
      rw [gather_of_receive (not_complete_of_nil hqueued) hreceive, ← hgather]
      simp only [if_neg hpatient, if_neg hends, if_pos htime]

/-- A collection that finds no line gives something only behind a read that
    completes a line, and gives nothing only when the peer is silent. -/
theorem fills_of_gather (htoken : r.token = none) (hqueued : r.queued = false)
    (hs : t.framing.Sound) (hin : Line.isIn t.unread = false)
    (h : gather r taken t = (.ok lines, u)) (htaken : taken = []) :
    (∃ bytes p, Fills t.tokens t.readTimeout r.limit r.required t.unread t.peer bytes p) ∨
      lines = [] ∧ u.unread = [] ∧ t.Silent r.required r.limit := by
  fun_induction gather r taken t with
  | case1 taken t hc =>
      subst htaken
      exact absurd hc (not_complete_of_nil hqueued)
  | case2 taken t hc line t' hr _ received hj ih =>
      rcases attempt_of_line hs hin hr with ⟨front, b, bs, p, hattempt⟩
      exact .inl ⟨_, _, .completed hattempt⟩
  | case3 taken t hc line t' hr _ hj =>
      rcases attempt_of_line hs hin hr with ⟨front, b, bs, p, hattempt⟩
      exact .inl ⟨_, _, .completed hattempt⟩
  | case4 => cases h
  | case5 => cases h
  | case6 => cases h
  | case7 => cases h
  | case8 => cases h
  | case9 taken t hc t' hr hl he =>
      have hattempt := attempt_of_timedOut hs hin hr
      rw [Prod.mk.injEq, Outcome.ok.injEq] at h
      rcases h with ⟨rfl, rfl⟩
      simp only [Request.endsInSilence, htoken, Option.isNone_none, Bool.true_and, Bool.and_eq_true,
        Bool.not_eq_true', List.isEmpty_iff] at he
      rcases hattempt.read_of_nil he.2 with ⟨hunread, hread⟩
      exact .inr ⟨htaken, he.2, he.1, hunread, hl, congrArg Prod.fst hread⟩
  | case10 taken t hc t' hr hl he ht ih =>
      have hattempt := attempt_of_timedOut hs hin hr
      have hagree := (agree_of_receive hr).trans (agree_wait t' (t.peer.now + 1))
      have hsome : r.required = true ∨ t'.unread ≠ [] := by
        by_contra hnone
        rw [not_or, Bool.not_eq_true, not_not] at hnone
        simp [Request.endsInSilence, htoken, hnone.1, hnone.2] at he
      rcases ih (sound_of_receive hs hr rfl).1 (hattempt.not_isIn hin) h htaken with
        ⟨bytes, p, hfills⟩ | ⟨-, -, hsilent⟩
      · rw [hagree.tokens, readTimeout, hagree.settings] at hfills
        exact .inl ⟨bytes, p, .retried hattempt hl hsome ht hfills⟩
      · -- The collection would have ended with this attempt.
        rcases hsome with hrequired | hne
        · exact absurd (hsilent.1.symm.trans hrequired) Bool.false_ne_true
        · exact absurd hsilent.2.1 hne
  | case11 => cases h

/-- A silent peer ends a collection that does not require anything. -/
theorem gather_of_silent (htoken : r.token = none) (hqueued : r.queued = false)
    (hs : t.framing.Sound) (h : t.Silent r.required r.limit) :
    ∃ u, gather r [] t = (.ok [], u) := by
  rcases h with ⟨hrequired, hempty, hpatient, hread⟩
  have hin : Line.isIn t.unread = false := by rw [hempty]; rfl
  have hattempt : Attempt t.tokens (r.deadline t) t.unread t.peer t.unread .timedOut
      (t.peer.read t.tokens (r.deadline t)).2 :=
    .last (Prod.ext hread rfl) fun b bs hbytes => Reading.noConfusion hbytes
  rcases receive_of_vain hs hin hattempt with ⟨g, -, hfront, hreceive⟩
  have hends : r.endsInSilence g.buffer.bytes = true := by
    rw [hfront, Request.endsInSilence, htoken, hrequired, hempty]
    rfl
  rw [gather_of_receive (not_complete_of_nil hqueued) hreceive]
  simp only [if_neg hpatient]
  exact ⟨_, if_pos hends⟩

/-- A collection that has something asks for lines that are in the buffer. -/
theorem asks_isIn {moment : Nat} (htoken : r.token = none) (h : r.Asks taken t u moment)
    (hs : t.framing.Sound)
    (hsome : r.queued = true ∨ taken ≠ [] ∨ Line.isIn t.unread = true) :
    u.framing.Sound ∧ Line.isIn u.unread = true := by
  -- A collection that has something is open only as long as a line is left.
  have hopened : ∀ {taken : List Received} {t : Transport},
      ¬r.isComplete taken t.unread = true →
      (r.queued = true ∨ taken ≠ [] ∨ Line.isIn t.unread = true) → Line.isIn t.unread = true := by
    intro taken t hopen hsome
    by_contra hin
    rw [← or_assoc, or_iff_left hin] at hsome
    exact hopen (complete_of_some htoken hsome (Bool.eq_false_iff.2 hin))
  induction h with
  | first hopen => exact ⟨hs, hopened hopen hsome⟩
  | kept hopen hline hj h ih =>
      exact ih (sound_of_receive hs hline rfl).1
        (.inr (.inl (List.append_ne_nil_of_right_ne_nil _ (List.cons_ne_nil _ _))))
  | waited hopen hsilent hpatient hends htime h ih =>
      -- A line in the buffer is given at once.
      rcases receive_of_isIn hs (hopened hopen hsome) (r.deadline _) with ⟨line, v, hline, -⟩
      rw [hsilent] at hline
      cases hline

/-- A collection that finds the inbox empty gives the lines in the buffer once it
    holds one. -/
theorem gather_of_firstFilled (htoken : r.token = none) (hraw : r.raw = false)
    (hqueued : r.queued = false) (hs : t.framing.Sound) {bytes : List UInt8} {p : Peer}
    (h : t.FirstFilled r.required r.limit bytes p) :
    Line.isIn bytes = true ∧
      Gives (Line.split bytes).1 (Line.split bytes).2 p [] (gather r [] t) := by
  unfold FirstFilled at h
  by_cases hin : Line.isIn t.unread = true
  · rw [if_pos hin] at h
    rcases h with ⟨rfl, rfl⟩
    exact ⟨hin, gather_of_left htoken hraw hs (.inr (.inr hin))⟩
  · rw [if_neg hin] at h
    rcases gather_of_fills hqueued htoken h hs (Bool.eq_false_iff.2 hin) with
      ⟨v, hv, rfl, rfl, hline, hgather⟩
    rw [hgather]
    exact ⟨hline, gather_of_left htoken hraw hv (.inr (.inr hline))⟩

/-- A collection that gives something has found the buffer filled, or the peer was
    silent. -/
theorem firstFilled_or_silent (htoken : r.token = none) (hqueued : r.queued = false)
    (hs : t.framing.Sound) (h : gather r [] t = (.ok lines, u)) :
    (∃ bytes p, t.FirstFilled r.required r.limit bytes p) ∨
      lines = [] ∧ u.unread = [] ∧ t.Silent r.required r.limit := by
  by_cases hin : Line.isIn t.unread = true
  · refine .inl ⟨t.unread, t.peer, ?_⟩
    rw [FirstFilled, if_pos hin]
    exact ⟨rfl, rfl⟩
  · rcases fills_of_gather htoken hqueued hs (Bool.eq_false_iff.2 hin) h rfl with
      ⟨bytes, p, hfills⟩ | hsilent
    · refine .inl ⟨bytes, p, ?_⟩
      rw [FirstFilled, if_neg hin]
      exact hfills
    · exact .inr hsilent

end Gather

section Collect

variable {t u : Transport} {required : Bool} {limit : Nat}

/-- What a collection that waits for no answer asks for. -/
def plainRequest (t : Transport) (required : Bool) (limit : Nat) : Request :=
  ⟨none, required && t.inbox.isEmpty, !t.inbox.isEmpty, false, limit⟩

theorem plainRequest_of_nil (hinbox : t.inbox = []) :
    t.plainRequest required limit = ⟨none, required, false, false, limit⟩ := by
  rw [plainRequest, hinbox, List.isEmpty_nil, Bool.and_true, Bool.not_true]

/-- Such a collection puts the messages that were left over in front of the lines
    that it takes. -/
theorem collect_eq_gather (t : Transport) (required : Bool) (limit : Nat) :
    t.collect false required limit =
      match gather (t.plainRequest required limit) [] t with
      | (.ok lines, u) =>
        (.ok (t.inbox ++ lines.filterMap Received.message), { u with inbox := [] })
      | (.error e, u) => (.error e, u)
      | (.abandoned, u) => (.abandoned, u) := by
  have hlines : t.collectLines false (required && !!t.inbox.isEmpty) (!t.inbox.isEmpty) false
      limit = gather (t.plainRequest required limit) [] t := by
    rw [Bool.not_not]
    rfl
  have hinbox := (agree_gather (t.plainRequest required limit) [] t).inbox
  simp only [collect, hlines]
  cases hgather : gather (t.plainRequest required limit) [] t with
  | mk outcome u =>
      rw [hgather] at hinbox
      cases outcome with
      | ok lines =>
          have hkept : u.inbox = t.inbox := hinbox
          simp only [hkept]
      | error e => rfl
      | abandoned => rfl

/-- What an unsynchronized collection does, in a state that was reached without a
    failed read. -/
structure TakesWhatIsThere (t : Transport) (required : Bool) (limit : Nat) : Prop where
  /-- It sends nothing. -/
  quiet : (t.collect false required limit).2.outgoing = t.outgoing
  /-- If it succeeds, no line is left in the buffer. -/
  drained : ∀ messages u, t.collect false required limit = (.ok messages, u) →
    Line.isIn u.unread = false
  /-- With something to give it makes no read, and it takes no time. -/
  still : t.inbox ≠ [] ∨ Line.isIn t.unread = true →
    (∀ reading, ¬Requests.Meet ((Operation.collect false required limit).Asks t) reading) ∧
      (t.collect false required limit).2.peer = t.peer
  /-- Behind the messages that were left over it gives those in the buffer. -/
  behind : t.inbox ≠ [] → ∀ messages, (Line.split t.unread).1.map Message.parseBytes =
      messages.map .ok →
    ∃ u, t.collect false required limit = (.ok (t.inbox ++ messages), u) ∧
      u.unread = (Line.split t.unread).2
  /-- Without those it gives the messages in the buffer once a line is complete. -/
  filled : t.inbox = [] → ∀ bytes p, t.FirstFilled required limit bytes p →
    ∀ messages, (Line.split bytes).1.map Message.parseBytes = messages.map .ok →
    messages ≠ [] ∧ ∃ u, t.collect false required limit = (.ok messages, u) ∧
      u.unread = (Line.split bytes).2 ∧ u.peer = p
  /-- It gives something only when a line gets complete. -/
  first : t.inbox = [] → ∀ messages u, t.collect false required limit = (.ok messages, u) →
    messages ≠ [] → ∃ bytes p, t.FirstFilled required limit bytes p ∧
      (Line.split bytes).1.map Message.parseBytes = messages.map .ok ∧
      u.unread = (Line.split bytes).2 ∧ u.peer = p
  /-- It gives nothing only to a peer that is silent while the buffer is empty, and
      when nothing is required. -/
  silent : t.inbox = [] →
    ((t.collect false required limit).1 = .ok [] ↔ t.Silent required limit)

/-- The messages that a collection gives are those in the lines that it takes. -/
theorem collect_of_gives {parts : List (List UInt8)} {left : List UInt8} {p : Peer}
    (h : Gives parts left p [] (gather (t.plainRequest required limit) [] t)) :
    (t.collect false required limit).2.peer = p ∧
      (∀ messages, parts.map Message.parseBytes = messages.map .ok →
        ∃ u, t.collect false required limit = (.ok (t.inbox ++ messages), u)) ∧
      ∀ given u, t.collect false required limit = (.ok given, u) →
        ∃ messages, given = t.inbox ++ messages ∧
          parts.map Message.parseBytes = messages.map .ok ∧ u.unread = left := by
  rw [collect_eq_gather]
  generalize gather (t.plainRequest required limit) [] t = result at h
  cases h with
  | @all more v hparts hleft hpeer =>
      refine ⟨hpeer, fun messages hmessages => ⟨{ v with inbox := [] }, ?_⟩,
        fun given u hgiven => ?_⟩
      · rw [Message.messages_of_parses hmessages hparts]
        rfl
      · cases hgiven
        exact ⟨_, rfl, hparts, hleft⟩
  | failed hmem hparse hpeer =>
      refine ⟨hpeer, fun messages hmessages => ?_, fun given u hgiven => by cases hgiven⟩
      exact absurd hparse (Message.not_error_of_parses hmessages hmem _)

/-- A collection that finds the inbox empty gives something behind the read that
    completes a line, or gives nothing to a silent peer. -/
theorem firstFilled_of_collect (hs : t.framing.Sound) (hinbox : t.inbox = [])
    {messages : List Message} (h : t.collect false required limit = (.ok messages, u)) :
    (∃ bytes p, t.FirstFilled required limit bytes p) ∨
      messages = [] ∧ u.unread = [] ∧ t.Silent required limit := by
  rw [collect_eq_gather, plainRequest_of_nil hinbox] at h
  cases hgather : gather ⟨none, required, false, false, limit⟩ [] t with
  | mk outcome v =>
      rw [hgather] at h
      cases outcome with
      | error e => cases h
      | abandoned => cases h
      | ok lines =>
          cases h
          rcases firstFilled_or_silent rfl rfl hs hgather with hfilled | ⟨rfl, hunread, hsilent⟩
          · exact .inl hfilled
          · exact .inr ⟨by rw [hinbox]; rfl, hunread, hsilent⟩

/-- With something to give, a collection takes the lines in the buffer and makes no
    read. -/
theorem gather_of_something (hs : t.framing.Sound)
    (hsome : t.inbox ≠ [] ∨ Line.isIn t.unread = true) (required : Bool) (limit : Nat) :
    Gives (Line.split t.unread).1 (Line.split t.unread).2 t.peer []
        (gather (t.plainRequest required limit) [] t) ∧
      ∀ reading, ¬Requests.Meet ((Operation.collect false required limit).Asks t) reading := by
  have hhas : (t.plainRequest required limit).queued = true ∨ ([] : List Received) ≠ [] ∨
      Line.isIn t.unread = true := by
    rcases hsome with hinbox | hin
    · refine .inl ?_
      rw [plainRequest, List.isEmpty_eq_false_iff.2 hinbox, Bool.not_false]
    · exact .inr (.inr hin)
  refine ⟨gather_of_left rfl rfl hs hhas, ?_⟩
  rintro reading ⟨u, moment, hasks, hmeets⟩
  have hasked : (t.plainRequest required limit).Asks [] t u moment := hasks
  rcases asks_isIn rfl hasked hs hhas with ⟨hu, hin⟩
  exact hu.not_meets hin reading hmeets

/-- With nothing to give, it takes the lines in the buffer once it holds one. -/
theorem gather_of_nothing (hs : t.framing.Sound) (hinbox : t.inbox = []) {bytes : List UInt8}
    {p : Peer} (h : t.FirstFilled required limit bytes p) :
    Line.isIn bytes = true ∧ Gives (Line.split bytes).1 (Line.split bytes).2 p []
      (gather (t.plainRequest required limit) [] t) := by
  rw [plainRequest_of_nil hinbox]
  exact gather_of_firstFilled rfl rfl rfl hs h

/-- Without a `PING` there is nothing to write. -/
theorem outgoing_collect (t : Transport) (required : Bool) (limit : Nat) :
    (t.collect false required limit).2.outgoing = t.outgoing := by
  have hkept := (agree_gather (t.plainRequest required limit) [] t).outgoing
  rw [collect_eq_gather]
  split <;> next hgather =>
    rw [hgather] at hkept
    exact hkept

/-- A collection that succeeds leaves no line in the buffer. -/
theorem not_isIn_of_collect (hs : t.framing.Sound) {messages : List Message}
    (h : t.collect false required limit = (.ok messages, u)) : Line.isIn u.unread = false := by
  have hsplit : ∀ bytes p, Gives (Line.split bytes).1 (Line.split bytes).2 p []
      (gather (t.plainRequest required limit) [] t) → Line.isIn u.unread = false := by
    intro bytes p hgives
    rcases (collect_of_gives hgives).2.2 messages u h with ⟨-, -, -, hunread⟩
    rw [hunread]
    exact (Line.wire_split bytes).2.1
  by_cases hinbox : t.inbox = []
  · rcases firstFilled_of_collect hs hinbox h with ⟨bytes, p, hfirst⟩ | ⟨-, hunread, -⟩
    · exact hsplit bytes p (gather_of_nothing hs hinbox hfirst).2
    · rw [hunread]
      rfl
  · exact hsplit t.unread t.peer (gather_of_something hs (.inl hinbox) required limit).1

/-- A collection that gives something has found the buffer filled. -/
theorem filled_of_collect (hs : t.framing.Sound) (hinbox : t.inbox = []) {messages : List Message}
    (h : t.collect false required limit = (.ok messages, u)) (hne : messages ≠ []) :
    ∃ bytes p, t.FirstFilled required limit bytes p ∧
      (Line.split bytes).1.map Message.parseBytes = messages.map .ok ∧
      u.unread = (Line.split bytes).2 ∧ u.peer = p := by
  rcases firstFilled_of_collect hs hinbox h with ⟨bytes, p, hfirst⟩ | ⟨hnil, -, -⟩
  · rcases collect_of_gives (gather_of_nothing hs hinbox hfirst).2 with ⟨hpeer, -, hleft⟩
    rcases hleft messages u h with ⟨given, hgiven, hparses, hunread⟩
    rw [hinbox, List.nil_append] at hgiven
    rw [h] at hpeer
    exact ⟨bytes, p, hfirst, hgiven ▸ hparses, hunread, hpeer⟩
  · exact absurd hnil hne

/-- A collection gives nothing only to a silent peer. -/
theorem silent_of_collect (hs : t.framing.Sound) (hinbox : t.inbox = [])
    (h : t.collect false required limit = (.ok [], u)) : t.Silent required limit := by
  rcases firstFilled_of_collect hs hinbox h with ⟨bytes, p, hfirst⟩ | ⟨-, -, hsilent⟩
  · rcases gather_of_nothing hs hinbox hfirst with ⟨hin, hgives⟩
    rcases (collect_of_gives hgives).2.2 [] u h with ⟨given, hgiven, hparses, -⟩
    rw [hinbox, List.nil_append] at hgiven
    exact absurd hgiven.symm (Message.ne_nil_of_isIn hin hparses)
  · exact hsilent

theorem collect_of_silent (hs : t.framing.Sound) (hinbox : t.inbox = [])
    (h : t.Silent required limit) : (t.collect false required limit).1 = .ok [] := by
  rcases gather_of_silent (r := ⟨none, required, false, false, limit⟩) rfl rfl hs h with
    ⟨u, hgather⟩
  rw [collect_eq_gather, plainRequest_of_nil hinbox, hgather, hinbox]
  rfl

/-- An unsynchronized collection sends nothing. With something to give it makes no
    read. Otherwise it gives all lines that are complete behind the first read that
    completes one, and it gives none only to a silent peer. -/
theorem collect_takes_what_is_there (h : t.Undisturbed) (required : Bool) (limit : Nat) :
    t.TakesWhatIsThere required limit where
  quiet := outgoing_collect t required limit
  drained := fun messages u hcollect => not_isIn_of_collect h.sound hcollect
  still := by
    intro hsome
    rcases gather_of_something h.sound hsome required limit with ⟨hgives, hunasked⟩
    exact ⟨hunasked, (collect_of_gives hgives).1⟩
  behind := by
    intro hinbox messages hmessages
    have hgives := (gather_of_something h.sound (.inl hinbox) required limit).1
    rcases collect_of_gives hgives with ⟨-, hall, hleft⟩
    rcases hall messages hmessages with ⟨u, hcollect⟩
    rcases hleft _ u hcollect with ⟨-, -, -, hunread⟩
    exact ⟨u, hcollect, hunread⟩
  filled := by
    intro hinbox bytes p hfirst messages hmessages
    rcases gather_of_nothing h.sound hinbox hfirst with ⟨hin, hgives⟩
    rcases collect_of_gives hgives with ⟨hpeer, hall, hleft⟩
    rcases hall messages hmessages with ⟨u, hcollect⟩
    rcases hleft _ u hcollect with ⟨-, -, -, hunread⟩
    rw [hcollect] at hpeer
    rw [hinbox] at hcollect
    exact ⟨Message.ne_nil_of_isIn hin hmessages, u, hcollect, hunread, hpeer⟩
  first := fun hinbox messages u => filled_of_collect h.sound hinbox
  silent := by
    intro hinbox
    refine ⟨fun hnone => ?_, collect_of_silent h.sound hinbox⟩
    exact silent_of_collect h.sound hinbox (Prod.ext hnone rfl)

/-- A line comes in two reads with a timeout between them, and the second read brings
    another line and a part of the next one. The rest of it is there already, but it
    is not read. -/
theorem collect_takes_what_is_there_cut :
    ∃ u, Transport.collect
        { Transport.initial "c" .initial fun _ => ⟨0, 0⟩ with
          peer := Peer.idle.willDo
            [.data [.literal (Utf8.ofString "A\r")], .silence 1500,
              .data [.literal (Utf8.ofString "\nB\r\nC")],
              .data [.literal (Utf8.ofString "D\r\n")]] }
        false false 10000 = (.ok [⟨[], none, "A", []⟩, ⟨[], none, "B", []⟩], u) ∧
      u.unread = Utf8.ofString "C" ∧
      u.peer = ⟨[.data [.literal (Utf8.ofString "D\r\n")]], 1500, false⟩ := by
  have hundisturbed := Undisturbed.willDo (.initial "c" .initial fun _ => ⟨0, 0⟩)
    [.data [.literal (Utf8.ofString "A\r")], .silence 1500,
      .data [.literal (Utf8.ofString "\nB\r\nC")], .data [.literal (Utf8.ofString "D\r\n")]]
  -- A return is 13, and a line feed is 10.
  have hvain : Attempt [] 1000 []
      ⟨[.data [.literal (Utf8.ofString "A\r")], .silence 1500,
        .data [.literal (Utf8.ofString "\nB\r\nC")],
        .data [.literal (Utf8.ofString "D\r\n")]], 0, false⟩ [65, 13] .timedOut
      ⟨[.silence 500, .data [.literal (Utf8.ofString "\nB\r\nC")],
        .data [.literal (Utf8.ofString "D\r\n")]], 1000, false⟩ :=
    .more rfl (by decide) (.last rfl fun _ _ h => by cases h)
  have hcompleted : Attempt [] (min (1000 + 1000) 10000) [65, 13]
      ⟨[.silence 500, .data [.literal (Utf8.ofString "\nB\r\nC")],
        .data [.literal (Utf8.ofString "D\r\n")]], 1000, false⟩ [65, 13]
      (.bytes [10, 66, 13, 10, 67])
      ⟨[.data [.literal (Utf8.ofString "D\r\n")]], 1500, false⟩ :=
    .last rfl fun _ _ h => by cases h; decide
  have hfills : Fills [] 1000 10000 false []
      ⟨[.data [.literal (Utf8.ofString "A\r")], .silence 1500,
        .data [.literal (Utf8.ofString "\nB\r\nC")],
        .data [.literal (Utf8.ofString "D\r\n")]], 0, false⟩ ([65, 13] ++ [10, 66, 13, 10, 67])
      ⟨[.data [.literal (Utf8.ofString "D\r\n")]], 1500, false⟩ :=
    .retried hvain (by decide) (.inr (by decide)) (by decide) (.completed hcompleted)
  have hsplit : Line.split ([65, 13] ++ [10, 66, 13, 10, 67]) =
      ([[65], [66]], Utf8.ofString "C") := by cbv
  have hfilled := (collect_takes_what_is_there hundisturbed false 10000).filled rfl
    ([65, 13] ++ [10, 66, 13, 10, 67]) ⟨[.data [.literal (Utf8.ofString "D\r\n")]], 1500, false⟩
  rw [FirstFilled, if_neg (by decide)] at hfilled
  rcases hfilled hfills [⟨[], none, "A", []⟩, ⟨[], none, "B", []⟩] (by rw [hsplit]; cbv) with
    ⟨-, u, hcollect, hunread, hpeer⟩
  exact ⟨u, hcollect, by rw [hunread, hsplit], hpeer⟩

end Collect

end Transport

end IrcHarness
