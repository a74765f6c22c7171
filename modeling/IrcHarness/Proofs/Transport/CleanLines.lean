import IrcHarness.Proofs.Message.Acceptance
import IrcHarness.Proofs.Text.Encoding
import IrcHarness.Proofs.Transport.Closing
import IrcHarness.Proofs.Transport.Exactness
import IrcHarness.Proofs.Transport.Searching

/-!
# Lines That Become Messages

Lines end where a carriage return and a line feed stand together, and reading refuses
both of them and a NUL within a line. So a line that becomes a message should have none
of the three, and a line that has one should fail the call that meets it.

Reading takes off a line ending of its own, though, since it is also used for text that
has one, and a line feed alone counts as an ending there. The line of a stream has lost
its ending already. When it has a line feed in front of that ending and no such byte
anywhere else, the line feed is taken off as well, and what is left is read as if it had
come by itself. `Line.Trails` describes these lines, and they are all the exceptions
there are (`clean_or_trails`).

The rest follows the lines through the calls. A line that is no message fails the call
that takes it off the stream (`Operation.fails_of_garbage`), and a message that a call
gives was made of a line that this call or an earlier one has taken
(`Operation.stems_after`). A run says of its lines what `P` says, whatever that is, so
the messages that are left over between two calls stand for lines of the run.

## Main definitions

* `Line.Clean`: Bytes that may all stand within a line.
* `Line.Trails`: A clean message with one more ending behind it.
* `Operation.Receives`: A line that a call takes off the stream.
* `Operation.FailsOn`: A call fails with a line as one that is no message.
* `Operation.Gives`: A message that a call gives.
* `Message.Stems`: A message that some line was read as.

## Theorems

* `clean_or_trails`: What a line looks like that is a message.
* `trails_iff`: The messages among the lines that are not clean.
* `fails_of_garbage`: A line that is no message fails its call.
* `isIn_of_receives`: No ending stands within a line.
* `stems_after`, `Reached.stems`: Where messages come from.
* `clean_lines_iff`: When only clean lines become messages.
* `bare_lf_becomes_message`: A line with a line feed at its end is read.
-/

namespace IrcHarness

namespace Line

/-- Bytes that may all stand within a line: no carriage return, no line feed and no
    NUL. -/
def Clean (bytes : List UInt8) : Prop :=
  ∀ b ∈ bytes, b ≠ cr ∧ b ≠ lf ∧ b ≠ 0

/-- A line that holds a message and behind it one more ending, of which the carriage
    return may be missing. -/
def Trails (line : List UInt8) (m : Message) : Prop :=
  ∃ front, Clean front ∧ Message.parseBytes front = .ok m ∧
    (line = front ++ [lf] ∨ line = front ++ ending)

end Line

namespace Message

open Line (Clean Trails)

variable {line : List UInt8} {cs : List Char} {m : Message}

theorem parseBytes_encode (cs : List Char) :
    parseBytes (Utf8.encode cs) = parseBody (dropEnding cs) := by
  rw [parseBytes, Utf8.decode_encode]

theorem encode_append (a b : List Char) :
    Utf8.encode (a ++ b) = Utf8.encode a ++ Utf8.encode b :=
  List.flatMap_append

/-- The bytes of a text are clean exactly if its characters are legal. -/
theorem clean_encode_iff (cs : List Char) : Clean (Utf8.encode cs) ↔ Legal cs := by
  constructor
  · intro h c hc
    have hbyte : ∀ b, String.utf8EncodeChar c = [b] → b ≠ Line.cr ∧ b ≠ Line.lf ∧ b ≠ 0 := by
      intro b hb
      refine h b (List.mem_flatMap.2 ⟨c, hc, ?_⟩)
      rw [hb]
      exact List.mem_singleton.2 rfl
    refine ⟨?_, ?_, ?_⟩
    · rintro rfl
      exact (hbyte Line.cr (by decide)).1 rfl
    · rintro rfl
      exact (hbyte Line.lf (by decide)).2.1 rfl
    · rintro rfl
      exact (hbyte 0 (by decide)).2.2 rfl
  · intro h b hb
    -- Only an ASCII character has one of these bytes in its encoding.
    have hchar : ∀ d : Char, d.toNat < 0x80 → d.toNat = b.toNat → d ∈ cs := by
      intro d hd hdb
      rcases Utf8.exists_of_mem_encode (hdb ▸ hd) hb with ⟨c, hc, hcb⟩
      rw [← Char.toNat_inj.1 (hcb.trans hdb.symm)]
      exact hc
    refine ⟨?_, ?_, ?_⟩
    · rintro rfl
      exact (h '\r' (hchar '\r' (by decide) (by decide))).1 rfl
    · rintro rfl
      exact (h '\n' (hchar '\n' (by decide) (by decide))).2.1 rfl
    · rintro rfl
      exact (h '\x00' (hchar '\x00' (by decide) (by decide))).2.2 rfl

theorem dropEnding_of_legal (h : Legal cs) : dropEnding cs = cs :=
  dropEnding_of_bodyOf (.bare fun hlast => (h '\n' (List.mem_of_getLast? hlast)).2.1 rfl)

/-- A line that is a message is the encoding of a text, and its body is legal. -/
theorem exists_text_of_parseBytes (h : parseBytes line = .ok m) :
    ∃ text body, line = Utf8.encode text ∧ BodyOf text body ∧ Legal body ∧
      parseBytes (Utf8.encode body) = .ok m := by
  unfold parseBytes at h
  cases hd : Utf8.decode line with
  | error position => simp only [hd, reduceCtorEq] at h
  | ok text =>
      simp only [hd] at h
      have hlegal := ((parseBody_iff_accepts _ m).1 h).2.1
      refine ⟨text, _, (Utf8.decode_eq_ok_iff line text).1 hd, bodyOf_dropEnding text, hlegal, ?_⟩
      rw [parseBytes_encode, dropEnding_of_legal hlegal]
      exact h

/-- A line that is a message is clean, or it is a clean message with one more ending. -/
theorem clean_or_trails (h : parseBytes line = .ok m) : Clean line ∨ Trails line m := by
  rcases exists_text_of_parseBytes h with ⟨text, body, rfl, hbody, hlegal, hread⟩
  have hclean := (clean_encode_iff body).2 hlegal
  cases hbody with
  | crlf => exact .inr ⟨_, hclean, hread, .inr (encode_append body ['\r', '\n'])⟩
  | lf hlast => exact .inr ⟨_, hclean, hread, .inl (encode_append body ['\n'])⟩
  | bare hlast => exact .inl hclean

/-- A line with one more ending is read as the message in front of it. -/
theorem parseBytes_of_trails (h : Trails line m) : parseBytes line = .ok m := by
  rcases h with ⟨front, hclean, hread, hline⟩
  rcases exists_text_of_parseBytes hread with ⟨text, body, rfl, hbody, hlegal, hbytes⟩
  have htext := (clean_encode_iff text).1 hclean
  rw [parseBytes_encode, dropEnding_of_legal htext] at hread
  rcases hline with rfl | rfl
  · have hends : BodyOf (text ++ ['\n']) text :=
      .lf fun hlast => (htext '\r' (List.mem_of_getLast? hlast)).1 rfl
    have hlf : Utf8.encode (text ++ ['\n']) = Utf8.encode text ++ [Line.lf] :=
      encode_append text ['\n']
    rw [← hlf, parseBytes_encode, dropEnding_of_bodyOf hends]
    exact hread
  · have hcrlf : Utf8.encode (text ++ ['\r', '\n']) = Utf8.encode text ++ Line.ending :=
      encode_append text ['\r', '\n']
    rw [← hcrlf, parseBytes_encode, dropEnding_of_bodyOf (.crlf text)]
    exact hread

/-- The messages among the lines that are not clean. -/
theorem trails_iff : Trails line m ↔ parseBytes line = .ok m ∧ ¬Clean line := by
  constructor
  · intro h
    refine ⟨parseBytes_of_trails h, fun hclean => ?_⟩
    rcases h with ⟨front, -, -, rfl | rfl⟩
    · exact (hclean Line.lf (List.mem_append_right _ (by decide))).2.1 rfl
    · exact (hclean Line.lf (List.mem_append_right _ (by decide))).2.1 rfl
  · rintro ⟨hread, hclean⟩
    exact (clean_or_trails hread).resolve_left hclean

/-- A message that one of some lines was read as. -/
def Stems (P : List UInt8 → Prop) (m : Message) : Prop :=
  ∃ line, P line ∧ parseBytes line = .ok m

end Message

namespace Framing

variable {tokens : List String} {deadline : Nat} {f f' : Framing} {p p' : Peer}
  {line : List UInt8}

theorem isIn_of_drain (h : f.buffer.Ready) (hline : drain f = (.line line, f')) :
    Line.isIn line = false := by
  unfold drain LineBuffer.popAtEnd at hline
  cases hp : f.buffer.pop with
  | mk popped buffer =>
      rw [hp] at hline
      cases popped with
      | none => cases hline
      | some first =>
          cases hline
          exact Line.isIn_eq_false_of_append (h.findsFirst.first _ _ hp).2

theorem isIn_of_await (h : f.buffer.Ready)
    (hline : await tokens deadline f p = (.line line, f', p')) : Line.isIn line = false := by
  fun_induction await tokens deadline f p with
  | case1 => cases hline
  | case2 => cases hline
  | case3 => cases hline
  | case4 f p q hread hc arrival g hd =>
      cases hline
      exact isIn_of_drain (f := { f with closed := true }) h hd
  | case5 f p b bs q hread first buffer hp =>
      cases hline
      exact Line.isIn_eq_false_of_append ((h.append (b :: bs)).findsFirst.first _ _ hp).2
  | case6 f p b bs q hread buffer hp ih => exact ih ((h.append (b :: bs)).pop_none hp) hline

/-- No ending stands within a line that a request gives, as long as the memory of the
    buffer is true. -/
theorem isIn_of_next (h : f.Primed) (hline : next tokens deadline f p = (.line line, f', p')) :
    Line.isIn line = false := by
  unfold next at hline
  split at hline
  · cases hline
  · split at hline
    · split at hline
      · rw [Prod.mk.injEq] at hline
        exact isIn_of_drain h.ready (Prod.ext hline.1 rfl)
      · cases hp : f.buffer.pop with
        | mk popped buffer =>
            rw [hp] at hline
            cases popped with
            | some first =>
                cases hline
                exact Line.isIn_eq_false_of_append (h.ready.findsFirst.first _ _ hp).2
            | none => exact isIn_of_await (h.ready.pop_none hp) hline
    · exact isIn_of_await h.ready hline

end Framing

/-- A message of a line that was kept, which some line was read as. -/
def Received.Stems (P : List UInt8 → Prop) (received : Received) : Prop :=
  ∃ m, received.message = some m ∧ m.Stems P

namespace Transport

open Request

variable {P : List UInt8 → Prop} {r : Request} {taken lines : List Received} {t u : Transport}
  {line : List UInt8} {cause : ParseError} {moment : Nat}

/-- A collection for messages fails with a line that is none. -/
theorem gather_of_garbage (hraw : r.raw = false) (h : r.Consumes taken t line)
    (hbad : Message.parseBytes line = .error cause) :
    (gather r taken t).1 = .error (.parse (String.ofList (Utf8.decodeLossy line)) cause) := by
  rcases h with ⟨u, moment, v, hasks, hline⟩
  induction hasks with
  | @first taken t hopen =>
      have hfails : r.judge taken line =
          .fail (.parse (String.ofList (Utf8.decodeLossy line)) cause) := by
        simp only [judge, hbad, hraw, Bool.false_eq_true, if_false]
      rw [gather_of_receive hopen hline]
      simp only [hfails]
  | kept hopen hfirst hj h ih =>
      rw [gather_of_receive hopen hfirst]
      simp only [hj]
      exact ih hline
  | waited hopen hsilent hpatient hends htime h ih =>
      rw [gather_of_receive hopen hsilent]
      simp only [if_neg hpatient, if_neg hends, if_pos htime]
      exact ih hline

/-- What a collection gives was read off the lines that it has consumed. -/
theorem stems_of_gather (hraw : r.raw = false) (h : gather r taken t = (.ok lines, u))
    (hP : ∀ line, r.Consumes taken t line → P line)
    (htaken : ∀ received ∈ taken, received.Stems P) : ∀ received ∈ lines, received.Stems P := by
  fun_induction gather r taken t with
  | case1 taken t hc =>
      rw [Prod.mk.injEq, Outcome.ok.injEq] at h
      rw [← h.1]
      exact htaken
  | case2 taken t hc line t' hr _ received hj ih =>
      refine ih h (fun other hother => ?_) fun other hother => ?_
      · rcases hother with ⟨v, moment, w, hasks, hother⟩
        exact hP other ⟨v, moment, w, .kept hc hr hj hasks, hother⟩
      · rcases List.mem_append.1 hother with hother | hother
        · exact htaken other hother
        · rw [List.mem_singleton.1 hother]
          rcases message_of_judge hraw hj with ⟨m, hparse, hm⟩
          exact ⟨m, hm, line, hP line ⟨t, _, t', .first hc, hr⟩, hparse⟩
  | case3 taken t hc line t' hr u hj =>
      rw [Prod.mk.injEq, Outcome.ok.injEq] at h
      rw [← h.1]
      exact htaken
  | case4 => cases h
  | case5 => cases h
  | case6 => cases h
  | case7 => cases h
  | case8 => cases h
  | case9 taken t hc t' hr hl he =>
      rw [Prod.mk.injEq, Outcome.ok.injEq] at h
      rw [← h.1]
      exact htaken
  | case10 taken t hc t' hr hl he ht ih =>
      refine ih h (fun other hother => ?_) htaken
      rcases hother with ⟨v, moment, w, hasks, hother⟩
      exact hP other ⟨v, moment, w, .waited hc hr hl he ht hasks, hother⟩
  | case11 => cases h

section Collections

variable {synchronize required queued : Bool} {limit : Nat}

/-- The `PING` of a collection fails, and no line is asked for, or the collection asks for
    lines and does nothing else. -/
theorem collectLines_eq_gather (t : Transport) (synchronize required queued raw : Bool)
    (limit : Nat) :
    (∃ u, t.collectLines synchronize required queued raw limit = (.error .connectionClosed, u) ∧
        ∀ v moment, ¬t.CollectionAsks synchronize required queued raw limit v moment) ∨
      ∃ (r : Request) (u : Transport), r.raw = raw ∧
        t.collectLines synchronize required queued raw limit = gather r [] u ∧
        ∀ v moment, t.CollectionAsks synchronize required queued raw limit v moment ↔
          r.Asks [] u v moment := by
  cases synchronize with
  | false => exact .inr ⟨⟨none, required, queued, raw, limit⟩, t, rfl, rfl, fun _ _ => Iff.rfl⟩
  | true =>
      rcases t.sendPing_cases with ⟨u, hping⟩ | ⟨u, hping⟩
      · exact .inr ⟨⟨some t.nextToken, required, queued, raw, limit⟩, u, rfl,
          collectLines_of_sendPing hping required queued raw limit,
          collectionAsks_iff hping required queued raw limit⟩
      · refine .inl ⟨u, ?_, fun v moment hasks => ?_⟩
        · unfold collectLines
          rw [if_pos rfl, hping]
        · unfold CollectionAsks at hasks
          rw [if_pos rfl] at hasks
          rcases hasks with ⟨token, w, hping', -⟩
          rw [hping] at hping'
          cases hping'

theorem collectLines_of_garbage
    (hasks : t.CollectionAsks synchronize required queued false limit u moment) {v : Transport}
    (hline : u.receive moment = (.line line, v))
    (hbad : Message.parseBytes line = .error cause) :
    (t.collectLines synchronize required queued false limit).1 =
      .error (.parse (String.ofList (Utf8.decodeLossy line)) cause) := by
  rcases t.collectLines_eq_gather synchronize required queued false limit with
    ⟨w, -, hnone⟩ | ⟨r, w, hraw, hgather, hiff⟩
  · exact absurd hasks (hnone u moment)
  · rw [hgather]
    exact gather_of_garbage hraw ⟨u, moment, v, (hiff u moment).1 hasks, hline⟩ hbad

theorem stems_of_collectLines
    (h : t.collectLines synchronize required queued false limit = (.ok lines, u))
    (hP : ∀ line v moment w, t.CollectionAsks synchronize required queued false limit v moment →
      v.receive moment = (.line line, w) → P line) :
    ∀ m ∈ lines.filterMap Received.message, m.Stems P := by
  have hlines : ∀ received ∈ lines, received.Stems P := by
    rcases t.collectLines_eq_gather synchronize required queued false limit with
      ⟨w, hfails, -⟩ | ⟨r, w, hraw, hgather, hiff⟩
    · rw [h] at hfails
      cases hfails
    · rw [h] at hgather
      refine stems_of_gather hraw hgather.symm (fun line hline => ?_)
        fun _ hnone => absurd hnone List.not_mem_nil
      rcases hline with ⟨v, moment, x, hasks, hline⟩
      exact hP line v moment x ((hiff v moment).2 hasks) hline
  intro m hm
  rcases List.mem_filterMap.1 hm with ⟨received, hmem, hmessage⟩
  rcases hlines received hmem with ⟨m', hm', hstems⟩
  rw [hmessage, Option.some.injEq] at hm'
  exact hm' ▸ hstems

/-- A call for all messages gives those that were left over and those of its lines, or
    it ends as its collection does. -/
theorem collect_of_collectLines {outcome : Outcome (List Received)} :
    t.collectLines synchronize (required && t.inbox.isEmpty) (!t.inbox.isEmpty) false limit =
        (outcome, u) →
      t.collect synchronize required limit =
        match outcome with
        | .ok lines => (.ok (u.inbox ++ lines.filterMap Received.message), { u with inbox := [] })
        | .error e => (.error e, u)
        | .abandoned => (.abandoned, u) := by
  intro h
  unfold collect
  dsimp only
  rw [Bool.not_not, h]
  cases outcome with
  | ok lines => rfl
  | error e => rfl
  | abandoned => rfl

/-- What a call for all messages gives and what it leaves was left over before, or the
    call has consumed its line. -/
theorem stems_of_collect (t : Transport) (synchronize required : Bool) (limit : Nat)
    (hinbox : ∀ m ∈ t.inbox, m.Stems P)
    (hP : ∀ line u moment v, t.CollectionAsks synchronize (required && t.inbox.isEmpty)
      (!t.inbox.isEmpty) false limit u moment → u.receive moment = (.line line, v) → P line) :
    (∀ m ∈ (t.collect synchronize required limit).1.given, m.Stems P) ∧
      ∀ m ∈ (t.collect synchronize required limit).2.inbox, m.Stems P := by
  cases hlines : t.collectLines synchronize (required && t.inbox.isEmpty) (!t.inbox.isEmpty)
      false limit with
  | mk outcome u =>
      have hleft : ∀ m ∈ u.inbox, m.Stems P := by
        have hkept := inbox_collectLines t synchronize (required && t.inbox.isEmpty)
          (!t.inbox.isEmpty) false limit
        rw [hlines] at hkept
        rw [hkept]
        exact hinbox
      rw [collect_of_collectLines hlines]
      cases outcome with
      | ok lines =>
          refine ⟨fun m hm => ?_, fun m hm => absurd hm List.not_mem_nil⟩
          rcases List.mem_append.1 hm with hm | hm
          · exact hleft m hm
          · exact stems_of_collectLines hlines hP m hm
      | error e => exact ⟨fun m hm => absurd hm List.not_mem_nil, hleft⟩
      | abandoned => exact ⟨fun m hm => absurd hm List.not_mem_nil, hleft⟩

end Collections

section Searches

variable {σ : Type} {filter : σ → Message → Bool × σ} {synchronize : Bool} {limit : Nat}
  {state : σ}

theorem getOne_of_garbage (hasks : t.SearchAsks filter synchronize limit state u moment)
    {v : Transport} (hline : u.receive moment = (.line line, v))
    (hbad : Message.parseBytes line = .error cause) :
    (t.getOne filter synchronize limit state).1 =
      .error (.parse (String.ofList (Utf8.decodeLossy line)) cause) := by
  induction hasks with
  | @first state state' t u moment hnone h =>
      have hfails := collectLines_of_garbage h hline hbad
      cases hlines : { t with inbox := [] }.collectLines synchronize true false false limit with
      | mk outcome w =>
          rw [hlines] at hfails
          rw [getOne_of_none hnone, hlines, show outcome = _ from hfails]
  | again hnone hlines hsome h ih =>
      rw [getOne_of_none hnone, hlines]
      simp only [if_neg hsome]
      exact ih hline

/-- What a search gives and what it leaves was left over before, or the search has
    consumed its line. -/
theorem stems_of_getOne (filter : σ → Message → Bool × σ) (synchronize : Bool) (limit : Nat)
    (state : σ) (t : Transport) (hinbox : ∀ m ∈ t.inbox, m.Stems P)
    (hP : ∀ line u moment v, t.SearchAsks filter synchronize limit state u moment →
      u.receive moment = (.line line, v) → P line) :
    (∀ m, (t.getOne filter synchronize limit state).1 = .ok m → m.Stems P) ∧
      ∀ m ∈ (t.getOne filter synchronize limit state).2.2.inbox, m.Stems P := by
  have hempty : ∀ (t u : Transport) (outcome : Outcome (List Received)),
      { t with inbox := [] }.collectLines synchronize true false false limit = (outcome, u) →
        ∀ m ∈ u.inbox, m.Stems P := by
    intro t u outcome hlines m hm
    have hkept := inbox_collectLines { t with inbox := [] } synchronize true false false limit
    rw [hlines] at hkept
    rw [hkept] at hm
    exact absurd hm List.not_mem_nil
  fun_induction getOne filter synchronize limit state t with
  | case1 state t m rest state' hf =>
      rcases exists_front_of_firstAccepted hf with ⟨front, state₁, hsplit, -, -⟩
      rw [hsplit] at hinbox
      refine ⟨fun m' hm' => ?_, fun m' hm' => ?_⟩
      · rw [← Outcome.ok.inj hm']
        exact hinbox m (List.mem_append_right _ List.mem_cons_self)
      · exact hinbox m' (List.mem_append_right _ (List.mem_cons_of_mem m hm'))
  | case2 state t state' hf e u hlines =>
      refine ⟨fun m hm => ?_, hempty t u _ hlines⟩
      cases hm
  | case3 state t state' hf u hlines =>
      refine ⟨fun m hm => ?_, hempty t u _ hlines⟩
      cases hm
  | case4 state t state' hf u hlines =>
      refine ⟨fun m hm => ?_, hempty t u _ hlines⟩
      cases hm
  | case5 state t state' hf lines u hlines hl ih =>
      refine ih ?_ fun line v moment w hasks hline => ?_
      · exact stems_of_collectLines hlines fun line v moment w hasks hline =>
          hP line v moment w (.first hf hasks) hline
      · exact hP line v moment w (.again hf hlines hl hasks) hline

end Searches

end Transport

namespace Operation

open Transport

/-- A line that a call takes off the stream. -/
def Receives (op : Operation) (t : Transport) (line : List UInt8) : Prop :=
  ∃ u moment v, op.Asks t u moment ∧ u.receive moment = (.line line, v)

/-- A call for messages. -/
def Decodes : Operation → Prop
  | collect _ _ _ | getOne _ _ _ _ => True
  | sendLine _ | sendMessage _ | collectRaw _ _ _ => False

/-- A call fails with a line as one that is no message. -/
def FailsOn (op : Operation) (t : Transport) (line : List UInt8) : Prop :=
  ∃ cause, Message.parseBytes line = .error cause ∧
    op.Fails t (.parse (String.ofList (Utf8.decodeLossy line)) cause)

/-- A message that a call gives. -/
def Gives : Operation → Transport → Message → Prop
  | collect synchronize required limit, t, m => m ∈ (t.collect synchronize required limit).1.given
  | getOne filter synchronize limit state, t, m =>
    (t.getOne filter synchronize limit state).1 = .ok m
  | sendLine _, _, _ | sendMessage _, _, _ | collectRaw _ _ _, _, _ => False

variable {P : List UInt8 → Prop} {op : Operation} {t : Transport} {line : List UInt8}

/-- A call for messages fails with a line that is none. -/
theorem fails_of_garbage (hdecodes : op.Decodes) (h : op.Receives t line) {cause : ParseError}
    (hbad : Message.parseBytes line = .error cause) : op.FailsOn t line := by
  refine ⟨cause, hbad, ?_⟩
  rcases h with ⟨u, moment, v, hasks, hline⟩
  cases op with
  | sendLine line => exact hdecodes.elim
  | sendMessage m => exact hdecodes.elim
  | collect synchronize required limit =>
      rw [Fails, collect_of_collectLines (Prod.ext (collectLines_of_garbage hasks hline hbad) rfl)]
  | collectRaw synchronize required limit => exact hdecodes.elim
  | getOne filter synchronize limit state => exact getOne_of_garbage hasks hline hbad

/-- No ending stands within a line that a call takes off the stream, as long as no part
    of a line was lost. -/
theorem isIn_of_receives (h : Reached (fun op t => ¬op.LosesPart t) t)
    (hline : op.Receives t line) : Line.isIn line = false := by
  rcases hline with ⟨u, moment, v, hasks, hline⟩
  have hprimed := hasks.framing Framing.stable_primed h.primed
  unfold receive at hline
  rw [Prod.mk.injEq] at hline
  exact Framing.isIn_of_next hprimed (Prod.ext hline.1 rfl)

/-- What a call gives and what it leaves was left over before, or the call has taken its
    line off the stream. -/
theorem stems_after (op : Operation) (hinbox : ∀ m ∈ t.inbox, m.Stems P)
    (hP : ∀ line, op.Receives t line → P line) :
    (∀ m, op.Gives t m → m.Stems P) ∧ ∀ m ∈ (op.after t).inbox, m.Stems P := by
  cases op with
  | sendLine line =>
      refine ⟨fun m hm => hm.elim, ?_⟩
      rw [after, Transport.sendLine_eq]
      exact hinbox
  | sendMessage m =>
      refine ⟨fun m hm => hm.elim, ?_⟩
      rw [after, Transport.sendMessage]
      split
      · exact hinbox
      · rw [Transport.sendLine_eq]
        exact hinbox
  | collect synchronize required limit =>
      exact stems_of_collect t synchronize required limit hinbox
        fun line u moment v hasks hline => hP line ⟨u, moment, v, hasks, hline⟩
  | collectRaw synchronize required limit =>
      refine ⟨fun m hm => hm.elim, ?_⟩
      have hkept := inbox_collectLines t synchronize required false true limit
      rw [← hkept] at hinbox
      exact hinbox
  | getOne filter synchronize limit state =>
      exact stems_of_getOne filter synchronize limit state t hinbox
        fun line u moment v hasks hline => hP line ⟨u, moment, v, hasks, hline⟩

end Operation

/-- Every message that is left over in a run was read off a line of the run. -/
theorem Reached.stems {P : List UInt8 → Prop} {t : Transport}
    (h : Reached (fun op t => ∀ line, op.Receives t line → P line) t) :
    ∀ m ∈ t.inbox, m.Stems P := by
  induction h with
  | initial name settings clock => exact fun m hm => absurd hm List.not_mem_nil
  | willDo h events ih => exact ih
  | waitUntil h moment ih => exact ih
  | writes h works ih => exact ih
  | call h op hallowed ih => exact (op.stems_after ih hallowed).2

/-- A line that a call for messages takes off the stream is clean, or it fails the call
    as one that is no message, unless it is a clean message with one more ending. So only
    clean lines get past a call exactly if none of its lines is of this kind. A message
    that a call gives was read off a line of this call or of an earlier one, and that line
    is clean or of this kind. As long as no part of a line was lost, these lines are the
    bytes between two endings. -/
theorem clean_lines_iff {P : List UInt8 → Prop} {t : Transport}
    (h : Reached (fun op t => ∀ line, op.Receives t line → P line) t) {op : Operation}
    (hdecodes : op.Decodes) (hP : ∀ line, op.Receives t line → P line) :
    (∀ line, op.Receives t line →
        Line.Clean line ∨ op.FailsOn t line ∨ ∃ m, Line.Trails line m) ∧
      ((∀ line, op.Receives t line → Line.Clean line ∨ op.FailsOn t line) ↔
        ∀ line m, op.Receives t line → ¬Line.Trails line m) ∧
      (∀ m, op.Gives t m → ∃ line, P line ∧ Message.parseBytes line = .ok m ∧
        (Line.Clean line ∨ Line.Trails line m)) ∧
      (Reached (fun op t => ¬op.LosesPart t) t →
        ∀ line, op.Receives t line → Line.isIn line = false) := by
  have hcases : ∀ line, op.Receives t line →
      Line.Clean line ∨ op.FailsOn t line ∨ ∃ m, Line.Trails line m := by
    intro line hline
    cases hread : Message.parseBytes line with
    | error cause => exact .inr (.inl (Operation.fails_of_garbage hdecodes hline hread))
    | ok m => exact (Message.clean_or_trails hread).imp_right fun htrails => .inr ⟨m, htrails⟩
  refine ⟨hcases, ⟨fun hall line m hline htrails => ?_, fun hnone line hline => ?_⟩,
    fun m hm => ?_, fun hkept line hline => Operation.isIn_of_receives hkept hline⟩
  · rcases Message.trails_iff.1 htrails with ⟨hread, hclean⟩
    rcases (hall line hline).resolve_left hclean with ⟨cause, hbad, -⟩
    rw [hread] at hbad
    cases hbad
  · rcases hcases line hline with hclean | hfails | ⟨m, htrails⟩
    · exact .inl hclean
    · exact .inr hfails
    · exact absurd htrails (hnone line m hline)
  · rcases (op.stems_after h.stems hP).1 m hm with ⟨line, hline, hread⟩
    exact ⟨line, hline, hread, Message.clean_or_trails hread⟩

/-- The first line that an unsynchronized collection asks for when nothing was left
    over. -/
theorem collectionAsks_first {t : Transport} {required raw : Bool} {limit moment : Nat}
    (hmoment : min (t.peer.now + t.readTimeout) limit = moment) :
    t.CollectionAsks false required false raw limit t moment := by
  rw [Transport.CollectionAsks, if_neg Bool.false_ne_true, ← hmoment]
  exact .first Bool.false_ne_true

/-- A call leaves the message of a line with a line feed at its end. The next one gives
    it, and another one fails with a line that holds a carriage return. -/
theorem clean_lines_iff_left_over :
    ∃ t, Reached (fun op t => ∀ line, op.Receives t line → Line.isIn line = false) t ∧
      (∃ line, Line.isIn line = false ∧
        Message.parseBytes line = .ok ⟨[], none, "PING", ["x"]⟩ ∧
        (Line.Clean line ∨ Line.Trails line ⟨[], none, "PING", ["x"]⟩)) ∧
      (Operation.getOne (fun _ m => (m.isCommand "PONG", ())) false 10000 ()).FailsOn t
        (Utf8.ofString "PI\rNG") := by
  have hrun : ∃ t, Reached (fun op t => ∀ line, op.Receives t line → Line.isIn line = false) t ∧
      Reached (fun op t => ¬op.LosesPart t) t ∧ t.inbox = [⟨[], none, "PING", ["x"]⟩] ∧
      min (t.peer.now + t.readTimeout) 10000 = 1000 ∧
      ({ t with inbox := [] }.receive 1000).1 = .line (Utf8.ofString "PI\rNG") := by
    have hstart : ∀ allowed, Reached allowed { Transport.initial "c" .initial fun _ => ⟨0, 0⟩ with
        peer := Peer.idle.willDo
          [.data [.literal (Utf8.ofString "NOTICE a :one\r\nPING x\n\r\nPI")],
            .data [.literal (Utf8.ofString "\rNG\r\n")]] } :=
      fun allowed => .willDo (.initial "c" .initial fun _ => ⟨0, 0⟩) _
    have hkept := (hstart fun op t => ¬op.LosesPart t).call
      (.getOne (fun _ m => (m.isCommand "NOTICE", ())) false 10000 ())
      (not_losesPart_of_unread (by decide +kernel))
    refine ⟨_, (hstart _).call _ fun line hline => ?_, hkept, by decide +kernel,
      by decide +kernel, by decide +kernel⟩
    exact Operation.isIn_of_receives (hstart _) hline
  rcases hrun with ⟨t, hreached, hkept, hinbox, hmoment, hfirst⟩
  have hends : ∀ (op : Operation) line, op.Receives t line → Line.isIn line = false :=
    fun op line hline => Operation.isIn_of_receives hkept hline
  refine ⟨t, hreached, ?_, ?_⟩
  · have hgives : (Operation.getOne (fun _ _ => (true, ())) false 10000 ()).Gives t
        ⟨[], none, "PING", ["x"]⟩ := by
      have haccepted : firstAccepted (fun _ _ => (true, ())) () t.inbox =
          (some (⟨[], none, "PING", ["x"]⟩, []), ()) := by
        rw [hinbox]
        rfl
      rw [Operation.Gives, Transport.getOne_of_some haccepted]
    have hdecodes : (Operation.getOne (fun _ _ => (true, ())) false 10000 ()).Decodes := trivial
    exact (clean_lines_iff hreached hdecodes (hends _)).2.2.1 _ hgives
  · have hnone : firstAccepted (fun _ m => (m.isCommand "PONG", ())) () t.inbox = (none, ()) := by
      rw [hinbox]
      decide +kernel
    have hreceives : (Operation.getOne (fun _ m => (m.isCommand "PONG", ())) false 10000
        ()).Receives t (Utf8.ofString "PI\rNG") :=
      ⟨_, _, _, .first hnone (collectionAsks_first hmoment), Prod.ext hfirst rfl⟩
    have hbad : Message.parseBytes (Utf8.ofString "PI\rNG") = .error (.illegalCharacter 13 2) := by
      cbv
    have hdecodes : (Operation.getOne (fun _ m => (m.isCommand "PONG", ())) false 10000
        ()).Decodes := trivial
    rcases (clean_lines_iff hreached hdecodes (hends _)).1 _ hreceives with
      hclean | hfails | ⟨m, htrails⟩
    · exact absurd rfl (hclean 13 (by decide +kernel)).1
    · exact hfails
    · rw [Message.parseBytes_of_trails htrails] at hbad
      cases hbad

/-- The peer sends a line that ends in a line feed, behind which the ending stands. It
    is taken off the stream with its line feed, and it comes out as a message. -/
theorem bare_lf_becomes_message :
    ∃ t line, Reached (fun op t => ¬op.LosesPart t) t ∧ line = Utf8.ofString "PING x\n" ∧
      (Operation.collect false true 10000).Receives t line ∧ Line.isIn line = false ∧
      ¬Line.Clean line ∧ ¬(Operation.collect false true 10000).FailsOn t line ∧
      (t.collect false true 10000).1 = .ok [⟨[], none, "PING", ["x"]⟩] := by
  have hrun : ∃ t, Reached (fun op t => ¬op.LosesPart t) t ∧ t.inbox = [] ∧
      min (t.peer.now + t.readTimeout) 10000 = 1000 ∧
      (t.receive 1000).1 = .line (Utf8.ofString "PING x\n") ∧
      (t.collect false true 10000).1 = .ok [⟨[], none, "PING", ["x"]⟩] :=
    ⟨_, Reached.willDo (.initial "c" .initial fun _ => ⟨0, 0⟩)
      [.data [.literal (Utf8.ofString "PING x\n\r\n")]], rfl, by decide +kernel,
      by decide +kernel, by decide +kernel⟩
  rcases hrun with ⟨t, hreached, hinbox, hmoment, hline, hgiven⟩
  have hreceives : (Operation.collect false true 10000).Receives t (Utf8.ofString "PING x\n") := by
    refine ⟨t, 1000, _, ?_, Prod.ext hline rfl⟩
    rw [Operation.Asks, hinbox]
    exact collectionAsks_first hmoment
  refine ⟨t, _, hreached, rfl, hreceives, Operation.isIn_of_receives hreached hreceives, ?_, ?_,
    hgiven⟩
  · exact fun hclean => (hclean Line.lf (by decide +kernel)).2.1 rfl
  · rintro ⟨cause, -, hfails⟩
    rw [Operation.Fails, hgiven] at hfails
    cases hfails

end IrcHarness
