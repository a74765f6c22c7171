import IrcHarness.Proofs.Message.Acceptance
import IrcHarness.Proofs.Transport.Backlog
import IrcHarness.Proofs.Transport.Sending

/-!
# From One Transport to Another

What one transport sends as messages another one collects as messages, the same
ones and in the same order. On the way a message becomes a line, the line
becomes bytes, the bytes are cut into reads, and everything is undone again.

A readable message becomes one line, since none of its parts can hold half of an
ending, so that what is taken off or put on at the end of a text is the ending
and nothing else. The bytes of its line are those that the receiver reads as the
message again (`Message.line`). From there on the stream is a list of such
lines. A collection takes some lines off its front, at least one if there is
one, and no more than are there; how many depends on the reads, and what comes
of repeated collections does not.

Nothing is sent of a message that `validate` refuses.

## Main definitions

* `Message.line`: The line of a readable message.
* `Transport.sendAll`: Send messages, up to the first one that fails.
* `Transport.Collected`: What repeated collections give.

## Theorems

* `sendAll_of_readable`: The lines of messages go out one behind the other.
* `collect_lines`: A collection gives the message of the first line.
* `Collected.split`: What repeated collections give and what is left.
* `sendAll_delivers`: What was sent is what is collected.
-/

namespace IrcHarness

open StreamItem (ofBytes leading)

namespace Line

/-- A text without half of an ending has no ending to be taken off. -/
theorem withoutEnding_of_not_mem {text : String} (h : '\r' ∉ text.toList) :
    withoutEnding text = text := by
  have hended : ¬IsEnded text := fun hs => h (hs.subset List.mem_cons_self)
  exact withoutEnding_of_not_isEnded hended

theorem isIn_eq_false_of_feeds {bytes : List UInt8} (h : feeds bytes = 0) :
    isIn bytes = false := by
  by_contra hin
  rw [Bool.not_eq_false, isIn_iff] at hin
  rcases Option.isSome_iff_exists.1 hin with ⟨parts, hcut⟩
  have hlt := feeds_lt_of_cut hcut
  omega

end Line

namespace Message

variable {m : Message}

theorem cr_not_mem_renderBody (h : m.Readable) : '\r' ∉ m.renderBody := fun hc =>
  (renderBody_oneLine h.writable _ hc).1 rfl

theorem lf_not_mem_renderBody (h : m.Readable) : '\n' ∉ m.renderBody := fun hc =>
  (renderBody_oneLine h.writable _ hc).2.1 rfl

/-- The line of a readable message. -/
def line (m : Message) (h : m.Readable) : MessageLine where
  bytes := Utf8.encode m.renderBody
  message := m
  clean := Line.isIn_eq_false_of_feeds (Line.feeds_encode_eq_zero (lf_not_mem_renderBody h))
  parses := by
    have hbody : BodyOf m.renderBody m.renderBody :=
      .bare fun hlast => lf_not_mem_renderBody h (List.mem_of_getLast? hlast)
    rw [parseBytes, Utf8.decode_encode]
    simp only [dropEnding_of_bodyOf hbody]
    exact parseBody_renderBody h

theorem encode_of_readable (h : m.Readable) : m.encode = .ok m.render := by
  rw [encode, (validate_eq_ok_iff m).2 h.writable]

theorem render_eq (m : Message) : m.render = String.ofList m.renderBody ++ "\r\n" := by
  rw [← String.toList_inj, toList_render, String.toList_append, String.toList_ofList]
  rfl

/-- The lines of messages, as bytes. -/
theorem exists_lines {ms : List Message} (h : ∀ m ∈ ms, m.Readable) :
    ∃ lines : List MessageLine, lines.map MessageLine.message = ms ∧
      Utf8.ofString (String.join (ms.map render)) = MessageLine.wire lines := by
  induction ms with
  | nil => exact ⟨[], rfl, rfl⟩
  | cons m ms ih =>
      rcases ih fun n hn => h n (List.mem_cons_of_mem m hn) with ⟨lines, hlines, hbytes⟩
      refine ⟨m.line (h m List.mem_cons_self) :: lines, ?_, ?_⟩
      · rw [List.map_cons, hlines]
        rfl
      · rw [MessageLine.wire_cons, ← hbytes, List.map_cons, String.join_cons, Utf8.ofString,
          String.toList_append, toList_render, Utf8.encode, List.flatMap_append,
          List.flatMap_append]
        rfl

end Message

namespace Transport

variable {t u v : Transport} {m : Message}

/-- Send messages, up to the first one that fails. -/
def sendAll (t : Transport) : List Message → Except TransportError Unit × Transport
  | [] => (.ok (), t)
  | m :: rest =>
    match t.sendMessage m with
    | (.ok _, t') => t'.sendAll rest
    | (.error e, t') => (.error e, t')

/-- A message that is refused leaves everything as it was. -/
theorem sendMessage_of_invalid {e : EncodeError} (h : m.validate = .error e) (t : Transport) :
    t.sendMessage m = (.error (.encode e), t) := by
  unfold sendMessage Message.encode
  rw [h]

/-- A readable message goes out as its line. -/
theorem sendMessage_of_readable (h : m.Readable) (hwritable : t.outgoing.writable = true) :
    (t.sendMessage m).1 = .ok () ∧ (t.sendMessage m).2.outgoing =
      ⟨true, t.outgoing.sent ++ t.outgoing.unsent ++ m.render, ""⟩ := by
  have hbare : Line.withoutEnding (String.ofList m.renderBody) = String.ofList m.renderBody := by
    refine Line.withoutEnding_of_not_mem ?_
    rw [String.toList_ofList]
    exact Message.cr_not_mem_renderBody h
  -- The ending is taken off, there is no second one, and one is put on.
  have htext : Line.withoutEnding (Line.withoutEnding m.render) ++ "\r\n" = m.render := by
    rw [Message.render_eq, Line.withoutEnding_append_ending, hbare]
  simp only [sendMessage, Message.encode_of_readable h, sendLine, noteLine, note, Outgoing.write,
    htext, hwritable, if_true, and_self]

/-- The lines of messages go out one behind the other. -/
theorem sendAll_of_readable {ms : List Message} (h : ∀ m ∈ ms, m.Readable)
    (hwritable : t.outgoing.writable = true) (hunsent : t.outgoing.unsent = "") :
    (t.sendAll ms).1 = .ok () ∧ (t.sendAll ms).2.outgoing =
      ⟨true, t.outgoing.sent ++ String.join (ms.map Message.render), ""⟩ := by
  induction ms generalizing t with
  | nil =>
      refine ⟨rfl, ?_⟩
      rw [List.map_nil, String.join_nil, String.append_empty, ← hunsent, ← hwritable]
      rfl
  | cons m ms ih =>
      have hsent := sendMessage_of_readable (h m List.mem_cons_self) hwritable
      cases hm : t.sendMessage m with
      | mk answer t' =>
          rw [hm] at hsent
          rcases hsent with ⟨rfl, hout⟩
          have hrest := ih (t := t') (fun n hn => h n (List.mem_cons_of_mem m hn))
            (by rw [hout]) (by rw [hout])
          rw [sendAll]
          simp only [hm]
          rw [hrest.1, hrest.2, hout, hunsent, String.append_empty, List.map_cons,
            String.join_cons, String.append_assoc]
          exact ⟨rfl, rfl⟩

/-- A collection that needs a message gives that of the first line, and those of
    some lines behind it. The caller is patient: the limit does not come before
    the peer has sent everything. -/
theorem collect_lines (hs : t.framing.Sound) (hinbox : t.inbox = []) {limit : Nat}
    (hlimit : t.peer.doneAt ≤ limit) {rest : List StreamItem} (hrest : leading rest = [])
    {line : MessageLine} {lines : List MessageLine}
    (hahead : t.ahead t.tokens = ofBytes (MessageLine.wire (line :: lines)) ++ rest) :
    ∃ (front : List MessageLine) (t' : Transport), t.collect false true limit =
      (.ok (line.message :: front.map MessageLine.message), t') := by
  rw [MessageLine.wire_cons, StreamItem.ofBytes_append, List.append_assoc] at hahead
  -- The first line may take any number of reads, and the others take none.
  rcases gather_line (r := ⟨none, true, false, false, limit⟩) (.inr ⟨rfl, rfl, rfl⟩) hs hlimit
    line.clean hahead with ⟨t₁, hgather, hs₁, -, hahead₁, -⟩
  rw [judge_of_no_token rfl] at hgather
  rcases gather_left (r := ⟨none, true, false, false, limit⟩) rfl (by rw [hrest]; rfl) lines
    (List.cons_ne_nil line.received []) hs₁ hahead₁ with ⟨front, -, t₂, -, hgather₂, -⟩
  have hcollected : t.collectLines false true false false limit =
      (.ok ((line :: front).map MessageLine.received), t₂) := hgather.trans hgather₂
  refine ⟨front, t₂, ?_⟩
  rw [collect_of_empty hinbox, hcollected, Outcome.map, MessageLine.filterMap_received]
  rfl

/-- Lines that are taken off a stream of lines are the first ones. -/
theorem split_of_wire {rest : List StreamItem} (hrest : leading rest = [])
    {taken : List (List UInt8)} (hclean : ∀ bytes ∈ taken, Line.isIn bytes = false)
    {lines : List MessageLine} {items : List StreamItem}
    (h : ofBytes (MessageLine.wire lines) ++ rest = ofBytes (Line.wire taken) ++ items) :
    ∃ front back, lines = front ++ back ∧ front.map MessageLine.bytes = taken ∧
      items = ofBytes (MessageLine.wire back) ++ rest := by
  induction taken generalizing lines with
  | nil => exact ⟨[], lines, rfl, rfl, h.symm⟩
  | cons bytes taken ih =>
      rw [Line.wire_cons, StreamItem.ofBytes_append, List.append_assoc] at h
      cases lines with
      | nil => exact absurd h (StreamItem.not_line_of_leading (a := []) rfl hrest)
      | cons line lines =>
          rw [MessageLine.wire_cons, StreamItem.ofBytes_append, List.append_assoc] at h
          rcases StreamItem.eq_of_line_append line.clean (hclean bytes List.mem_cons_self) h with
            ⟨rfl, hitems⟩
          rcases ih (fun b hb => hclean b (List.mem_cons_of_mem _ hb)) hitems with
            ⟨front, back, rfl, rfl, hback⟩
          exact ⟨line :: front, back, rfl, rfl, hback⟩

/-- What a collection gives is what the first lines say, and the others are still
    to come. -/
theorem lines_of_collect (hs : t.framing.Sound) (hinbox : t.inbox = []) {limit : Nat}
    {batch : List Message} (h : t.collect false true limit = (.ok batch, u))
    {rest : List StreamItem} (hrest : leading rest = []) {lines : List MessageLine}
    (hahead : t.ahead t.tokens = ofBytes (MessageLine.wire lines) ++ rest) :
    ∃ front back, lines = front ++ back ∧ front.map MessageLine.message = batch ∧
      u.framing.Sound ∧ u.inbox = [] ∧
      u.ahead u.tokens = ofBytes (MessageLine.wire back) ++ rest := by
  cases hlines : t.collectLines false true false false limit with
  | mk outcome w =>
      rw [collect_of_empty hinbox, hlines] at h
      have hempty := inbox_collectLines t false true false false limit
      rw [hlines, hinbox] at hempty
      have hend := ends_of_collectLines hs hlines
      cases outcome with
      | error e => cases h
      | abandoned => cases h
      | ok received =>
          rcases hend with (hclosed | ⟨f, hio⟩) | ⟨taken, hends, htakes, htokens⟩
          · cases hclosed
          · cases hio
          rw [Outcome.map, Prod.mk.injEq, Outcome.ok.injEq] at h
          rcases h with ⟨hbatch, rfl⟩
          have hsame : w.tokens = t.tokens := htokens
          have hstream := htakes.stream
          rw [hsame, hahead] at hstream
          rcases split_of_wire hrest htakes.clean hstream with ⟨front, back, hsplit, hfront, hback⟩
          refine ⟨front, back, hsplit, ?_, htakes.sound, hempty, hsame ▸ hback⟩
          -- The lines were kept, so the batch is what they say.
          cases hends with
          | answered hkeeps htoken => cases htoken
          | enough hkeeps htoken =>
              rcases hkeeps.messages rfl with ⟨messages, hparsed, hmessages⟩
              have hsay : front.map (Message.parseBytes ∘ MessageLine.bytes) =
                  front.map (Except.ok ∘ MessageLine.message) :=
                List.map_congr_left fun line _ => line.parses
              rw [← hfront, List.map_map, hsay, ← List.map_map] at hparsed
              have hinj : Function.Injective (Except.ok : Message → Except ParseError Message) :=
                fun a b he => Except.ok.inj he
              rw [List.map_injective_iff.2 hinj hparsed, ← hbatch, hmessages]
              rfl

/-- What repeated collections give, one batch behind the other. Time may pass in
    between. -/
inductive Collected (t : Transport) : List Message → Transport → Prop where
  /-- No collection. -/
  | none : Collected t [] t
  /-- One more collection that gives something. -/
  | collect {u v : Transport} {got batch : List Message} {limit : Nat} (h : Collected t got u)
      (hcollect : u.collect false true limit = (.ok batch, v)) : Collected t (got ++ batch) v
  /-- Time passes. -/
  | wait {u : Transport} {got : List Message} (h : Collected t got u) (moment : Nat) :
      Collected t got (u.waitUntil moment)

section Repeated

variable {got : List Message} {rest : List StreamItem} {lines : List MessageLine}

/-- Repeated collections give what the first lines say, and the others are still
    to come. -/
theorem Collected.split (h : Collected t got v) (hs : t.framing.Sound) (hinbox : t.inbox = [])
    (hrest : leading rest = [])
    (hahead : t.ahead t.tokens = ofBytes (MessageLine.wire lines) ++ rest) :
    ∃ front back, lines = front ++ back ∧ front.map MessageLine.message = got ∧
      v.framing.Sound ∧ v.inbox = [] ∧
      v.ahead v.tokens = ofBytes (MessageLine.wire back) ++ rest := by
  induction h with
  | none => exact ⟨[], lines, rfl, rfl, hs, hinbox, hahead⟩
  | collect h hcollect ih =>
      rcases ih with ⟨front, back, rfl, hgot, hs', hinbox', hahead'⟩
      rcases lines_of_collect hs' hinbox' hcollect hrest hahead' with
        ⟨next, back', rfl, hbatch, hs'', hinbox'', hahead''⟩
      refine ⟨front ++ next, back', (List.append_assoc ..).symm, ?_, hs'', hinbox'', hahead''⟩
      rw [List.map_append, hgot, hbatch]
  | wait h moment ih =>
      rcases ih with ⟨front, back, rfl, hgot, hs', hinbox', hahead'⟩
      refine ⟨front, back, rfl, hgot, hs', hinbox', ?_⟩
      rw [← hahead']
      exact congrArg (ofBytes _ ++ ·) (Peer.items_waitUntil _ _ moment)

/-- As long as a line is to come, a patient collection gives a message. -/
theorem Collected.next (h : Collected t got v) (hs : t.framing.Sound) (hinbox : t.inbox = [])
    (hrest : leading rest = [])
    (hahead : t.ahead t.tokens = ofBytes (MessageLine.wire lines) ++ rest)
    (hleft : got ≠ lines.map MessageLine.message) {limit : Nat} (hlimit : v.peer.doneAt ≤ limit) :
    ∃ m batch w, v.collect false true limit = (.ok (m :: batch), w) := by
  rcases h.split hs hinbox hrest hahead with ⟨front, back, rfl, hgot, hs', hinbox', hahead'⟩
  cases back with
  | nil =>
      rw [List.append_nil] at hleft
      exact absurd hgot.symm hleft
  | cons line back =>
      rcases collect_lines hs' hinbox' hlimit hrest hahead' with ⟨more, w, hcollect⟩
      exact ⟨line.message, more.map MessageLine.message, w, hcollect⟩

/-- Repeated collections can go on until no line is left. -/
theorem Collected.exists_all (h : Collected t got v) (hs : t.framing.Sound) (hinbox : t.inbox = [])
    (hrest : leading rest = [])
    (hahead : t.ahead t.tokens = ofBytes (MessageLine.wire lines) ++ rest) :
    ∃ w, Collected t (lines.map MessageLine.message) w ∧ w.ahead w.tokens = rest := by
  -- Each batch holds a message, so the number of those that are left goes down.
  induction hleft : lines.length - got.length using Nat.strong_induction_on generalizing got v with
  | _ left ih =>
      rcases h.split hs hinbox hrest hahead with ⟨front, back, hsplit, hgot, hs', hinbox', hahead'⟩
      cases back with
      | nil =>
          rw [List.append_nil] at hsplit
          exact ⟨v, by rw [hsplit, hgot]; exact h, hahead'⟩
      | cons line back =>
          rcases collect_lines hs' hinbox' (Nat.le_refl _) hrest hahead' with ⟨more, w, hcollect⟩
          have hcount : lines.length = got.length + (back.length + 1) := by
            rw [hsplit, List.length_append, List.length_cons, ← hgot, List.length_map]
          refine ih _ ?_ (h.collect hcollect) rfl
          rw [List.length_append, List.length_cons]
          omega

end Repeated

/-- Messages that can be told apart on the wire go out as their lines, one behind
    the other. However these bytes are cut into reads, repeated collections on
    another transport give the messages in their order: what has been collected
    is always a front of them, a patient collection gives more as long as one is
    missing, and all of them can be collected. A message that `validate` refuses
    is not sent and leaves everything as it was. -/
theorem sendAll_delivers {t : Transport} (hwritable : t.outgoing.writable = true)
    (hunsent : t.outgoing.unsent = "") {ms : List Message}
    (hms : ∀ m ∈ ms, m.validate = .ok () ∧ m.KeysDistinct ∧ m.NulFree) :
    (∃ lines, ms.map Message.encode = lines.map Except.ok ∧ (t.sendAll ms).1 = .ok () ∧
      (t.sendAll ms).2.outgoing = ⟨true, t.outgoing.sent ++ String.join lines, ""⟩ ∧
      ∀ u rest, Undisturbed u → u.inbox = [] → leading rest = [] →
        u.ahead u.tokens = ofBytes (Utf8.ofString (String.join lines)) ++ rest →
        (∀ got v, Collected u got v → got <+: ms ∧
          (got ≠ ms → ∀ limit, v.peer.doneAt ≤ limit →
            ∃ m batch w, v.collect false true limit = (.ok (m :: batch), w))) ∧
        ∃ v, Collected u ms v ∧ v.ahead v.tokens = rest) ∧
      ∀ (u : Transport) (m : Message) (e : EncodeError), m.validate = .error e →
        u.sendMessage m = (.error (.encode e), u) := by
  refine ⟨?_, fun u m e h => sendMessage_of_invalid h u⟩
  have hreadable : ∀ m ∈ ms, m.Readable := fun m hm =>
    ⟨(Message.validate_eq_ok_iff m).1 (hms m hm).1, (hms m hm).2.1, (hms m hm).2.2⟩
  rcases sendAll_of_readable hreadable hwritable hunsent with ⟨hok, hout⟩
  rcases Message.exists_lines hreadable with ⟨lines, rfl, hbytes⟩
  refine ⟨_, ?_, hok, hout, fun u rest hu hinbox hrest hahead => ?_⟩
  · have hencode := List.map_congr_left fun m hm => Message.encode_of_readable (hreadable m hm)
    exact hencode.trans List.map_map.symm
  rw [hbytes] at hahead
  refine ⟨fun got v h => ⟨?_, fun hleft limit hlimit => ?_⟩, ?_⟩
  · rcases h.split hu.sound hinbox hrest hahead with ⟨front, back, rfl, rfl, -⟩
    rw [List.map_append]
    exact List.prefix_append _ _
  · exact h.next hu.sound hinbox hrest hahead hleft hlimit
  · exact Collected.exists_all .none hu.sound hinbox hrest hahead

/-- Two messages, the first one with a tag and a trailing parameter. The reads
    cut the first line within its text and the second one within its ending. -/
theorem sendAll_delivers_cut_lines :
    (Transport.sendAll (.initial "a" .initial fun _ => ⟨0, 0⟩)
        [⟨[⟨"k", some "v;"⟩], none, "NOTICE", ["a", "b c"]⟩, ⟨[], none, "PING", ["x"]⟩]).1 =
        .ok () ∧
      ∃ v, Collected
        { Transport.initial "b" .initial fun _ => ⟨0, 0⟩ with
          peer := Peer.idle.willDo
            [.data [.literal (Utf8.ofString "@k=v\\: NOTI")], .silence 2500,
              .data [.literal (Utf8.ofString "CE a :b c\r\nPING x\r")],
              .data [.literal (Utf8.ofString "\n")]] }
        [⟨[⟨"k", some "v;"⟩], none, "NOTICE", ["a", "b c"]⟩, ⟨[], none, "PING", ["x"]⟩] v := by
  have hms : ∀ m ∈ [(⟨[⟨"k", some "v;"⟩], none, "NOTICE", ["a", "b c"]⟩ : Message),
      ⟨[], none, "PING", ["x"]⟩], m.validate = .ok () ∧ m.KeysDistinct ∧ m.NulFree := by
    intro m hm
    rcases List.mem_pair.1 hm with rfl | rfl
    · refine ⟨by cbv, by unfold Message.KeysDistinct; decide, fun t ht value hv => ?_⟩
      rw [List.mem_singleton.1 ht] at hv
      rw [← Option.some.inj hv]
      decide
    · exact ⟨by cbv, by unfold Message.KeysDistinct; decide,
        fun t ht => absurd ht List.not_mem_nil⟩
  rcases (sendAll_delivers (t := .initial "a" .initial fun _ => ⟨0, 0⟩) rfl rfl hms).1 with
    ⟨lines, hencode, hok, -, hreceive⟩
  have hlines : lines = ["@k=v\\: NOTICE a :b c\r\n", "PING x\r\n"] := by
    have hinj : Function.Injective (Except.ok : String → Except EncodeError String) :=
      fun a b he => Except.ok.inj he
    exact List.map_injective_iff.2 hinj (hencode.symm.trans (by cbv))
  have hundisturbed := Undisturbed.willDo (.initial "b" .initial fun _ => ⟨0, 0⟩)
    [.data [.literal (Utf8.ofString "@k=v\\: NOTI")], .silence 2500,
      .data [.literal (Utf8.ofString "CE a :b c\r\nPING x\r")],
      .data [.literal (Utf8.ofString "\n")]]
  rcases (hreceive _ [] hundisturbed rfl rfl (by rw [hlines]; decide +kernel)).2 with ⟨v, hall, -⟩
  exact ⟨hok, v, hall⟩

end Transport

end IrcHarness
