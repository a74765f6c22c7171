import IrcHarness.Proofs.Transport.Backlog

/-!
# The End of the Stream

A peer sends its lines, perhaps a part of one more, and closes its side. Whoever
collects again and again without requiring anything sees the lines in their order,
then the end, and nothing of the part. A collection may come too early and give
nothing, it may wait for the other half of an ending, or it may find several lines
in one read, and the end itself may be read long before it is reported.

One request in front of the end takes the first line off the stream, or finds the
peer silent, or there is no line left and it takes the end (`meets_of_receive`). A
collection therefore gives lines, or nothing because it was early, or it fails and
no line is left (`poll_gather`). Both lines and time are limited, so the failure
comes. After it the stream is over, and it stays over as long as the peer is silent.

## Main definitions

* `Peer.Closes`: The last thing that a peer does is closing its side.
* `Transport.BeforeEnd`: Some lines are to come, and then the end.
* `Transport.Over`: Everything was read, the end as well.
* `Transport.Polled`: What repeated collections give.
* `Transport.Later`: What happens without the peer.

## Theorems

* `meets_of_receive`: What one request meets in front of the end.
* `poll_collect`: What one collection gives in front of the end.
* `over_of_later`: A stream that is over stays over.
* `polled_until_closed`: Repeated collections give every line and then fail.
-/

namespace IrcHarness

open StreamItem (ofBytes leading)

/-- Lines that are messages, from what they say. -/
theorem MessageLine.exists_of_parses {parts : List (List UInt8)} {messages : List Message}
    (hclean : ∀ line ∈ parts, Line.isIn line = false)
    (h : parts.map Message.parseBytes = messages.map .ok) :
    ∃ lines : List MessageLine, lines.map bytes = parts ∧ lines.map message = messages := by
  induction parts generalizing messages with
  | nil =>
      have hnone : messages = [] := List.map_eq_nil_iff.1 h.symm
      exact ⟨[], rfl, hnone.symm⟩
  | cons part parts ih =>
      cases messages with
      | nil => exact absurd h (List.cons_ne_nil _ _)
      | cons m messages =>
          rw [List.map_cons, List.map_cons, List.cons.injEq] at h
          rcases ih (fun l hl => hclean l (List.mem_cons_of_mem part hl)) h.2 with
            ⟨lines, rfl, rfl⟩
          exact ⟨⟨part, m, hclean part List.mem_cons_self, h.1⟩ :: lines, rfl, rfl⟩

namespace StreamItem

/-- Bytes in front of an end decide where it stands. -/
theorem eq_of_ended_append {a b : List UInt8} {x y : List StreamItem}
    (h : ofBytes a ++ .ended :: x = ofBytes b ++ .ended :: y) : a = b ∧ x = y := by
  have hlead := congrArg leading h
  rw [leading_ofBytes_append, leading_ofBytes_append, leading, leading, List.append_nil,
    List.append_nil] at hlead
  subst hlead
  exact ⟨rfl, (List.cons.inj (List.append_cancel_left h)).2⟩

theorem not_mem_ofBytes {item : StreamItem} {bytes : List UInt8} (h : item ∈ ofBytes bytes) :
    ∃ b, item = .byte b := by
  rcases List.mem_map.1 h with ⟨b, _, rfl⟩
  exact ⟨b, rfl⟩

end StreamItem

namespace Peer

/-- The last thing that a peer does is closing its side, or it has done so. -/
def Closes (p : Peer) : Prop :=
  p.script.getLast? = some .close ∨ p.script = [] ∧ p.closed = true

theorem closes_tail {e : PeerEvent} {rest : List PeerEvent} {now now' : Nat}
    {closed closed' : Bool} (h : Closes ⟨e :: rest, now, closed⟩) (he : e ≠ .close) :
    Closes ⟨rest, now', closed'⟩ := by
  rcases h with hlast | ⟨hnil, _⟩
  · cases rest with
    | nil => exact absurd (Option.some.inj hlast) he
    | cons e' rest => exact .inl hlast
  · exact absurd hnil (List.cons_ne_nil e rest)

theorem closes_readScript (tokens : List String) (deadline : Nat) (closed : Bool) (now : Nat)
    (script : List PeerEvent) (h : Closes ⟨script, now, closed⟩) :
    (readScript tokens deadline closed now script).2.Closes := by
  induction script generalizing now with
  | nil =>
      have hclosed : closed = true := h.elim (fun hlast => by cases hlast) And.right
      rw [readScript, if_pos hclosed]
      exact .inr ⟨rfl, hclosed⟩
  | cons e rest ih =>
      cases e with
      | data t => exact closes_tail h PeerEvent.noConfusion
      | silence ms =>
          rw [readScript]
          have hrest : ∀ now', Closes ⟨rest, now', closed⟩ := fun now' =>
            closes_tail h PeerEvent.noConfusion
          by_cases hle : now + ms ≤ deadline
          · rw [if_pos hle]
            exact ih (now + ms) (hrest _)
          · rw [if_neg hle]
            -- What is left of the silence is in front, and the last event is the same.
            rcases h with hlast | ⟨hnil, _⟩
            · cases rest with
              | nil => exact absurd (Option.some.inj hlast) PeerEvent.noConfusion
              | cons e' rest => exact .inl hlast
            · exact absurd hnil (List.cons_ne_nil _ rest)
      | fault f => exact closes_tail h PeerEvent.noConfusion
      | close =>
          rw [readScript]
          cases rest with
          | nil => exact .inr ⟨rfl, rfl⟩
          | cons e' rest => exact .inl (h.elim id fun h => absurd h.1 (List.cons_ne_nil _ _))

theorem closes_read {tokens : List String} {deadline : Nat} {p p' : Peer} {r : Reading}
    (h : p.Closes) (hread : p.read tokens deadline = (r, p')) : p'.Closes := by
  have hkept := closes_readScript tokens (max p.now deadline) p.closed p.now p.script h
  rw [read] at hread
  rw [hread] at hkept
  exact hkept

theorem closes_waitUntil {p : Peer} (h : p.Closes) (moment : Nat) :
    (p.waitUntil moment).Closes := by
  unfold waitUntil
  split
  · next ms rest hscript =>
      rcases h with hlast | ⟨hnil, _⟩
      · rw [hscript] at hlast
        cases rest with
        | nil => exact absurd (Option.some.inj hlast) PeerEvent.noConfusion
        | cons e rest => exact .inl hlast
      · exact absurd (hscript.symm.trans hnil) (List.cons_ne_nil _ rest)
  · exact h

/-- A peer that closes its side and has nothing to send has closed it. -/
theorem Closes.over {p : Peer} (h : p.Closes) {tokens : List String} (hitems : p.items tokens = []) :
    p.script = [] ∧ p.closed = true := by
  refine h.resolve_left fun hlast => ?_
  have hend : StreamItem.ended ∈ p.items tokens :=
    List.mem_flatMap.2 ⟨.close, List.mem_of_getLast? hlast, List.mem_singleton_self _⟩
  rw [hitems] at hend
  exact absurd hend List.not_mem_nil

/-- A peer is over when all its silences have passed. -/
theorem doneAt_eq (p : Peer) : p.doneAt = p.now + (p.script.map PeerEvent.duration).sum := by
  rcases p with ⟨script, now, closed⟩
  induction script generalizing now with
  | nil => rfl
  | cons e rest ih =>
      rw [doneAt_cons, ih, List.map_cons, List.sum_cons]
      exact Nat.add_assoc ..

/-- How long a peer still takes. -/
def left (p : Peer) : Nat :=
  p.doneAt - p.now

/-- A peer does not take longer when time passes. -/
theorem left_waitUntil_le (p : Peer) (moment : Nat) : (p.waitUntil moment).left ≤ p.left := by
  simp only [left, doneAt_eq, Nat.add_sub_cancel_left]
  unfold waitUntil
  split
  · next ms rest hscript =>
      simp only [hscript, List.map_cons, List.sum_cons, PeerEvent.duration]
      omega
  · exact Nat.le_refl _

end Peer

namespace Framing

theorem closes_await (tokens : List String) (deadline : Nat) (f : Framing) {p : Peer}
    (hp : p.Closes) : (await tokens deadline f p).2.2.Closes := by
  fun_induction await tokens deadline f p with
  | case1 f p p' h => exact Peer.closes_read hp h
  | case2 f p e p' h => exact Peer.closes_read hp h
  | case3 f p p' h hc => exact Peer.closes_read hp h
  | case4 f p p' h hc arrival f' hd => exact Peer.closes_read hp h
  | case5 f p b bs p' h line buffer hpop => exact Peer.closes_read hp h
  | case6 f p b bs p' h buffer hpop ih => exact ih (Peer.closes_read hp h)

theorem closes_next (tokens : List String) (deadline : Nat) (f : Framing) {p : Peer}
    (hp : p.Closes) : (next tokens deadline f p).2.2.Closes := by
  unfold next
  split
  · exact hp
  · split
    · split
      · exact hp
      · split
        · exact hp
        · exact closes_await _ _ _ hp
    · exact closes_await _ _ _ hp

/-- A read without bytes finds the end when the buffer holds no line. -/
theorem await_of_ended {tokens : List String} {deadline : Nat} {f : Framing} {p p' : Peer}
    (hs : f.Sound) (hr : f.readable = false) (hread : p.read tokens deadline = (.bytes [], p')) :
    ∃ f', await tokens deadline f p = (.closed, f', p') := by
  rw [await]
  split
  · next heq => cases hread.symm.trans heq
  · next heq => cases hread.symm.trans heq
  · next q heq =>
      have hq : p' = q := congrArg Prod.snd (hread.symm.trans heq)
      rw [hq]
      by_cases hc : f.closed = true
      · exact ⟨f, by rw [if_pos hc]⟩
      · exact ⟨_, by rw [if_neg hc, hs.drain hr]⟩
  · next heq => cases hread.symm.trans heq

/-- An empty buffer and a read without bytes give the end. -/
theorem next_of_ended {tokens : List String} {deadline : Nat} {f : Framing} {p p' : Peer}
    (hs : f.Sound) (hempty : f.buffer.bytes = [])
    (hread : p.read tokens deadline = (.bytes [], p')) :
    ∃ f', next tokens deadline f p = (.closed, f', p') := by
  unfold next
  rw [if_neg (Bool.eq_false_iff.1 hs.unfaulted)]
  by_cases hr : f.readable = true
  · have hopen := hs.not_closed hr
    rw [if_pos hr, if_neg hopen]
    cases hpop : f.buffer.pop with
    | mk popped buffer =>
        cases popped with
        | some line =>
            -- No line comes out of an empty buffer.
            have hbytes := (LineBuffer.bytes_of_pop_some hs.searched hpop).1
            rw [hempty] at hbytes
            simp only [Line.ending, List.append_assoc, List.cons_append, List.nil_eq_append_iff,
              reduceCtorEq, and_false] at hbytes
        | none =>
            rcases LineBuffer.isIn_of_pop_none hs.searched hpop with ⟨-, hpart, hbuffer⟩
            exact await_of_ended (f := { f with buffer, readable := false })
              ⟨hs.unfaulted, hbuffer, fun _ => hpart, fun hc => absurd hc hopen⟩ rfl hread
  · rw [if_neg hr]
    exact await_of_ended hs (Bool.eq_false_iff.2 hr) hread

end Framing

namespace Transport

variable {t u v : Transport} {tail : List UInt8} {lines : List MessageLine} {limit : Nat}

/-- Some lines are to come, then the part of one more, and then the end. -/
structure BeforeEnd (tail : List UInt8) (lines : List MessageLine) (t : Transport) : Prop where
  /-- No read has failed. -/
  sound : t.framing.Sound
  /-- No message was left over. -/
  inbox : t.inbox = []
  /-- Nothing comes behind the end. -/
  closes : t.peer.Closes
  /-- The part is not a line. -/
  unfinished : Line.isIn tail = false
  /-- What is still to come. -/
  stream : t.ahead t.tokens = ofBytes (MessageLine.wire lines) ++ (ofBytes tail ++ [.ended])

/-- Everything was read, the end as well. -/
structure Over (t : Transport) : Prop where
  /-- No read has failed. -/
  sound : t.framing.Sound
  /-- No message was left over. -/
  inbox : t.inbox = []
  /-- No byte is unread. -/
  unread : t.unread = []
  /-- The peer has nothing to do. -/
  script : t.peer.script = []
  /-- It has closed its side. -/
  closed : t.peer.closed = true

section Step

theorem BeforeEnd.waitUntil (h : BeforeEnd tail lines t) (moment : Nat) :
    BeforeEnd tail lines (t.waitUntil moment) where
  sound := h.sound
  inbox := h.inbox
  closes := Peer.closes_waitUntil h.closes moment
  unfinished := h.unfinished
  stream := by
    rw [← h.stream]
    exact congrArg (ofBytes t.framing.buffer.bytes ++ ·) (Peer.items_waitUntil _ t.peer moment)

theorem BeforeEnd.not_isIn_leading (h : BeforeEnd tail lines t) :
    Line.isIn (leading (ofBytes tail ++ [.ended])) = false := by
  rw [StreamItem.leading_ofBytes_append]
  exact (congrArg Line.isIn (List.append_nil tail)).trans h.unfinished

/-- What one request meets in front of the end. -/
inductive Meets (tail : List UInt8) (lines : List MessageLine) (t : Transport) (deadline : Nat) :
    Arrival → Transport → Prop where
  /-- The first line. -/
  | line {line : MessageLine} {back : List MessageLine} {u : Transport}
      (hlines : lines = line :: back) (hleft : BeforeEnd tail back u)
      (hdone : u.peer.doneAt = t.peer.doneAt) : Meets tail lines t deadline (.line line.bytes) u
  /-- The end, behind the last line. -/
  | closed {u : Transport} (hlines : lines = []) (hover : Over u) :
      Meets tail lines t deadline .closed u
  /-- The peer is silent, and something comes later. -/
  | timedOut {u : Transport} (hleft : BeforeEnd tail lines u) (hwaits : u.peer.Waits)
      (hdone : u.peer.doneAt = t.peer.doneAt) (hnow : u.peer.now = max t.peer.now deadline) :
      Meets tail lines t deadline .timedOut u

theorem meets_of_receive (h : BeforeEnd tail lines t) {deadline : Nat} {a : Arrival}
    (hreceive : t.receive deadline = (a, u)) : Meets tail lines t deadline a u := by
  have hagree := agree_of_receive hreceive
  have hcloses : u.peer.Closes := by
    have hnext := Framing.closes_next t.tokens deadline t.framing h.closes
    unfold receive at hreceive
    rw [Prod.mk.injEq] at hreceive
    rw [← hreceive.2]
    exact hnext
  have hinbox : u.inbox = [] := hagree.inbox.trans h.inbox
  have hend : StreamItem.ended ∈ t.ahead t.tokens := by
    rw [h.stream]
    exact List.mem_append_right _ (List.mem_append_right _ (List.mem_singleton_self _))
  have hstream := h.stream
  cases serves_of_receive h.sound hreceive with
  | @line arrived _ _ hs hline hahead hdone =>
      cases lines with
      | nil =>
          have hpart : ofBytes tail ++ [.ended] = ofBytes (arrived ++ Line.ending) ++ _ :=
            hstream.symm.trans hahead
          exact absurd hpart (StreamItem.not_line_of_leading h.unfinished rfl)
      | cons line back =>
          rw [MessageLine.wire_cons, StreamItem.ofBytes_append, List.append_assoc] at hstream
          rcases line_of_receive h.sound line.clean hstream hreceive with ⟨rfl, -, -, hback⟩
          exact .line rfl ⟨hs, hinbox, hcloses, h.unfinished, hback⟩ hdone
  | @ended tail' _ _ hs htail hempty hahead =>
      -- What stands in front of the end is the tail, so no line does.
      have hsame : t.ahead t.tokens = ofBytes tail' ++ .ended :: u.peer.items t.tokens := hahead
      rw [hstream, ← List.append_assoc, ← StreamItem.ofBytes_append] at hsame
      rcases StreamItem.eq_of_ended_append hsame with ⟨rfl, hnone⟩
      rcases hcloses.over hnone.symm with ⟨hscript, hclosed⟩
      cases lines with
      | nil => exact .closed rfl ⟨hs, hinbox, hempty, hscript, hclosed⟩
      | cons line back =>
          rw [MessageLine.wire_cons, List.append_assoc, Line.isIn_append_ending] at htail
          exact Bool.noConfusion htail
  | stillEnded hs htail hempty hahead hscript =>
      have hbytes : t.ahead t.tokens = ofBytes _ := hahead
      rw [hbytes] at hend
      rcases StreamItem.not_mem_ofBytes hend with ⟨b, hb⟩
      exact StreamItem.noConfusion hb
  | @fault e _ _ hpart hahead =>
      -- There is no failure among the bytes and the end.
      have hfailed : StreamItem.failed e ∈ t.ahead t.tokens := by
        have hsame : t.ahead t.tokens = _ := hahead
        rw [hsame]
        exact List.mem_append_right _ List.mem_cons_self
      rw [hstream, ← List.append_assoc, ← StreamItem.ofBytes_append] at hfailed
      rcases List.mem_append.1 hfailed with hbyte | hlast
      · rcases StreamItem.not_mem_ofBytes hbyte with ⟨b, hb⟩
        exact StreamItem.noConfusion hb
      · exact StreamItem.noConfusion (List.mem_singleton.1 hlast)
  | timedOut hs hpart hahead hnow hlater =>
      have hsame : u.ahead u.tokens = t.ahead t.tokens := by
        rw [hagree.tokens]
        exact hahead
      rcases hlater with hnone | ⟨hwaits, hdone⟩
      · -- A peer with nothing to send would have been found closed.
        have hbytes : t.ahead t.tokens = ofBytes u.framing.buffer.bytes ++ [] := by
          rw [← hnone]
          exact hahead.symm
        rw [hbytes, List.append_nil] at hend
        rcases StreamItem.not_mem_ofBytes hend with ⟨b, hb⟩
        exact StreamItem.noConfusion hb
      · exact .timedOut ⟨hs, hinbox, hcloses, h.unfinished, hsame.trans hstream⟩ hwaits hdone hnow

end Step

section Collection

/-- What one collection gives in front of the end. -/
inductive Poll (tail : List UInt8) (lines : List MessageLine) (limit : Nat) (t : Transport) :
    Outcome (List MessageLine) → Transport → Prop where
  /-- It was early: it waited as long as it had to, and the peer was silent. -/
  | idle {u : Transport} (hleft : BeforeEnd tail lines u) (hwaits : u.peer.Waits)
      (hdone : u.peer.doneAt = t.peer.doneAt) (hnow : t.peer.now + t.readTimeout ≤ u.peer.now) :
      Poll tail lines limit t (.ok []) u
  /-- Some lines, in their order. -/
  | batch {line : MessageLine} {front back : List MessageLine} {u : Transport}
      (hlines : lines = line :: front ++ back) (hleft : BeforeEnd tail back u)
      (hdone : u.peer.doneAt = t.peer.doneAt) (hnow : t.peer.now ≤ u.peer.now) :
      Poll tail lines limit t (.ok (line :: front)) u
  /-- The end, behind the last line. -/
  | closed {u : Transport} (hlines : lines = []) (hover : Over u) :
      Poll tail lines limit t (.error .connectionClosed) u
  /-- The caller gave up before the peer had sent everything. -/
  | abandoned {u : Transport} (hearly : limit < t.peer.doneAt) :
      Poll tail lines limit t .abandoned u

/-- A collection that begins later gives no less. -/
theorem Poll.of_later {outcome : Outcome (List MessageLine)}
    (h : Poll tail lines limit v outcome u) (hdone : v.peer.doneAt = t.peer.doneAt)
    (hnow : t.peer.now ≤ v.peer.now) (htimeout : v.readTimeout = t.readTimeout) :
    Poll tail lines limit t outcome u := by
  cases h with
  | idle hleft hwaits hd hn => exact .idle hleft hwaits (hd.trans hdone) (by omega)
  | batch hlines hleft hd hn => exact .batch hlines hleft (hd.trans hdone) (by omega)
  | closed hlines hover => exact .closed hlines hover
  | abandoned hearly => exact .abandoned (hdone ▸ hearly)

/-- A collection that requires nothing gives lines, or nothing because it was
    early, or it finds the end behind the last line. -/
theorem poll_gather {r : Request} (htoken : r.token = none) (hqueued : r.queued = false)
    {taken : List Received} (htaken : taken = []) (h : BeforeEnd tail lines t) :
    ∃ outcome u, gather r taken t = (outcome.map (List.map MessageLine.received), u) ∧
      Poll tail lines r.limit t outcome u := by
  fun_induction gather r taken t with
  | case1 taken t hc =>
      simp only [Request.isComplete, hqueued, htaken, List.isEmpty_nil, Bool.not_true, Bool.or_self,
        Bool.and_false, Bool.false_and, Bool.false_eq_true] at hc
  | case2 taken t hc arrived t' hr t'' received hj ih =>
      have hnow := le_now_receive t (min (t.peer.now + t.readTimeout) r.limit)
      rw [hr] at hnow
      cases meets_of_receive h hr with
      | @line line back _ hlines hleft hdone =>
          rw [judge_of_no_token htoken, Judgement.keep.injEq] at hj
          subst hj
          -- The lines that the read has brought as well are there already.
          rcases gather_left (t := t'') htoken hleft.not_isIn_leading back
            (List.append_ne_nil_of_right_ne_nil taken (List.cons_ne_nil line.received []))
            hleft.sound hleft.stream with ⟨front, rest, w, hback, hgather, hs, hpeer, hstream⟩
          have hagree := agree_of_gather hgather
          refine ⟨.ok (line :: front), w, ?_, .batch (hlines.trans (congrArg _ hback)) ?_ ?_ ?_⟩
          · rw [hgather, htaken]
            rfl
          · refine ⟨hs, hagree.inbox.trans hleft.inbox, ?_, hleft.unfinished, hstream⟩
            rw [hpeer]
            exact hleft.closes
          · rw [hpeer]
            exact hdone
          · rw [hpeer]
            exact hnow
  | case3 taken t hc arrived t' hr t'' hj =>
      cases meets_of_receive h hr with
      | line hlines hleft hdone =>
          rw [judge_of_no_token htoken] at hj
          exact Judgement.noConfusion hj
  | case4 taken t hc arrived t' hr t'' e hj =>
      cases meets_of_receive h hr with
      | line hlines hleft hdone =>
          rw [judge_of_no_token htoken] at hj
          exact Judgement.noConfusion hj
  | case5 taken t hc t' hr =>
      cases meets_of_receive h hr with
      | closed hlines hover => exact ⟨.error .connectionClosed, t', rfl, .closed hlines hover⟩
  | case6 taken t hc f t' hr hf => cases meets_of_receive h hr
  | case7 taken t hc f t' hr hf => cases meets_of_receive h hr
  | case8 taken t hc t' hr hl =>
      cases meets_of_receive h hr with
      | timedOut hleft hwaits hdone hnow =>
          have hlt := hwaits.now_lt_doneAt
          exact ⟨.abandoned, t', rfl, .abandoned (by omega)⟩
  | case9 taken t hc t' hr hl he =>
      cases meets_of_receive h hr with
      | timedOut hleft hwaits hdone hnow =>
          refine ⟨.ok [], t', ?_, .idle hleft hwaits hdone (by omega)⟩
          rw [htaken]
          rfl
  | case10 taken t hc t' hr hl he ht ih =>
      cases meets_of_receive h hr with
      | timedOut hleft hwaits hdone hnow =>
          -- Half a line has come, and the other half is waited for.
          have hbegin : BeforeEnd tail lines (t'.note .trace "waiting") :=
            ⟨hleft.sound, hleft.inbox, hleft.closes, hleft.unfinished, hleft.stream⟩
          rcases ih htaken (hbegin.waitUntil _) with ⟨outcome, u, hgather, hpoll⟩
          have hlater := Peer.le_now_waitUntil t'.peer (t.peer.now + 1)
          refine ⟨outcome, u, hgather, hpoll.of_later ?_ ?_ ?_⟩
          · exact (Peer.doneAt_waitUntil hwaits (by omega)).trans hdone
          · exact Nat.le_trans (Nat.le_succ _) hlater
          · unfold readTimeout
            rw [((agree_of_receive hr).trans (agree_wait t' _)).settings]
  | case11 taken t hc t' hr hl he ht =>
      cases meets_of_receive h hr with
      | timedOut hleft hwaits hdone hnow =>
          have hlt := hwaits.now_lt_doneAt
          exact ⟨.abandoned, t', rfl, .abandoned (by omega)⟩

theorem poll_collect (h : BeforeEnd tail lines t) (limit : Nat) :
    ∃ outcome u, t.collect false false limit = (outcome.map (List.map MessageLine.message), u) ∧
      Poll tail lines limit t outcome u := by
  rcases poll_gather (r := ⟨none, false, false, false, limit⟩) rfl rfl rfl h with
    ⟨outcome, u, hgather, hpoll⟩
  have hlines : t.collectLines false false false false limit =
      (outcome.map (List.map MessageLine.received), u) := hgather
  refine ⟨outcome, u, ?_, hpoll⟩
  rw [collect_of_empty h.inbox, hlines]
  cases outcome with
  | ok batch => exact congrArg (fun ms => (Outcome.ok ms, u)) (MessageLine.filterMap_received batch)
  | error e => rfl
  | abandoned => rfl

theorem readTimeout_of_collect (hinbox : t.inbox = []) {outcome : Outcome (List Message)}
    (h : t.collect false false limit = (outcome, u)) : u.readTimeout = t.readTimeout := by
  have hagree := agree_gather ⟨none, false, false, false, limit⟩ [] t
  have hkept : u = (t.collect false false limit).2 := (congrArg Prod.snd h).symm
  rw [collect_of_empty hinbox] at hkept
  unfold readTimeout
  rw [hkept, ← hagree.settings]
  rfl

end Collection

section Afterwards

/-- Only the framing, the messages left over and the peer tell whether a stream
    is over. -/
theorem Over.of_eq (h : Over t) (hframing : u.framing = t.framing) (hinbox : u.inbox = t.inbox)
    (hpeer : u.peer = t.peer) : Over u := by
  refine ⟨hframing ▸ h.sound, hinbox.trans h.inbox, ?_, hpeer ▸ h.script, hpeer ▸ h.closed⟩
  exact (congrArg (fun f : Framing => f.buffer.bytes) hframing).trans h.unread

/-- A read of a stream that is over finds the end again. -/
theorem receive_of_over (h : Over t) (deadline : Nat) :
    ∃ u, t.receive deadline = (.closed, u) ∧ Over u := by
  have hread : t.peer.read t.tokens deadline = (.bytes [], t.peer) := by
    have hpeer : t.peer = ⟨[], t.peer.now, true⟩ := by
      rw [← h.script, ← h.closed]
    rw [hpeer]
    rfl
  rcases Framing.next_of_ended h.sound h.unread hread with ⟨f, hnext⟩
  have hreceive : t.receive deadline = (.closed, { t with framing := f }) := by
    unfold receive
    rw [hnext]
  refine ⟨_, hreceive, ?_⟩
  cases serves_of_receive h.sound hreceive with
  | ended hs htail hempty hahead => exact ⟨hs, h.inbox, hempty, h.script, h.closed⟩
  | stillEnded hs htail hempty hahead hscript => exact ⟨hs, h.inbox, hempty, h.script, h.closed⟩

theorem gather_of_over (h : Over t) {r : Request} (hqueued : r.queued = false) :
    ∃ u, gather r [] t = (.error .connectionClosed, u) ∧ Over u := by
  have hopen : ¬r.isComplete [] t.unread = true := by
    simp only [Request.isComplete, hqueued, List.isEmpty_nil, Bool.not_true, Bool.or_self,
      Bool.and_false, Bool.false_and, Bool.false_eq_true, not_false_eq_true]
  rcases receive_of_over h (r.deadline t) with ⟨u, hreceive, hover⟩
  exact ⟨u, gather_of_receive hopen hreceive, hover⟩

theorem collectLines_of_over (h : Over t) (synchronize required raw : Bool) (limit : Nat) :
    ∃ u, t.collectLines synchronize required false raw limit = (.error .connectionClosed, u) ∧
      Over u := by
  unfold collectLines
  by_cases hsync : synchronize = true
  · rw [if_pos hsync]
    rcases sendPing_cases t with ⟨u, hping⟩ | ⟨u, hping⟩
    · have hover : Over u := by
        rw [sendPing_eq hping]
        exact h.of_eq rfl rfl rfl
      rw [hping]
      exact gather_of_over hover rfl
    · -- The `PING` does not go out, which means the same.
      refine ⟨u, by rw [hping], ?_⟩
      rw [sendPing_eq hping]
      exact h.of_eq rfl rfl rfl
  · rw [if_neg hsync]
    exact gather_of_over h rfl

theorem collect_of_over (h : Over t) (synchronize required : Bool) (limit : Nat) :
    ∃ u, t.collect synchronize required limit = (.error .connectionClosed, u) ∧ Over u := by
  rcases collectLines_of_over h synchronize required false limit with ⟨u, hlines, hover⟩
  exact ⟨u, by rw [collect_of_empty h.inbox, hlines]; rfl, hover⟩

theorem over_after (h : Over t) (op : Operation) : Over (op.after t) := by
  cases op with
  | sendLine line =>
      rw [Operation.after, sendLine_eq]
      exact h.of_eq rfl rfl rfl
  | sendMessage m =>
      rw [Operation.after, sendMessage]
      split
      · exact h
      · rw [sendLine_eq]
        exact h.of_eq rfl rfl rfl
  | collect synchronize required limit =>
      rcases collect_of_over h synchronize required limit with ⟨u, hcollect, hover⟩
      rw [Operation.after, hcollect]
      exact hover
  | collectRaw synchronize required limit =>
      rcases collectLines_of_over h synchronize required true limit with ⟨u, hlines, hover⟩
      rw [Operation.after, collectRaw, hlines]
      exact hover
  | getOne filter synchronize limit state =>
      have hnone : firstAccepted filter state t.inbox = (none, state) := by rw [h.inbox]; rfl
      have hsame : Over { t with inbox := [] } := ⟨h.sound, rfl, h.unread, h.script, h.closed⟩
      rcases collectLines_of_over hsame synchronize true false limit with ⟨u, hlines, hover⟩
      rw [Operation.after, getOne_of_none hnone, hlines]
      exact hover

/-- What happens without the peer: calls are made, time passes, and writing
    starts or stops to work. -/
inductive Later (t : Transport) : Transport → Prop where
  /-- Nothing happens. -/
  | refl : Later t t
  /-- A call is made. -/
  | call {u : Transport} (h : Later t u) (op : Operation) : Later t (op.after u)
  /-- Time passes. -/
  | waitUntil {u : Transport} (h : Later t u) (moment : Nat) : Later t (u.waitUntil moment)
  /-- Writing starts or stops to work. -/
  | writes {u : Transport} (h : Later t u) (works : Bool) :
      Later t { u with outgoing := { u.outgoing with writable := works } }

/-- A stream that is over stays over as long as the peer sends nothing. -/
theorem over_of_later (h : Later t u) (hover : Over t) : Over u := by
  induction h with
  | refl => exact hover
  | call h op ih => exact over_after ih op
  | @waitUntil u h moment ih =>
      have hwait : u.peer.waitUntil moment = ⟨[], u.peer.now + (moment - u.peer.now), true⟩ := by
        simp only [Peer.waitUntil, ih.script, ih.closed]
      refine ⟨ih.sound, ih.inbox, ih.unread, ?_, ?_⟩
      · exact congrArg Peer.script hwait
      · exact congrArg Peer.closed hwait
  | writes h works ih => exact ih.of_eq rfl rfl rfl

end Afterwards

/-- What repeated collections give that require nothing, one batch behind the
    other, and how many they are. Time may pass in between. -/
inductive Polled (t : Transport) : Nat → List Message → Transport → Prop where
  /-- No collection. -/
  | none : Polled t 0 [] t
  /-- One more collection that gives a batch, perhaps an empty one. -/
  | collect {n : Nat} {u v : Transport} {got batch : List Message} {limit : Nat}
      (h : Polled t n got u) (hcollect : u.collect false false limit = (.ok batch, v)) :
      Polled t (n + 1) (got ++ batch) v
  /-- Time passes. -/
  | wait {n : Nat} {u : Transport} {got : List Message} (h : Polled t n got u) (moment : Nat) :
      Polled t n got (u.waitUntil moment)

section Repeated

variable {n : Nat} {got : List Message}

/-- Repeated collections give what the first lines say, and the others are still
    to come. Each one takes a line or some time. -/
theorem Polled.kept (h : Polled t n got v) (hbefore : BeforeEnd tail lines t) :
    ∃ front back, lines = front ++ back ∧ front.map MessageLine.message = got ∧
      BeforeEnd tail back v ∧ v.readTimeout = t.readTimeout ∧
      (0 < t.readTimeout → n + back.length + v.peer.left ≤ lines.length + t.peer.left) := by
  induction h with
  | none => exact ⟨[], lines, rfl, rfl, hbefore, rfl, fun _ => by omega⟩
  | @collect n u v got batch limit h hcollect ih =>
      rcases ih with ⟨front, back, rfl, hgot, hleft, htimeout, hcount⟩
      have hsettings := (readTimeout_of_collect hleft.inbox hcollect).trans htimeout
      rcases poll_collect hleft limit with ⟨outcome, w, hpolled, hpoll⟩
      rw [hcollect, Prod.mk.injEq] at hpolled
      rcases hpolled with ⟨hbatch, rfl⟩
      unfold Peer.left at hcount ⊢
      cases hpoll with
      | idle hleft' hwaits hdone hnow =>
          obtain rfl : batch = [] := Outcome.ok.inj hbatch
          have hlt := hwaits.now_lt_doneAt
          refine ⟨front, back, rfl, by rw [hgot, List.append_nil], hleft', hsettings, fun hpos => ?_⟩
          have hle := hcount hpos
          omega
      | @batch line next back' _ hlines hleft' hdone hnow =>
          obtain rfl : batch = (line :: next).map MessageLine.message := Outcome.ok.inj hbatch
          refine ⟨front ++ line :: next, back', ?_, ?_, hleft', hsettings, fun hpos => ?_⟩
          · rw [hlines, List.append_assoc]
          · rw [List.map_append, hgot]
          · have hle := hcount hpos
            simp only [hlines, List.length_append, List.length_cons] at hle ⊢
            omega
      | closed hlines hover => cases hbatch
      | abandoned hearly => cases hbatch
  | @wait n u got h moment ih =>
      rcases ih with ⟨front, back, hlines, hgot, hleft, htimeout, hcount⟩
      refine ⟨front, back, hlines, hgot, hleft.waitUntil moment, htimeout, fun hpos => ?_⟩
      exact Nat.le_trans (Nat.add_le_add_left (Peer.left_waitUntil_le u.peer moment) _)
        (hcount hpos)

/-- Repeated collections can go on until the end is found. -/
theorem Polled.exists_closed (h : Polled t n got v) (hbefore : BeforeEnd tail lines v) :
    ∃ m w x, Polled t m (got ++ lines.map MessageLine.message) w ∧
      w.collect false false w.peer.doneAt = (.error .connectionClosed, x) := by
  -- Each one takes a line, or some time once it was early.
  induction hmeasure : lines.length + v.peer.left using Nat.strong_induction_on
    generalizing n got v lines with
  | _ measure ih =>
      rcases poll_collect hbefore v.peer.doneAt with ⟨outcome, u, hcollect, hpoll⟩
      unfold Peer.left at hmeasure ih
      cases hpoll with
      | idle hleft hwaits hdone hnow =>
          have hlt := hwaits.now_lt_doneAt
          have hlater := Peer.le_now_waitUntil u.peer (u.peer.now + 1)
          have hsame := Peer.doneAt_waitUntil hwaits (Nat.le_refl (u.peer.now + 1))
          have hless : lines.length + (u.peer.waitUntil (u.peer.now + 1)).left < measure := by
            unfold Peer.left
            omega
          rcases ih _ hless ((h.collect hcollect).wait (u.peer.now + 1)) (hleft.waitUntil _) rfl
            with ⟨m, w, x, hall, hclosed⟩
          refine ⟨m, w, x, ?_, hclosed⟩
          rw [List.map_nil, List.append_nil] at hall
          exact hall
      | @batch line front back _ hlines hleft hdone hnow =>
          have hless : back.length + u.peer.left < measure := by
            rw [hlines, List.length_append, List.length_cons] at hmeasure
            unfold Peer.left
            omega
          rcases ih _ hless (h.collect hcollect) hleft rfl with ⟨m, w, x, hall, hclosed⟩
          refine ⟨m, w, x, ?_, hclosed⟩
          rw [hlines, List.map_append, ← List.append_assoc]
          exact hall
      | closed hlines hover =>
          refine ⟨n, v, u, ?_, hcollect⟩
          rw [hlines, List.map_nil, List.append_nil]
          exact h
      | abandoned hearly => exact absurd hearly (Nat.lt_irrefl _)

end Repeated

/-- A peer sends bytes whose complete lines are messages, cut and delayed in any
    way, and closes its side. What repeated collections have given is always a
    front of these messages, and nothing of an unfinished line. A further one
    gives more or nothing, or it finds the peer gone, which only happens when all
    messages were given, or it is abandoned before the peer has sent everything.
    Unless a read does not wait at all, there are not more of them than messages
    and milliseconds, and in any case the end can be found. Once it was found,
    every collection finds it again, whatever else is done and however much time
    passes, as long as the peer sends nothing. -/
theorem polled_until_closed (h : t.Undisturbed) (hinbox : t.inbox = []) (hcloses : t.peer.Closes)
    {bytes : List UInt8} (hahead : t.ahead t.tokens = ofBytes bytes ++ [.ended])
    {messages : List Message}
    (hparse : (Line.split bytes).1.map Message.parseBytes = messages.map .ok) :
    (∀ n got v, Polled t n got v →
      got <+: messages ∧
      (0 < t.readTimeout → n ≤ messages.length + (t.peer.doneAt - t.peer.now)) ∧
      ∀ limit,
        (∃ batch w, v.collect false false limit = (.ok batch, w)) ∨
        (got = messages ∧ ∃ w, v.collect false false limit = (.error .connectionClosed, w) ∧
          ∀ x, Later w x → ∀ synchronize required limit',
            (x.collect synchronize required limit').1 = .error .connectionClosed) ∨
        limit < v.peer.doneAt ∧ ∃ w, v.collect false false limit = (.abandoned, w)) ∧
    ∃ n v w, Polled t n messages v ∧
      v.collect false false v.peer.doneAt = (.error .connectionClosed, w) := by
  rcases Line.wire_split bytes with ⟨hwire, hunfinished, hclean⟩
  rcases MessageLine.exists_of_parses hclean hparse with ⟨lines, hlines, rfl⟩
  have hbefore : BeforeEnd (Line.split bytes).2 lines t := by
    refine ⟨h.sound, hinbox, hcloses, hunfinished, ?_⟩
    rw [hahead, ← List.append_assoc, ← StreamItem.ofBytes_append, MessageLine.wire, hlines, ← hwire]
  refine ⟨fun n got v hpolled => ?_, ?_⟩
  · rcases hpolled.kept hbefore with ⟨front, back, rfl, rfl, hleft, -, hcount⟩
    refine ⟨?_, fun hpos => ?_, fun limit => ?_⟩
    · rw [List.map_append]
      exact List.prefix_append _ _
    · have hle := hcount hpos
      rw [List.length_map]
      unfold Peer.left at hle
      omega
    · rcases poll_collect hleft limit with ⟨outcome, w, hcollect, hpoll⟩
      cases hpoll with
      | idle hleft' hwaits hdone hnow => exact .inl ⟨_, w, hcollect⟩
      | batch hfront hleft' hdone hnow => exact .inl ⟨_, w, hcollect⟩
      | closed hnone hover =>
          refine .inr (.inl ⟨by rw [hnone, List.append_nil], w, hcollect, ?_⟩)
          intro x hlater synchronize required limit'
          rcases collect_of_over (over_of_later hlater hover) synchronize required limit' with
            ⟨y, hclosed, -⟩
          rw [hclosed]
      | abandoned hearly => exact .inr (.inr ⟨hearly, w, hcollect⟩)
  · exact Polled.none.exists_closed hbefore

/-- The first ending comes in two reads with a silence of several timeouts between
    them, the second read brings a line and the part of another one, and the end
    comes late. -/
theorem polled_until_closed_cut_ending :
    ∃ n v w, Polled
        { Transport.initial "c" .initial fun _ => ⟨0, 0⟩ with
          peer := Peer.idle.willDo
            [.data [.literal (Utf8.ofString "NOTICE a :b\r")], .silence 2500,
              .data [.literal (Utf8.ofString "\nPING x\r\nPONG")], .silence 1200, .close] }
        n [⟨[], none, "NOTICE", ["a", "b"]⟩, ⟨[], none, "PING", ["x"]⟩] v ∧
      v.collect false false v.peer.doneAt = (.error .connectionClosed, w) := by
  have hundisturbed := Undisturbed.willDo (.initial "c" .initial fun _ => ⟨0, 0⟩)
    [.data [.literal (Utf8.ofString "NOTICE a :b\r")], .silence 2500,
      .data [.literal (Utf8.ofString "\nPING x\r\nPONG")], .silence 1200, .close]
  have hsplit : (Line.split (Utf8.ofString "NOTICE a :b\r\nPING x\r\nPONG")).1 =
      [Utf8.ofString "NOTICE a :b", Utf8.ofString "PING x"] := by cbv
  refine (@polled_until_closed _ hundisturbed rfl (.inl rfl)
    (Utf8.ofString "NOTICE a :b\r\nPING x\r\nPONG") (by decide +kernel) _ ?_).2
  rw [hsplit]
  cbv

end Transport

end IrcHarness
