import IrcHarness.Proofs.Transport.Hangup
import IrcHarness.Proofs.Transport.Reports

/-!
# Attempts to Read a Line

When the buffer holds no line, a request for one makes reads. Those that complete
no line only fill the buffer, and the last one decides how the request ends: it
completes a line, it brings nothing until the deadline, it fails, or the stream has
ended. Where the buffer was searched and whether there may be a line in it makes no
difference, as long as no read has failed.

A read that completes a line leaves the transport as if the bytes had been there
before. The line is then taken off the buffer without a read, and so are the lines
behind it.

## Main definitions

* `Framing.Attempt`: The reads of one request and what the last one brings.
* `Framing.filled`: A framing with bytes that were just read.
* `Transport.Answers`: How a request ends, from its last read.

## Theorems

* `exists_attempt`: Every request that reads makes one attempt.
* `await_of_attempt`: The reads in front of the last one fill the buffer.
* `receive_of_attempt`: The last read decides how a request ends.
* `attempt_of_line`, `attempt_of_timedOut`: How a request ends tells what the last
  read brought.
-/

namespace IrcHarness

namespace LineBuffer

variable {b : LineBuffer}

/-- A buffer that holds a line gives one. -/
theorem pop_of_isIn (hb : b.Searched) (h : Line.isIn b.bytes = true) :
    ∃ line buffer, b.pop = (some line, buffer) := by
  cases hp : b.pop with
  | mk popped buffer =>
      cases popped with
      | some line => exact ⟨line, buffer, rfl⟩
      | none =>
          rcases isIn_of_pop_none hb hp with ⟨hbytes, hnone, -⟩
          rw [hbytes, h] at hnone
          cases hnone

/-- A buffer without a line gives none. -/
theorem pop_of_not_isIn (hb : b.Searched) (h : Line.isIn b.bytes = false) :
    ∃ buffer, b.pop = (none, buffer) := by
  cases hp : b.pop with
  | mk popped buffer =>
      cases popped with
      | none => exact ⟨buffer, rfl⟩
      | some line =>
          rw [(bytes_of_pop_some hb hp).1, Line.isIn_append_ending] at h
          cases h

end LineBuffer

namespace Framing

/-- The reads of one request that finds no line in the buffer. Each of them but the
    last one brings bytes that complete no line. The bytes in the buffer come first,
    then those in front of the last read, and then what this read brings. -/
inductive Attempt (tokens : List String) (deadline : Nat) :
    List UInt8 → Peer → List UInt8 → Reading → Peer → Prop where
  /-- The read is the last one. If it brings bytes, they complete a line. -/
  | last {bytes : List UInt8} {reading : Reading} {p p' : Peer}
      (hread : p.read tokens deadline = (reading, p'))
      (hlast : ∀ b bs, reading = .bytes (b :: bs) → Line.isIn (bytes ++ b :: bs) = true) :
      Attempt tokens deadline bytes p bytes reading p'
  /-- The read brings bytes that complete no line, and there is another one. -/
  | more {bytes bytes' bs : List UInt8} {b : UInt8} {reading : Reading} {p q p' : Peer}
      (hread : p.read tokens deadline = (.bytes (b :: bs), q))
      (hpart : Line.isIn (bytes ++ b :: bs) = false)
      (h : Attempt tokens deadline (bytes ++ b :: bs) q bytes' reading p') :
      Attempt tokens deadline bytes p bytes' reading p'

/-- The framing with bytes that were just read, before it is searched. -/
def filled (f : Framing) (bytes : List UInt8) : Framing :=
  { f with buffer := f.buffer.append bytes, readable := true, closed := false }

variable {tokens : List String} {deadline : Nat} {bytes front : List UInt8} {reading : Reading}
  {f : Framing} {p p' : Peer}

/-- An attempt takes nothing off the buffer. -/
theorem Attempt.prefix_front (h : Attempt tokens deadline bytes p front reading p') :
    bytes <+: front := by
  induction h with
  | last => exact List.prefix_refl _
  | more hread hpart h ih => exact (List.prefix_append _ _).trans ih

/-- In front of its last read no line is complete. -/
theorem Attempt.not_isIn (h : Attempt tokens deadline bytes p front reading p')
    (hin : Line.isIn bytes = false) : Line.isIn front = false := by
  induction h with
  | last => exact hin
  | more hread hpart h ih => exact ih hpart

/-- If the last read brings bytes, one is complete behind it. -/
theorem Attempt.isIn {b : UInt8} {bs : List UInt8}
    (h : Attempt tokens deadline bytes p front (.bytes (b :: bs)) p') :
    Line.isIn (front ++ b :: bs) = true := by
  generalize hreading : Reading.bytes (b :: bs) = reading at h
  induction h with
  | last hread hlast => exact hlast b bs hreading.symm
  | more hread hpart h ih => exact ih hreading

/-- An attempt that leaves the buffer empty consists of one read. -/
theorem Attempt.read_of_nil (h : Attempt tokens deadline bytes p front reading p')
    (hnil : front = []) : bytes = [] ∧ p.read tokens deadline = (reading, p') := by
  cases h with
  | last hread hlast => exact ⟨hnil, hread⟩
  | more hread hpart h =>
      have hempty := List.eq_nil_of_prefix_nil (hnil ▸ h.prefix_front)
      exact absurd hempty (List.append_ne_nil_of_right_ne_nil _ (List.cons_ne_nil _ _))

theorem Sound.filled (hs : f.Sound) (bytes : List UInt8) : (f.filled bytes).Sound :=
  ⟨hs.unfaulted, LineBuffer.searched_append hs.searched bytes, fun h => Bool.noConfusion h,
    fun h => Bool.noConfusion h⟩

/-- What one read does to a request that awaits a line. -/
theorem await_of_read (hread : p.read tokens deadline = (reading, p')) :
    await tokens deadline f p =
      match reading with
      | .timedOut => (.timedOut, f, p')
      | .fault e => (.fault e, { f with faulted := true }, p')
      | .bytes [] =>
        if f.closed then (.closed, f, p')
        else ((drain { f with closed := true }).1, (drain { f with closed := true }).2, p')
      | .bytes (b :: bs) =>
        match (f.buffer.append (b :: bs)).pop with
        | (some line, buffer) =>
          (.line line, { f with buffer, readable := true, closed := false }, p')
        | (none, buffer) =>
          await tokens deadline { f with buffer, readable := false, closed := false } p' := by
  rw [await]
  split <;> next heq =>
    rw [hread] at heq
    cases heq
    rfl

/-- Every request that reads makes one attempt. -/
theorem exists_attempt (tokens : List String) (deadline : Nat) (bytes : List UInt8) (p : Peer) :
    ∃ front reading p', Attempt tokens deadline bytes p front reading p' := by
  cases hread : p.read tokens deadline with
  | mk reading q =>
      by_cases hpart : ∃ b bs, reading = .bytes (b :: bs) ∧ Line.isIn (bytes ++ b :: bs) = false
      · rcases hpart with ⟨b, bs, rfl, hpart⟩
        rcases exists_attempt tokens deadline (bytes ++ b :: bs) q with ⟨front, last, p', h⟩
        exact ⟨front, last, p', .more hread hpart h⟩
      · refine ⟨bytes, reading, q, .last hread fun b bs hbytes => ?_⟩
        by_contra hin
        exact hpart ⟨b, bs, hbytes, Bool.eq_false_iff.2 hin⟩
termination_by p.script.length
decreasing_by
  -- Each read that brings bytes takes an event off the script.
  subst_vars
  exact Peer.length_read_lt_of_bytes hread

/-- The reads in front of the last one fill the buffer, and do nothing else. -/
theorem await_of_attempt (h : Attempt tokens deadline bytes p front reading p') (hs : f.Sound)
    (hr : f.readable = false) (hbytes : f.buffer.bytes = bytes) :
    ∃ g q, g.Sound ∧ g.readable = false ∧ g.buffer.bytes = front ∧
      q.read tokens deadline = (reading, p') ∧
      (∀ b bs, reading = .bytes (b :: bs) → Line.isIn (front ++ b :: bs) = true) ∧
      await tokens deadline f p = await tokens deadline g q := by
  induction h generalizing f with
  | @last bytes reading p p' hread hlast =>
      exact ⟨f, p, hs, hr, hbytes, hread, hlast, rfl⟩
  | @more bytes bytes' bs b reading p q p' hread hpart h ih =>
      have hnone : Line.isIn (f.buffer.append (b :: bs)).bytes = false := by
        rw [LineBuffer.append, hbytes]
        exact hpart
      have hsearched := LineBuffer.searched_append hs.searched (b :: bs)
      rcases LineBuffer.pop_of_not_isIn hsearched hnone with ⟨buffer, hpop⟩
      have hfilled : buffer.bytes = bytes ++ b :: bs := by
        rw [LineBuffer.bytes_of_pop_none hpop, LineBuffer.append, hbytes]
      rcases ih (hs.append hpop) rfl hfilled with ⟨g, w, hg, hgr, hfront, hlast, hline, hawait⟩
      refine ⟨g, w, hg, hgr, hfront, hlast, hline, ?_⟩
      rw [← hawait, await_of_read hread]
      simp only [hpop]

/-- Only the last read can have left a line. -/
theorem Sound.readable_of_isIn (hs : f.Sound) (h : Line.isIn f.buffer.bytes = true) :
    f.readable = true := by
  by_contra hr
  rw [hs.partly (Bool.eq_false_iff.2 hr)] at h
  exact Bool.false_ne_true h

/-- A line that the buffer holds is given without a read. -/
theorem next_of_pop (hs : f.Sound) (hr : f.readable = true) {line : List UInt8}
    {buffer : LineBuffer} (hpop : f.buffer.pop = (some line, buffer)) :
    next tokens deadline f p = (.line line, { f with buffer }, p) := by
  rw [next, if_neg (Bool.eq_false_iff.1 hs.unfaulted), if_pos hr, if_neg (hs.not_closed hr), hpop]

theorem Sound.not_meets (hs : f.Sound) (h : Line.isIn f.buffer.bytes = true) (reading : Reading) :
    ¬f.Meets tokens deadline p reading := by
  rcases LineBuffer.pop_of_isIn hs.searched h with ⟨line, buffer, hpop⟩
  exact not_meets_of_left (hs.readable_of_isIn h) (.inr ⟨line, buffer, hpop⟩)

/-- Without a line in the buffer a request awaits one. -/
theorem next_of_not_isIn (hs : f.Sound) (h : Line.isIn f.buffer.bytes = false)
    (tokens : List String) (deadline : Nat) (p : Peer) :
    ∃ g, g.Sound ∧ g.readable = false ∧ g.buffer.bytes = f.buffer.bytes ∧
      next tokens deadline f p = await tokens deadline g p := by
  unfold next
  rw [if_neg (Bool.eq_false_iff.1 hs.unfaulted)]
  by_cases hr : f.readable = true
  · rcases LineBuffer.pop_of_not_isIn hs.searched h with ⟨buffer, hpop⟩
    rcases LineBuffer.isIn_of_pop_none hs.searched hpop with ⟨hbytes, hnone, hsearched⟩
    refine ⟨{ f with buffer, readable := false }, ⟨hs.unfaulted, hsearched, fun _ => hnone,
      fun hc => absurd hc (hs.not_closed hr)⟩, rfl, hbytes, ?_⟩
    rw [if_pos hr, if_neg (hs.not_closed hr), hpop]
  · exact ⟨f, hs, Bool.eq_false_iff.2 hr, rfl, if_neg hr⟩

end Framing

namespace Transport

/-- How a request ends that finds no line in the buffer, from the bytes in front of
    its last read, from what this read brings, and from the peer behind it. -/
inductive Answers (t : Transport) (front : List UInt8) :
    Reading → Peer → Arrival × Transport → Prop where
  /-- The read completes a line. The request answers as if the bytes had been there
      before. -/
  | line {b : UInt8} {bs line : List UInt8} {p : Peer} {g : Framing} {u : Transport} (hs : g.Sound)
      (hfront : g.buffer.bytes = front)
      (hline : ∀ moment, { t with framing := g.filled (b :: bs), peer := p }.receive moment =
        (.line line, u)) : Answers t front (.bytes (b :: bs)) p (.line line, u)
  /-- The stream has ended. -/
  | closed {p : Peer} {u : Transport} : Answers t front (.bytes []) p (.closed, u)
  /-- The read fails. -/
  | fault {e : Fault} {p : Peer} {u : Transport} : Answers t front (.fault e) p (.fault e, u)
  /-- Nothing comes until the deadline, and the bytes stay. -/
  | timedOut {p : Peer} {g : Framing} (hs : g.Sound) (hfront : g.buffer.bytes = front) :
      Answers t front .timedOut p (.timedOut, { t with framing := g, peer := p })

variable {t : Transport} {deadline : Nat} {front : List UInt8} {reading : Reading} {p : Peer}

/-- The last read of an attempt decides how the request ends. -/
theorem receive_of_attempt (hs : t.framing.Sound) (hin : Line.isIn t.unread = false)
    (h : Framing.Attempt t.tokens deadline t.unread t.peer front reading p) :
    Answers t front reading p (t.receive deadline) := by
  rcases Framing.next_of_not_isIn hs hin t.tokens deadline t.peer with
    ⟨f, hf, hr, hbytes, hnext⟩
  rcases Framing.await_of_attempt h hf hr hbytes with
    ⟨g, q, hg, hgr, hfront, hread, hlast, hawait⟩
  rw [hawait, Framing.await_of_read hread] at hnext
  unfold receive
  rw [hnext]
  cases reading with
  | timedOut => exact .timedOut hg hfront
  | fault e => exact .fault
  | bytes bs =>
      cases bs with
      | nil =>
          by_cases hc : g.closed = true
          · simp only [if_pos hc]
            exact .closed
          · simp only [if_neg hc, hg.drain hgr]
            exact .closed
      | cons b bs =>
          have hline : Line.isIn (g.filled (b :: bs)).buffer.bytes = true := by
            rw [Framing.filled, LineBuffer.append, hfront]
            exact hlast b bs rfl
          rcases LineBuffer.pop_of_isIn (hg.filled (b :: bs)).searched hline with
            ⟨line, buffer, hpop⟩
          have hfilled : (g.buffer.append (b :: bs)).pop = (some line, buffer) := hpop
          simp only [hfilled]
          refine .line hg hfront fun moment => ?_
          -- The same line is taken off the buffer without a read.
          unfold receive
          rw [Framing.next_of_pop (hg.filled (b :: bs)) rfl hpop]
          rfl

/-- An attempt that completes a line gives it, and bytes that are there from the
    start give the same line. -/
theorem receive_of_completed (hs : t.framing.Sound) (hin : Line.isIn t.unread = false) {b : UInt8}
    {bs : List UInt8}
    (h : Framing.Attempt t.tokens deadline t.unread t.peer front (.bytes (b :: bs)) p) :
    ∃ line, ∃ g : Framing, ∃ u, t.receive deadline = (.line line, u) ∧ g.Sound ∧
      g.buffer.bytes = front ∧ ∀ moment,
        { t with framing := g.filled (b :: bs), peer := p }.receive moment = (.line line, u) := by
  have hanswers := receive_of_attempt hs hin h
  generalize t.receive deadline = result at hanswers
  cases hanswers with
  | line hg hfront hline => exact ⟨_, _, _, rfl, hg, hfront, hline⟩

/-- An attempt in vain leaves the bytes that it has read. -/
theorem receive_of_vain (hs : t.framing.Sound) (hin : Line.isIn t.unread = false)
    (h : Framing.Attempt t.tokens deadline t.unread t.peer front .timedOut p) :
    ∃ g : Framing, g.Sound ∧ g.buffer.bytes = front ∧
      t.receive deadline = (.timedOut, { t with framing := g, peer := p }) := by
  have hanswers := receive_of_attempt hs hin h
  generalize t.receive deadline = result at hanswers
  cases hanswers with
  | timedOut hg hfront => exact ⟨_, hg, hfront, rfl⟩

/-- A request that finds no line gives one only behind a read that completes it. -/
theorem attempt_of_line (hs : t.framing.Sound) (hin : Line.isIn t.unread = false)
    {line : List UInt8} {u : Transport} (h : t.receive deadline = (.line line, u)) :
    ∃ front b bs p,
      Framing.Attempt t.tokens deadline t.unread t.peer front (.bytes (b :: bs)) p := by
  rcases Framing.exists_attempt t.tokens deadline t.unread t.peer with ⟨front, reading, p, hattempt⟩
  have hanswers := receive_of_attempt hs hin hattempt
  rw [h] at hanswers
  cases hanswers with
  | line => exact ⟨front, _, _, p, hattempt⟩

/-- It gives nothing until the deadline only when its last read does. -/
theorem attempt_of_timedOut (hs : t.framing.Sound) (hin : Line.isIn t.unread = false)
    {u : Transport} (h : t.receive deadline = (.timedOut, u)) :
    Framing.Attempt t.tokens deadline t.unread t.peer u.unread .timedOut u.peer := by
  rcases Framing.exists_attempt t.tokens deadline t.unread t.peer with ⟨front, reading, p, hattempt⟩
  have hanswers := receive_of_attempt hs hin hattempt
  rw [h] at hanswers
  cases hanswers with
  | timedOut hg hfront =>
      rw [← hfront] at hattempt
      exact hattempt

end Transport

end IrcHarness
