import IrcHarness.Transport.Line
import IrcHarness.Transport.Peer

/-!
# Framing

Lines out of reads. One request for a line first looks into the buffer, when
the last read may have left a line there, and then reads until a line is
complete, the peer has closed its side, a read fails or time is up. However it
ends, the bytes without a line stay in the buffer for the next request.

Two rules outlive a request. When the peer has closed its side, the lines left
in the buffer are still handed out; once there is none, the tail is dropped
and the end is reported, and a later request reads again in case the peer goes
on after all. When a read has failed, the request after it reports the end
without reading, and only the one after that reads again.

## Main definitions

* `Framing`: The buffer and what the last read has left behind.
* `Arrival`: What a request for a line gives.
* `Framing.await`: Read until a line is complete.
* `Framing.next`: One request for a line.
* `Framing.feeds`: The line feeds that are still to come out.

## Theorems

* `feeds_next_lt`: A request that gives a line uses up a line feed.
* `feeds_next_le`: No request puts a line feed back.
* `le_now_next`: Time does not go back.
-/

namespace IrcHarness

/-- What one request for a line gives. -/
inductive Arrival where
  /-- A line without its ending. -/
  | line (bytes : List UInt8)
  /-- The end of the stream. -/
  | closed
  /-- A read that failed. -/
  | fault (f : Fault)
  /-- Nothing until the deadline. -/
  | timedOut
deriving DecidableEq, Repr

/-- What stands between reads and lines. -/
structure Framing where
  /-- The bytes that are not part of a line that was handed out. -/
  buffer : LineBuffer
  /-- Whether the last read may have left a line in the buffer. -/
  readable : Bool
  /-- Whether the last read brought no bytes. -/
  closed : Bool
  /-- Whether a read failed and the end was not reported after it. -/
  faulted : Bool
deriving DecidableEq, Repr

namespace Framing

/-- Nothing has been read. -/
def initial : Framing := ⟨.empty, false, false, false⟩

/-- The framing without the bytes of its buffer. -/
def discard (f : Framing) : Framing :=
  { f with buffer := f.buffer.discard }

/-- A line that is left in the buffer when the peer has closed its side, or
    the end. -/
def drain (f : Framing) : Arrival × Framing :=
  match f.buffer.popAtEnd with
  | (some line, buffer) => (.line line, { f with buffer, readable := true })
  | (none, buffer) => (.closed, { f with buffer, readable := false })

/-- Read until a line is complete. -/
def await (tokens : List String) (deadline : Nat) (f : Framing) (p : Peer) :
    Arrival × Framing × Peer :=
  match _h : p.read tokens deadline with
  | (.timedOut, p') => (.timedOut, f, p')
  | (.fault e, p') => (.fault e, { f with faulted := true }, p')
  | (.bytes [], p') =>
    if f.closed then (.closed, f, p')
    else
      let (arrival, f') := drain { f with closed := true }
      (arrival, f', p')
  | (.bytes (b :: bs), p') =>
    match (f.buffer.append (b :: bs)).pop with
    | (some line, buffer) =>
      (.line line, { f with buffer, readable := true, closed := false }, p')
    | (none, buffer) =>
      await tokens deadline { f with buffer, readable := false, closed := false } p'
termination_by p.script.length
decreasing_by exact Peer.length_read_lt_of_bytes _h

/-- One request for a line. -/
def next (tokens : List String) (deadline : Nat) (f : Framing) (p : Peer) :
    Arrival × Framing × Peer :=
  if f.faulted then (.closed, { f with faulted := false, readable := false }, p)
  else if f.readable then
    if f.closed then
      let (arrival, f') := drain f
      (arrival, f', p)
    else match f.buffer.pop with
      | (some line, buffer) => (.line line, { f with buffer }, p)
      | (none, buffer) => await tokens deadline { f with buffer, readable := false } p
  else await tokens deadline f p

/-- The line feeds that are still to come out, from the buffer and the peer. -/
def feeds (f : Framing) (p : Peer) : Nat :=
  Line.feeds f.buffer.bytes + p.feeds

theorem feeds_drain_le (f : Framing) (p : Peer) : feeds (drain f).2 p ≤ feeds f p := by
  simp only [drain]
  split
  · next line buffer h =>
      have := LineBuffer.feeds_lt_of_popAtEnd h
      simp only [feeds]
      omega
  · next buffer h =>
      -- There was no line, so what was left is dropped.
      rw [LineBuffer.eq_empty_of_popAtEnd_none h]
      simp [feeds, LineBuffer.empty, Line.feeds]

theorem feeds_drain_lt {f f' : Framing} {line : List UInt8} (p : Peer)
    (h : drain f = (.line line, f')) : feeds f' p < feeds f p := by
  simp only [drain] at h
  split at h
  · next l buffer hp =>
      have := LineBuffer.feeds_lt_of_popAtEnd hp
      simp only [Prod.mk.injEq] at h
      simp only [feeds, ← h.2]
      omega
  · simp at h

theorem feeds_await_le {tokens : List String} (ht : OneLine tokens) (deadline : Nat) (f : Framing)
    (p : Peer) :
    feeds (await tokens deadline f p).2.1 (await tokens deadline f p).2.2 ≤ feeds f p := by
  fun_induction await tokens deadline f p with
  | case1 f p p' h =>
      have := Peer.feeds_read ht deadline p
      simp only [h, Reading.feeds] at this
      simp only [feeds]
      omega
  | case2 f p e p' h =>
      have := Peer.feeds_read ht deadline p
      simp only [h, Reading.feeds] at this
      simp only [feeds]
      omega
  | case3 f p p' h hc =>
      have := Peer.feeds_read ht deadline p
      simp only [h, Reading.feeds] at this
      simp only [feeds]
      omega
  | case4 f p p' h hc arrival f' hd =>
      have hread := Peer.feeds_read ht deadline p
      have hle := feeds_drain_le { f with closed := true } p'
      simp only [h, Reading.feeds] at hread
      simp only [hd] at hle
      simp only [feeds] at hle ⊢
      omega
  | case5 f p b bs p' h line buffer hp =>
      have hread := Peer.feeds_read ht deadline p
      have hlt := LineBuffer.feeds_lt_of_pop hp
      simp only [h, Reading.feeds] at hread
      simp only [LineBuffer.append, Line.feeds_append] at hlt
      simp only [feeds]
      omega
  | case6 f p b bs p' h buffer hp ih =>
      have hread := Peer.feeds_read ht deadline p
      have hb := LineBuffer.bytes_of_pop_none hp
      simp only [h, Reading.feeds] at hread
      simp only [feeds, hb, LineBuffer.append, Line.feeds_append] at ih ⊢
      omega

theorem feeds_await_lt {tokens : List String} (ht : OneLine tokens) {deadline : Nat}
    {f f' : Framing} {p p' : Peer} {line : List UInt8}
    (h : await tokens deadline f p = (.line line, f', p')) : feeds f' p' < feeds f p := by
  fun_induction await tokens deadline f p with
  | case1 => simp at h
  | case2 => simp at h
  | case3 => simp at h
  | case4 f p q hr hc arrival g hd =>
      simp only [Prod.mk.injEq] at h
      rcases h with ⟨rfl, rfl, rfl⟩
      -- The line was in the buffer before the read.
      have hread := Peer.feeds_read ht deadline p
      have hlt := feeds_drain_lt q hd
      simp only [hr, Reading.feeds] at hread
      simp only [feeds] at hlt ⊢
      omega
  | case5 f p b bs q hr l buffer hp =>
      simp only [Prod.mk.injEq] at h
      rcases h with ⟨_, rfl, rfl⟩
      have hread := Peer.feeds_read ht deadline p
      have hlt := LineBuffer.feeds_lt_of_pop hp
      simp only [hr, Reading.feeds] at hread
      simp only [LineBuffer.append, Line.feeds_append] at hlt
      simp only [feeds]
      omega
  | case6 f p b bs q hr buffer hp ih =>
      have hread := Peer.feeds_read ht deadline p
      have hb := LineBuffer.bytes_of_pop_none hp
      have hlt := ih h
      simp only [hr, Reading.feeds] at hread
      simp only [feeds, hb, LineBuffer.append, Line.feeds_append] at hlt ⊢
      omega

/-- No request puts a line feed back. -/
theorem feeds_next_le {tokens : List String} (ht : OneLine tokens) (deadline : Nat) (f : Framing)
    (p : Peer) :
    feeds (next tokens deadline f p).2.1 (next tokens deadline f p).2.2 ≤ feeds f p := by
  simp only [next]
  split
  · exact Nat.le_refl _
  · split
    · split
      · exact feeds_drain_le f p
      · split
        · next line buffer h =>
            have := LineBuffer.feeds_lt_of_pop h
            simp only [feeds]
            omega
        · next buffer h =>
            have hle := feeds_await_le ht deadline { f with buffer, readable := false } p
            simp only [feeds, LineBuffer.bytes_of_pop_none h] at hle ⊢
            exact hle
    · exact feeds_await_le ht deadline f p

/-- A request that gives a line uses up a line feed. -/
theorem feeds_next_lt {tokens : List String} (ht : OneLine tokens) {deadline : Nat}
    {f f' : Framing} {p p' : Peer} {line : List UInt8}
    (h : next tokens deadline f p = (.line line, f', p')) : feeds f' p' < feeds f p := by
  simp only [next] at h
  split at h
  · simp at h
  · split at h
    · split at h
      · simp only [Prod.mk.injEq] at h
        rcases h with ⟨ha, rfl, rfl⟩
        exact feeds_drain_lt p (Prod.ext ha rfl)
      · split at h
        · next l buffer hp =>
            have := LineBuffer.feeds_lt_of_pop hp
            simp only [Prod.mk.injEq] at h
            rcases h with ⟨_, rfl, rfl⟩
            simp only [feeds]
            omega
        · next buffer hp =>
            have hlt := feeds_await_lt ht h
            simp only [feeds, LineBuffer.bytes_of_pop_none hp] at hlt ⊢
            exact hlt
    · exact feeds_await_lt ht h

theorem le_now_await (tokens : List String) (deadline : Nat) (f : Framing) (p : Peer) :
    p.now ≤ (await tokens deadline f p).2.2.now := by
  have hread : ∀ p : Peer, ∀ r : Reading × Peer, p.read tokens deadline = r →
      p.now ≤ r.2.now := by
    intro p r h
    rw [← h]
    exact Peer.le_now_read tokens deadline p
  fun_induction await tokens deadline f p with
  | case1 f p p' h => exact hread p _ h
  | case2 f p e p' h => exact hread p _ h
  | case3 f p p' h hc => exact hread p _ h
  | case4 f p p' h hc arrival f' hd => exact hread p _ h
  | case5 f p b bs p' h line buffer hp => exact hread p _ h
  | case6 f p b bs p' h buffer hp ih => exact Nat.le_trans (hread p _ h) ih

/-- Time does not go back. -/
theorem le_now_next (tokens : List String) (deadline : Nat) (f : Framing) (p : Peer) :
    p.now ≤ (next tokens deadline f p).2.2.now := by
  simp only [next]
  split
  · exact Nat.le_refl _
  · split
    · split
      · exact Nat.le_refl _
      · split
        · exact Nat.le_refl _
        · exact le_now_await ..
    · exact le_now_await ..

end Framing

end IrcHarness
