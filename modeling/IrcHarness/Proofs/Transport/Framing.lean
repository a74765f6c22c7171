import IrcHarness.Proofs.Transport.Stream
import IrcHarness.Transport.Framing

/-!
# Lines off a Stream

As long as no read has failed, the framing stands between the stream and the
lines without a trace: the bytes of the buffer and the items of the peer make
one stream, and a request takes the first line off it, however it is cut and
wherever the search of the buffer stands. A request without a line finds that
the bytes in front of the next end or failure hold none.

The invariant is that the buffer holds no complete line in the part searched,
that it holds none at all unless the last read may have left one, and that
nothing is left in it once the end was reported.

## Main definitions

* `Framing.Sound`: What holds as long as no read has failed.
* `Framing.ahead`: The stream, with the bytes that were read already.
* `Framing.Serves`: What one request for a line does.

## Theorems

* `serves_next`: Every request is one of those that `Framing.Serves` lists.
* `Serves.sound`: Only a failed read breaks the invariant.
-/

namespace IrcHarness

open StreamItem (ofBytes)

/-- Whether a read failed. -/
def Arrival.isFault : Arrival → Bool
  | fault _ => true
  | line _ | closed | timedOut => false

namespace Framing

/-- What holds of a framing as long as no read has failed. -/
structure Sound (f : Framing) : Prop where
  /-- No failure is waiting to be followed by an end. -/
  unfaulted : f.faulted = false
  /-- No line is complete where the buffer was searched. -/
  searched : f.buffer.Searched
  /-- The buffer holds a line only if the last read may have left one. -/
  partly : f.readable = false → Line.isIn f.buffer.bytes = false
  /-- Nothing is left once the end was reported. -/
  ended : f.closed = true → f.readable = false ∧ f.buffer.bytes = []

/-- What is still to come, the bytes that were read already in front. -/
def ahead (tokens : List String) (f : Framing) (p : Peer) : List StreamItem :=
  ofBytes f.buffer.bytes ++ p.items tokens

/-- What one request for a line does, unless a read failed before. -/
inductive Serves (tokens : List String) (deadline : Nat) (f : Framing) (p : Peer) :
    Arrival → Framing → Peer → Prop where
  /-- The first line is taken off the stream. -/
  | line {line : List UInt8} {f' : Framing} {p' : Peer} (hs : f'.Sound)
      (hline : Line.isIn line = false)
      (hahead : f.ahead tokens p = ofBytes (line ++ Line.ending) ++ f'.ahead tokens p')
      (hover : p'.doneAt = p.doneAt) : Serves tokens deadline f p (.line line) f' p'
  /-- The end is taken off the stream, and the bytes without a line with it. -/
  | ended {tail : List UInt8} {f' : Framing} {p' : Peer} (hs : f'.Sound)
      (htail : Line.isIn tail = false) (hempty : f'.buffer.bytes = [])
      (hahead : f.ahead tokens p = ofBytes tail ++ .ended :: p'.items tokens) :
      Serves tokens deadline f p .closed f' p'
  /-- The stream ended before, and nothing came since. -/
  | stillEnded {tail : List UInt8} {f' : Framing} {p' : Peer} (hs : f'.Sound)
      (htail : Line.isIn tail = false) (hempty : f'.buffer.bytes = [])
      (hahead : f.ahead tokens p = ofBytes tail) (hscript : p'.script = []) :
      Serves tokens deadline f p .closed f' p'
  /-- A failure is taken off the stream, the bytes in front of it stay. -/
  | fault {e : Fault} {f' : Framing} {p' : Peer} (hpart : Line.isIn f'.buffer.bytes = false)
      (hahead : f.ahead tokens p = ofBytes f'.buffer.bytes ++ .failed e :: p'.items tokens) :
      Serves tokens deadline f p (.fault e) f' p'
  /-- No line is complete, and something comes later or nothing ever. -/
  | timedOut {f' : Framing} {p' : Peer} (hs : f'.Sound)
      (hpart : Line.isIn f'.buffer.bytes = false)
      (hahead : f'.ahead tokens p' = f.ahead tokens p) (hnow : p'.now = max p.now deadline)
      (hlater : p'.items tokens = [] ∨ p'.Waits ∧ p'.doneAt = p.doneAt) :
      Serves tokens deadline f p .timedOut f' p'

/-- A framing that may hold a line has not reported the end. -/
theorem Sound.not_closed {f : Framing} (hs : f.Sound) (hr : f.readable = true) :
    ¬f.closed = true := fun hc =>
  Bool.false_ne_true ((hs.ended hc).1.symm.trans hr)

theorem sound_initial : initial.Sound :=
  ⟨rfl, LineBuffer.searched_empty, fun _ => rfl, fun h => absurd h (by decide)⟩

/-- Bytes are put behind a buffer without a line. -/
theorem Sound.append {f : Framing} (hs : f.Sound) {bs : List UInt8} {buffer : LineBuffer}
    (h : (f.buffer.append bs).pop = (none, buffer)) :
    Sound { f with buffer, readable := false, closed := false } := by
  have hpop := LineBuffer.isIn_of_pop_none (LineBuffer.searched_append hs.searched bs) h
  exact ⟨hs.unfaulted, hpop.2.2, fun _ => hpop.2.1, fun h => Bool.noConfusion h⟩

/-- A buffer without a line has nothing to drain but its tail. -/
theorem Sound.drain {f : Framing} (hs : f.Sound) (hr : f.readable = false) :
    drain { f with closed := true } =
      (.closed, { f with buffer := .empty, readable := false, closed := true }) := by
  have hcut := (Line.isIn_eq_false_iff f.buffer.bytes).1 (hs.partly hr)
  have hpop := LineBuffer.pop_of_searched hs.searched
  rw [hcut] at hpop
  simp only [Framing.drain, LineBuffer.popAtEnd, hpop]

theorem Serves.of_eq {tokens : List String} {deadline : Nat} {f g : Framing} {p q : Peer}
    (hahead : g.ahead tokens q = f.ahead tokens p) (hover : q.doneAt = p.doneAt)
    (hnow : max q.now deadline = max p.now deadline) {a : Arrival} {f' : Framing} {p' : Peer}
    (h : Serves tokens deadline f p a f' p') : Serves tokens deadline g q a f' p' := by
  cases h with
  | line hs hl ha ho => exact .line hs hl (hahead.trans ha) (ho.trans hover.symm)
  | ended hs ht he ha => exact .ended hs ht he (hahead.trans ha)
  | stillEnded hs ht he ha hi => exact .stillEnded hs ht he (hahead.trans ha) hi
  | fault hp ha => exact .fault hp (hahead.trans ha)
  | timedOut hs hp ha hn hl =>
      refine .timedOut hs hp (ha.trans hahead.symm) (hn.trans hnow.symm) ?_
      rw [hover]
      exact hl

theorem serves_await {tokens : List String} {deadline : Nat} {f : Framing} {p : Peer}
    (hs : f.Sound) (hr : f.readable = false) :
    Serves tokens deadline f p (await tokens deadline f p).1 (await tokens deadline f p).2.1
      (await tokens deadline f p).2.2 := by
  fun_induction await tokens deadline f p with
  | case1 f p p' h =>
      cases Peer.reads_of_read h with
      | timedOut hi hn hl =>
          refine .timedOut hs (hs.partly hr) ?_ hn ?_
          · rw [ahead, hi]
            rfl
          · rw [hi]
            exact hl
  | case2 f p e p' h =>
      cases Peer.reads_of_read h with
      | fault hi => exact .fault (hs.partly hr) (congrArg (ofBytes f.buffer.bytes ++ ·) hi)
  | case3 f p p' h hc =>
      -- The end was reported before, so the buffer is empty.
      have hempty := (hs.ended hc).2
      cases Peer.reads_of_read h with
      | ended hi ho =>
          exact .ended hs (hs.partly hr) hempty (congrArg (ofBytes f.buffer.bytes ++ ·) hi)
      | stillEnded hcl hi hscript hcl' =>
          refine .stillEnded hs (hs.partly hr) hempty ?_ hscript
          rw [ahead, hi, List.append_nil]
  | case4 f p p' h hc arrival f' hd =>
      have hend := hs.drain hr
      rw [hd, Prod.mk.injEq] at hend
      rcases hend with ⟨rfl, rfl⟩
      have hs' : Sound { f with buffer := .empty, readable := false, closed := true } :=
        ⟨hs.unfaulted, LineBuffer.searched_empty, fun _ => rfl, fun _ => ⟨rfl, rfl⟩⟩
      cases Peer.reads_of_read h with
      | ended hi ho =>
          exact .ended hs' (hs.partly hr) rfl (congrArg (ofBytes f.buffer.bytes ++ ·) hi)
      | stillEnded hcl hi hscript hcl' =>
          refine .stillEnded hs' (hs.partly hr) rfl ?_ hscript
          rw [ahead, hi, List.append_nil]
  | case5 f p b bs p' h line buffer hp =>
      cases Peer.reads_of_read h with
      | bytes hi ho hn hopen =>
          have hsearched := LineBuffer.searched_append hs.searched (b :: bs)
          rcases LineBuffer.bytes_of_pop_some hsearched hp with ⟨hbytes, hline, hbuffer⟩
          refine .line ⟨hs.unfaulted, hbuffer, ?_, ?_⟩ hline ?_ ho
          · exact fun h => Bool.noConfusion h
          · exact fun h => Bool.noConfusion h
          · -- What the buffer and the read bring is the line and what is left.
            simp only [LineBuffer.append] at hbytes
            rw [ahead, hi, ← List.append_assoc, ← StreamItem.ofBytes_append, hbytes,
              StreamItem.ofBytes_append, List.append_assoc, ahead]
  | case6 f p b bs p' h buffer hp ih =>
      have hle := Peer.le_now_read tokens deadline p
      rw [h] at hle
      cases Peer.reads_of_read h with
      | bytes hi ho hn hopen =>
          have hbytes := LineBuffer.bytes_of_pop_none hp
          refine Serves.of_eq ?_ ho.symm ?_ (ih (hs.append hp) rfl)
          · rw [ahead, hi, ahead, hbytes, LineBuffer.append, StreamItem.ofBytes_append,
              List.append_assoc]
          · have hle' : p.now ≤ p'.now := hle
            omega

theorem serves_next {f : Framing} (hs : f.Sound) (tokens : List String) (deadline : Nat)
    (p : Peer) :
    Serves tokens deadline f p (next tokens deadline f p).1 (next tokens deadline f p).2.1
      (next tokens deadline f p).2.2 := by
  unfold next
  rw [if_neg (by rw [hs.unfaulted]; decide)]
  by_cases hr : f.readable = true
  · have hopen := hs.not_closed hr
    rw [if_pos hr, if_neg hopen]
    cases hp : f.buffer.pop with
    | mk popped buffer =>
        cases popped with
        | some line =>
            -- The line is in the buffer already.
            rcases LineBuffer.bytes_of_pop_some hs.searched hp with ⟨hbytes, hline, hbuffer⟩
            refine .line ⟨hs.unfaulted, hbuffer, ?_, ?_⟩ hline ?_ rfl
            · exact fun h => absurd (hr.symm.trans h) (by decide)
            · exact fun h => absurd h hopen
            · rw [ahead, hbytes, StreamItem.ofBytes_append, List.append_assoc, ahead]
        | none =>
            rcases LineBuffer.isIn_of_pop_none hs.searched hp with ⟨hbytes, hpart, hbuffer⟩
            have hs' : Sound { f with buffer, readable := false } :=
              ⟨hs.unfaulted, hbuffer, fun _ => hpart, fun h => absurd h hopen⟩
            refine Serves.of_eq ?_ rfl rfl (serves_await hs' rfl)
            rw [ahead, ahead, hbytes]
  · rw [if_neg hr]
    exact serves_await hs (Bool.eq_false_iff.2 hr)

theorem items_suffix_await (tokens : List String) (deadline : Nat) (f : Framing) (p : Peer) :
    (await tokens deadline f p).2.2.items tokens <:+ p.items tokens := by
  fun_induction await tokens deadline f p with
  | case1 f p p' h => exact (Peer.reads_of_read h).items_suffix
  | case2 f p e p' h => exact (Peer.reads_of_read h).items_suffix
  | case3 f p p' h hc => exact (Peer.reads_of_read h).items_suffix
  | case4 f p p' h hc arrival f' hd => exact (Peer.reads_of_read h).items_suffix
  | case5 f p b bs p' h line buffer hp => exact (Peer.reads_of_read h).items_suffix
  | case6 f p b bs p' h buffer hp ih => exact ih.trans (Peer.reads_of_read h).items_suffix

/-- Nothing that a request takes off the stream comes back. -/
theorem items_suffix_next (tokens : List String) (deadline : Nat) (f : Framing) (p : Peer) :
    (next tokens deadline f p).2.2.items tokens <:+ p.items tokens := by
  unfold next
  split
  · exact List.suffix_refl _
  · split
    · split
      · exact List.suffix_refl _
      · split
        · exact List.suffix_refl _
        · exact items_suffix_await ..
    · exact items_suffix_await ..

theorem countP_ahead (tokens : List String) (f : Framing) (p : Peer) :
    (f.ahead tokens p).countP StreamItem.isFailed = p.faults := by
  rw [ahead, List.countP_append, StreamItem.countP_ofBytes, Nat.zero_add,
    ← Peer.faults_eq_countP]

theorem faults_lt_of_ahead {tokens : List String} {f : Framing} {p p' : Peer} {e : Fault}
    {bytes : List UInt8} (h : f.ahead tokens p = ofBytes bytes ++ .failed e :: p'.items tokens) :
    p'.faults < p.faults := by
  rw [← countP_ahead tokens f p, h, List.countP_append, StreamItem.countP_ofBytes,
    Nat.zero_add, p'.faults_eq_countP tokens, List.countP_cons_of_pos rfl]
  exact Nat.lt_succ_self _

/-- Only a failed read breaks the invariant. -/
theorem Serves.sound {tokens : List String} {deadline : Nat} {f f' : Framing} {p p' : Peer}
    {a : Arrival} (h : Serves tokens deadline f p a f' p') (hne : a.isFault = false) :
    f'.Sound ∧ p'.faults = p.faults := by
  cases h with
  | line hs hl ha ho =>
      refine ⟨hs, ?_⟩
      rw [← countP_ahead tokens f p, ha, List.countP_append, StreamItem.countP_ofBytes,
        Nat.zero_add, countP_ahead]
  | @ended tail f' p' hs ht he ha =>
      refine ⟨hs, ?_⟩
      rw [← countP_ahead tokens f p, ha, List.countP_append, StreamItem.countP_ofBytes,
        Nat.zero_add, p'.faults_eq_countP tokens]
      rfl
  | stillEnded hs ht he ha hi =>
      refine ⟨hs, ?_⟩
      rw [← countP_ahead tokens f p, ha, StreamItem.countP_ofBytes, Peer.faults, hi]
      rfl
  | fault hp ha => exact Bool.noConfusion hne
  | timedOut hs hp ha hn hl =>
      refine ⟨hs, ?_⟩
      rw [← countP_ahead tokens f p, ← ha, countP_ahead]

end Framing

end IrcHarness
