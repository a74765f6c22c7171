import IrcHarness.Proofs.Transport.Requests

/-!
# Where Lines Begin and End

A buffer remembers how far it has been searched, and this memory has to follow
everything that happens to the bytes. Appending keeps it true, a line that is
taken off resets it, and so does the end of the stream. Only when a read fails
because the peer is gone, the buffer is emptied and the memory stays. If part
of a line was lost with the buffer, the next search starts behind the front of
what comes then, and a line ending that stands there is never seen.

A memory of one byte does no harm, since a search starts one byte before the
place that it remembers. So whenever a buffer is searched it gives exactly the
first of its lines, as long as no such failure has met more than one byte of an
unfinished line (`searches_find_first`), and after one that has, an ending that
the next read brings is missed. Two lines become one then
(`reset_within_line_merges_lines`).

The proof follows an invariant of the framing through all requests. It holds of
every state that the reads, ends and failures of a script can lead to, and not
only of those before the first failed read.

## Main definitions

* `LineBuffer.FindsFirst`: A search gives the first line, if there is one.
* `LineBuffer.Ready`: What the memory of a buffer has to say.
* `Framing.Primed`: What holds of a framing whenever a request is made.
* `Operation.LosesPart`: A call during which part of a line is lost.

## Theorems

* `Ready.findsFirst`: A buffer with a true memory gives its first line.
* `stable_primed`: No request breaks the invariant.
* `searches_find_first`: Every search of a buffer gives its first line.
* `reset_within_line_merges_lines`: Part of a line was lost before.
-/

namespace IrcHarness

namespace LineBuffer

/-- A search gives a line exactly when the buffer holds one, and then it gives
    the bytes in front of the first ending and leaves those behind it. -/
structure FindsFirst (b : LineBuffer) : Prop where
  /-- No line is missed, and none is made up. -/
  finds : b.pop.1.isSome = true ↔ Line.isIn b.bytes = true
  /-- No ending stands within the line. -/
  first : ∀ (line : List UInt8) (rest : LineBuffer), b.pop = (some line, rest) →
    b.bytes = line ++ Line.ending ++ rest.bytes ∧ Line.isIn (line ++ [Line.cr]) = false

/-- What the memory of a buffer has to say. No line is complete in the part that
    it counts as searched, and it counts no byte that is still to come, apart
    from the first one. -/
def Ready (b : LineBuffer) : Prop :=
  b.searched ≤ max 1 b.bytes.length ∧ Line.isIn (b.bytes.take b.searched) = false

variable {b b' : LineBuffer}

theorem Searched.ready (h : b.Searched) : b.Ready :=
  ⟨Nat.le_trans h.1 (Nat.le_max_right ..), h.2⟩

/-- A search that skips the part that counts as searched finds what a search of
    everything finds. -/
theorem Ready.pop_eq (h : b.Ready) :
    b.pop = match Line.cut b.bytes with
      | some (line, rest) => (some line, ⟨rest, 0⟩)
      | none => (none, ⟨b.bytes, b.bytes.length⟩) := by
  rcases Nat.lt_or_ge b.bytes.length b.searched with hlt | hle
  · -- Only an empty buffer counts more than its bytes, and then just one.
    have hnil : b.bytes = [] := List.length_eq_zero_iff.1 (by have := h.1; omega)
    unfold pop
    rw [hnil]
    dsimp only
    rw [List.drop_nil]
    rfl
  · exact pop_of_searched ⟨hle, h.2⟩

theorem Ready.findsFirst (h : b.Ready) : b.FindsFirst := by
  have hpop := h.pop_eq
  refine ⟨?_, fun line rest hline => ?_⟩
  · rw [hpop, Line.isIn_iff]
    cases Line.cut b.bytes <;> rfl
  · rw [hline] at hpop
    cases hcut : Line.cut b.bytes with
    | none =>
        rw [hcut] at hpop
        cases hpop
    | some parts =>
        rw [hcut] at hpop
        simp only [Prod.mk.injEq, Option.some.injEq] at hpop
        have hfirst := (Line.cut_eq_some_iff b.bytes parts.1 parts.2).1 hcut
        rw [hpop.1, hpop.2, List.append_assoc]
        exact hfirst

theorem Ready.append (h : b.Ready) (bytes : List UInt8) : (b.append bytes).Ready := by
  rcases Nat.lt_or_ge b.bytes.length b.searched with hlt | hle
  · -- One byte alone is no line ending.
    have hnil : b.bytes = [] := List.length_eq_zero_iff.1 (by have := h.1; omega)
    have hone : b.searched = 1 := by
      have hmax := h.1
      rw [hnil] at hmax hlt
      simp only [List.length_nil] at hmax hlt
      omega
    refine ⟨?_, ?_⟩
    · simp only [LineBuffer.append, hone]
      omega
    · simp only [LineBuffer.append, hnil, hone, List.nil_append]
      cases bytes with
      | nil => rfl
      | cons c bytes => simp [Line.isIn, Line.startsWithEnding]
  · exact (searched_append ⟨hle, h.2⟩ bytes).ready

theorem ready_of_pop_some {line : List UInt8} (h : b.pop = (some line, b')) : b'.Ready := by
  unfold pop at h
  dsimp only at h
  split at h
  · rw [Prod.mk.injEq] at h
    rw [← h.2]
    exact (searched_of_zero _).ready
  · cases h

/-- A search in vain reaches the end of the buffer. -/
theorem searched_of_pop_none (h : b.pop = (none, b')) : b'.searched = b'.bytes.length := by
  unfold pop at h
  dsimp only at h
  split at h
  · cases h
  · rw [Prod.mk.injEq] at h
    rw [← h.2]

theorem Ready.pop_none (hb : b.Ready) (h : b.pop = (none, b')) : b'.Ready := by
  have hnone : ¬Line.isIn b.bytes = true := by
    rw [← hb.findsFirst.finds, h]
    exact Bool.false_ne_true
  refine ⟨?_, ?_⟩
  · rw [searched_of_pop_none h]
    exact Nat.le_max_right ..
  · rw [searched_of_pop_none h, List.take_length, bytes_of_pop_none h]
    exact Bool.eq_false_iff.2 hnone

/-- A memory of at most one byte may stay when the buffer is emptied. -/
theorem Ready.discard (h : b.Ready) (hb : b.bytes.length ≤ 1) : b.discard.Ready := by
  refine ⟨?_, ?_⟩
  · have := h.1
    simp only [LineBuffer.discard]
    omega
  · simp only [LineBuffer.discard, List.take_nil]
    rfl

/-- With a longer memory an ending that comes next is missed. -/
theorem pop_discard_append_ending (h : 1 < b.searched) :
    (b.discard.append Line.ending).pop.1 = none := by
  have hstart : min (b.searched - 1) Line.ending.length = 1 ∨
      min (b.searched - 1) Line.ending.length = 2 := by
    have hlen : Line.ending.length = 2 := rfl
    omega
  unfold pop
  simp only [LineBuffer.discard, append, List.nil_append]
  rcases hstart with h1 | h2
  · rw [h1]
    rfl
  · rw [h2]
    rfl

end LineBuffer

namespace Framing

/-- What holds of a framing whenever a request is made. -/
structure Primed (f : Framing) : Prop where
  /-- The memory of the buffer is true. -/
  ready : f.buffer.Ready
  /-- All bytes were searched unless the last read may have left a line. -/
  past : f.readable = false → f.buffer.bytes.length ≤ max 1 f.buffer.searched
  /-- A read that failed has left no line. -/
  unread : f.faulted = true → f.readable = false

variable {tokens : List String} {deadline : Nat} {f : Framing} {p : Peer}

theorem primed_initial : initial.Primed :=
  ⟨LineBuffer.searched_empty.ready, fun _ => Nat.zero_le _, fun h => Bool.noConfusion h⟩

theorem Primed.of_pop_some {b buffer : LineBuffer} {line : List UInt8}
    (h : b.pop = (some line, buffer)) {closed : Bool} :
    Primed ⟨buffer, true, closed, false⟩ :=
  ⟨LineBuffer.ready_of_pop_some h, fun h => Bool.noConfusion h, fun h => Bool.noConfusion h⟩

theorem Primed.of_pop_none {b buffer : LineBuffer} (hb : b.Ready)
    (h : b.pop = (none, buffer)) {closed faulted : Bool} :
    Primed ⟨buffer, false, closed, faulted⟩ := by
  refine ⟨hb.pop_none h, fun _ => ?_, fun _ => rfl⟩
  rw [LineBuffer.searched_of_pop_none h]
  exact Nat.le_max_right ..

theorem primed_drain (hf : f.faulted = false) : (drain f).2.Primed := by
  unfold drain LineBuffer.popAtEnd
  cases hp : f.buffer.pop with
  | mk popped buffer =>
      cases popped with
      | some line =>
          rw [hf]
          exact .of_pop_some hp
      | none =>
          rw [hf]
          exact ⟨LineBuffer.searched_empty.ready, fun _ => Nat.zero_le _, fun _ => rfl⟩

theorem primed_await (h : f.Primed) (hr : f.readable = false) (hf : f.faulted = false) :
    (await tokens deadline f p).2.1.Primed := by
  fun_induction await tokens deadline f p with
  | case1 f p p' hread => exact h
  -- A read that fails leaves the buffer as it is, and all of it was searched.
  | case2 f p e p' hread => exact ⟨h.ready, h.past, fun _ => hr⟩
  | case3 f p p' hread hc => exact h
  | case4 f p p' hread hc arrival f' hd =>
      have hdrained := primed_drain (f := { f with closed := true }) hf
      rw [hd] at hdrained
      exact hdrained
  | case5 f p b bs p' hread line buffer hp =>
      rw [hf]
      exact .of_pop_some hp
  | case6 f p b bs p' hread buffer hp ih =>
      exact ih (.of_pop_none (h.ready.append (b :: bs)) hp) rfl hf

/-- No request breaks the invariant, whatever it meets. -/
theorem stable_primed : Stable Primed := by
  intro tokens deadline f p h
  unfold next
  by_cases hf : f.faulted = true
  -- The end is reported without a search, so the memory of the buffer stays.
  · rw [if_pos hf]
    exact ⟨h.ready, fun _ => h.past (h.unread hf), fun _ => rfl⟩
  · have hunfaulted := Bool.eq_false_iff.2 hf
    rw [if_neg hf]
    by_cases hr : f.readable = true
    · rw [if_pos hr]
      by_cases hc : f.closed = true
      · rw [if_pos hc]
        exact primed_drain hunfaulted
      · rw [if_neg hc]
        cases hp : f.buffer.pop with
        | mk popped buffer =>
            cases popped with
            | some line =>
                rw [hunfaulted, hr]
                exact .of_pop_some hp
            | none =>
                exact primed_await (.of_pop_none h.ready hp) rfl hunfaulted
    · rw [if_neg hr]
      exact primed_await h (Bool.eq_false_iff.2 hr) hunfaulted

/-- Every buffer that a request searches has a true memory. -/
theorem SearchesAfterRead.ready {searched : LineBuffer}
    (h : SearchesAfterRead tokens deadline f p searched) (hb : f.buffer.Ready) :
    searched.Ready := by
  induction h with
  | read hread => exact hb.append _
  | again hread hnone h ih => exact ih ((hb.append _).pop_none hnone)

theorem Searches.ready {searched : LineBuffer} (h : f.Searches tokens deadline p searched)
    (hb : f.buffer.Ready) : searched.Ready := by
  cases h with
  | left hunfaulted hreadable hopen => exact hb
  | behind hunfaulted hreadable hopen hnone h => exact h.ready (hb.pop_none hnone)
  | fresh hunfaulted hreadable h => exact h.ready hb

theorem faulted_of_await {e : Fault} (h : (await tokens deadline f p).1 = .fault e) :
    (await tokens deadline f p).2.1.faulted = true := by
  fun_induction await tokens deadline f p with
  | case1 => cases h
  | case2 => rfl
  | case3 => cases h
  | case4 f p p' hread hc arrival f' hd =>
      unfold drain at hd
      split at hd <;> cases hd <;> cases h
  | case5 => cases h
  | case6 f p b bs p' hread buffer hp ih => exact ih h

theorem faulted_of_next {e : Fault} (h : (next tokens deadline f p).1 = .fault e) :
    (next tokens deadline f p).2.1.faulted = true := by
  have hdrain : ∀ g : Framing, (drain g).1 ≠ .fault e := by
    intro g
    unfold drain
    split <;> exact Arrival.noConfusion
  unfold next at h ⊢
  split at h
  · cases h
  · next hf =>
    rw [if_neg hf]
    split at h
    · next hr =>
      rw [if_pos hr]
      split at h
      · exact absurd h (hdrain f)
      · next hc =>
        rw [if_neg hc]
        split at h
        · cases h
        · exact faulted_of_await h
    · next hr =>
      rw [if_neg hr]
      exact faulted_of_await h

end Framing

/-- A call during which part of a line is lost. A read fails because the peer is
    gone, and more than one byte is waiting for the end of its line. -/
def Operation.LosesPart (op : Operation) (t : Transport) : Prop :=
  ∃ f, Transport.Breaks (op.Asks t) f ∧ 1 < f.buffer.bytes.length

namespace Transport

open Framing (Primed)

variable {t : Transport} {op : Operation}

theorem primed_after (h : t.framing.Primed) (hlost : ¬op.LosesPart t) :
    (op.after t).framing.Primed := by
  rcases op.framing_after Framing.stable_primed h with hkept | ⟨f, hbreaks, hf, hframing⟩
  · exact hkept
  · -- The buffer was emptied, and it held no more than a byte.
    have hlen : f.buffer.bytes.length ≤ 1 := by
      by_contra hlong
      exact hlost ⟨f, hbreaks, Nat.lt_of_not_le hlong⟩
    rw [hframing]
    exact ⟨hf.ready.discard hlen, fun _ => Nat.zero_le _, hf.unread⟩

/-- A read that failed has left more bytes that were searched. -/
theorem searched_of_breaks {f : Framing} (h : t.framing.Primed) (hbreaks : Breaks (op.Asks t) f)
    (hlong : 1 < f.buffer.bytes.length) : 1 < f.buffer.searched := by
  rcases hbreaks with ⟨u, moment, e, v, hasks, hfault, hgone, rfl⟩
  have hprimed : v.framing.Primed :=
    framing_of_receive Framing.stable_primed (hasks.framing Framing.stable_primed h) hfault
  have hfaulted : v.framing.faulted = true := by
    unfold receive at hfault
    rw [Prod.mk.injEq] at hfault
    rw [← hfault.2]
    exact Framing.faulted_of_next hfault.1
  -- A read is only made when everything was searched, so the memory is as long
  -- as the buffer.
  have hpast := hprimed.past (hprimed.unread hfaulted)
  omega

end Transport

/-- The invariant holds of every state that calls lead to without the loss of part
    of a line. -/
theorem Reached.primed {t : Transport} (h : Reached (fun op t => ¬op.LosesPart t) t) :
    t.framing.Primed := by
  induction h with
  | initial name settings clock => exact Framing.primed_initial
  | willDo h events ih => exact ih
  | waitUntil h moment ih => exact ih
  | writes h works ih => exact ih
  | call h op hallowed ih => exact Transport.primed_after ih hallowed

/-- Lines begin and end where they should. As long as no part of a line was lost,
    every search of the buffer during a call gives the first line of the buffer
    if it holds one, whatever the reads have met before. A call that loses part
    of a line leaves a buffer that misses the ending that comes next. -/
theorem searches_find_first {t : Transport} (h : Reached (fun op t => ¬op.LosesPart t) t)
    (op : Operation) :
    (∀ u moment searched, op.Asks t u moment →
        u.framing.Searches u.tokens moment u.peer searched → searched.FindsFirst) ∧
      (op.LosesPart t → ∃ bytes, Line.isIn bytes = true ∧
        ((op.after t).framing.buffer.append bytes).pop.1 = none) := by
  have hprimed := h.primed
  refine ⟨fun u moment searched hasks hsearch => ?_, fun hlost => ?_⟩
  · have hready := (hasks.framing Framing.stable_primed hprimed).ready
    exact (hsearch.ready hready).findsFirst
  · rcases hlost with ⟨f, hbreaks, hlong⟩
    refine ⟨Line.ending, rfl, ?_⟩
    rw [Operation.after_of_breaks hbreaks]
    exact LineBuffer.pop_discard_append_ending
      (Transport.searched_of_breaks hprimed hbreaks hlong)

/-- A collection with nothing left over and nothing left to search begins with a
    read, and searches what it brings behind the bytes that wait. -/
theorem collect_searches {t : Transport} (hinbox : t.inbox = [])
    (hfaulted : t.framing.faulted = false) (hreadable : t.framing.readable = false)
    {limit moment : Nat} (hmoment : min (t.peer.now + t.readTimeout) limit = moment)
    {b : UInt8} {bs : List UInt8} (hread : (t.peer.read t.tokens moment).1 = .bytes (b :: bs)) :
    (Operation.collect false true limit).Asks t t moment ∧
      t.framing.Searches t.tokens moment t.peer (t.framing.buffer.append (b :: bs)) := by
  refine ⟨?_, .fresh hfaulted hreadable (.read (Prod.ext hread rfl))⟩
  rw [Operation.Asks, Transport.CollectionAsks, if_neg Bool.false_ne_true, hinbox, ← hmoment]
  refine .first ?_
  simp only [Request.isComplete, List.isEmpty_nil, Bool.not_true, Bool.or_self, Bool.and_false,
    Bool.false_and, Bool.false_eq_true, not_false_eq_true]

/-- A call after which bytes are left has lost nothing. -/
theorem not_losesPart_of_unread {op : Operation} {t : Transport} (h : (op.after t).unread ≠ []) :
    ¬op.LosesPart t := by
  intro hlost
  rcases hlost with ⟨f, hbreaks, _⟩
  refine h ?_
  unfold Transport.unread
  rw [Operation.after_of_breaks hbreaks]
  rfl

/-- A read fails between the two bytes of a line ending, and the call behind it
    reports the end. The next one finds the line all the same. -/
theorem searches_find_first_resumed :
    ∃ t, Reached (fun op t => ¬op.LosesPart t) t ∧
      t.unread = Utf8.ofString "NOTICE a :one\r" ∧
      ∃ moment searched, (Operation.collect false true 10000).Asks t t moment ∧
        t.framing.Searches t.tokens moment t.peer searched ∧
        searched.bytes = Utf8.ofString "NOTICE a :one\r\nNOTICE a :two\r\n" ∧
        searched.FindsFirst := by
  have hrun : ∃ t, Reached (fun op t => ¬op.LosesPart t) t ∧ t.inbox = [] ∧
      t.framing = ⟨⟨Utf8.ofString "NOTICE a :one\r", 14⟩, false, false, false⟩ ∧
      min (t.peer.now + t.readTimeout) 10000 = 1000 ∧
      (t.peer.read t.tokens 1000).1 = .bytes (10 :: Utf8.ofString "NOTICE a :two\r\n") := by
    have hfresh : Reached (fun op t => ¬op.LosesPart t)
        (.initial "c" .initial fun _ => ⟨0, 0⟩) := .initial ..
    have hstart := hfresh.willDo
      [.data [.literal (Utf8.ofString "NOTICE a :one\r")], .fault ⟨.timedOut, "timed out"⟩,
        .data [.literal (Utf8.ofString "\nNOTICE a :two\r\n")]]
    have hfailed := hstart.call (.collect false true 10000)
      (not_losesPart_of_unread (by decide +kernel))
    have hended := hfailed.call (.collect false true 10000)
      (not_losesPart_of_unread (by decide +kernel))
    exact ⟨_, hended, by decide +kernel, by decide +kernel, by decide +kernel, by decide +kernel⟩
  rcases hrun with ⟨t, hreached, hinbox, hframing, hmoment, hread⟩
  rcases collect_searches hinbox (by rw [hframing]) (by rw [hframing]) hmoment hread with
    ⟨hasks, hsearch⟩
  refine ⟨t, hreached, ?_, 1000, _, hasks, hsearch, ?_, ?_⟩
  · rw [Transport.unread, hframing]
  · rw [hframing]
    decide +kernel
  · exact (searches_find_first hreached _).1 t 1000 _ hasks hsearch

/-- A peer resets the connection within a line and goes on with two others. The
    buffer holds the first of them when it is searched, the search is in vain,
    and the two lines come out as one. -/
theorem reset_within_line_merges_lines :
    ∃ t, Reached (fun _ _ => True) t ∧
      ∃ moment searched, (Operation.collect false true 10000).Asks t t moment ∧
        t.framing.Searches t.tokens moment t.peer searched ∧
        searched.bytes = Utf8.ofString "PING x\r\n" ∧ Line.isIn searched.bytes = true ∧
        searched.pop.1 = none ∧
        (t.collect false true 10000).1 =
          .error (.parse "PING x\r\nPING y" (.illegalCharacter 13 6)) := by
  have hrun : ∃ t, Reached (fun _ _ => True) t ∧ t.inbox = [] ∧
      t.framing = ⟨⟨[], 16⟩, false, false, false⟩ ∧
      min (t.peer.now + t.readTimeout) 10000 = 1000 ∧
      (t.peer.read t.tokens 1000).1 = .bytes (80 :: Utf8.ofString "ING x\r\n") ∧
      (t.collect false true 10000).1 =
        .error (.parse "PING x\r\nPING y" (.illegalCharacter 13 6)) := by
    have hfresh : Reached (fun _ _ => True) (.initial "c" .initial fun _ => ⟨0, 0⟩) := .initial ..
    have hstart := hfresh.willDo
      [.data [.literal (Utf8.ofString "NOTICE a :unfini")], .fault ⟨.connectionReset, "reset"⟩,
        .data [.literal (Utf8.ofString "PING x\r\n")],
        .data [.literal (Utf8.ofString "PING y\r\n")]]
    have hfailed := hstart.call (.collect false true 10000) trivial
    have hended := hfailed.call (.collect false true 10000) trivial
    exact ⟨_, hended, by decide +kernel, by decide +kernel, by decide +kernel, by decide +kernel,
      by decide +kernel⟩
  rcases hrun with ⟨t, hreached, hinbox, hframing, hmoment, hread, hmerged⟩
  rcases collect_searches hinbox (by rw [hframing]) (by rw [hframing]) hmoment hread with
    ⟨hasks, hsearch⟩
  refine ⟨t, hreached, 1000, _, hasks, hsearch, ?_, ?_, ?_, hmerged⟩
  · rw [hframing]
    decide +kernel
  · rw [hframing]
    decide +kernel
  · rw [hframing]
    decide +kernel

end IrcHarness
