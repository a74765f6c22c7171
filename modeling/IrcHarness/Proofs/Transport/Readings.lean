import IrcHarness.Proofs.Transport.Framing

/-!
# Readings

What one request for a line tells of the stream. The readings that it meets are
listed as the recursion of the framing makes them. It makes no read when a line
is left in the buffer, behind the end of the stream, or behind a failure.

The answer tells of a failed read exactly when one is met, and the end of the
stream is pending then. The next request gives this end without a read. Otherwise
an end is told only when the stream has come to it.

## Main definitions

* `Reading.isEnd`: The peer is gone.
* `Framing.Awaits`: A reading that is met while a line is awaited.
* `Framing.Meets`: A reading that a request meets.
* `Framing.Tells`: What an answer tells of the stream and leaves behind.

## Theorems

* `not_meets_of_faulted`, `not_meets_of_left`: A request that makes no read.
* `await_tells`: What is told while a line is awaited.
* `next_tells`: A request tells of a failed read when it meets one.
-/

namespace IrcHarness

/-- Whether a reading tells that the peer is gone. It brings no bytes, or it
    fails with a kind that means a disconnect. -/
def Reading.isEnd : Reading → Bool
  | bytes [] => true
  | fault f => f.isDisconnect
  | bytes (_ :: _) | timedOut => false

theorem Arrival.ne_fault {a : Arrival} (h : a.isFault = false) (e : Fault) : a ≠ .fault e := by
  rintro rfl
  exact Bool.noConfusion h

namespace Framing

/-- A reading that is met while a line is awaited. -/
inductive Awaits (tokens : List String) (deadline : Nat) :
    Framing → Peer → Reading → Prop where
  /-- There is a read. -/
  | read {f : Framing} {p p' : Peer} {reading : Reading}
      (hread : p.read tokens deadline = (reading, p')) : Awaits tokens deadline f p reading
  /-- A read brings bytes, no line is found, and there is another read. -/
  | again {f : Framing} {p p' : Peer} {b : UInt8} {bs : List UInt8} {buffer : LineBuffer}
      {reading : Reading} (hread : p.read tokens deadline = (.bytes (b :: bs), p'))
      (hnone : (f.buffer.append (b :: bs)).pop = (none, buffer))
      (h : Awaits tokens deadline { f with buffer, readable := false, closed := false } p'
        reading) :
      Awaits tokens deadline f p reading

/-- A reading that a request for a line meets. -/
inductive Meets (tokens : List String) (deadline : Nat) (f : Framing) (p : Peer)
    (reading : Reading) : Prop where
  /-- No line is left in the buffer, and there is a read. -/
  | behind {buffer : LineBuffer} (hunfaulted : f.faulted = false) (hreadable : f.readable = true)
      (hopen : f.closed = false) (hnone : f.buffer.pop = (none, buffer))
      (h : Awaits tokens deadline { f with buffer, readable := false } p reading) :
      Meets tokens deadline f p reading
  /-- Nothing is left to be searched, and there is a read. -/
  | fresh (hunfaulted : f.faulted = false) (hreadable : f.readable = false)
      (h : Awaits tokens deadline f p reading) : Meets tokens deadline f p reading

variable {tokens : List String} {deadline : Nat} {f g : Framing} {p p' : Peer}
  {reading met : Reading}

/-- What is met is what the first read brings, or what is met behind it. -/
theorem awaits_iff (hread : p.read tokens deadline = (reading, p')) :
    f.Awaits tokens deadline p met ↔ met = reading ∨
      ∃ b bs buffer, reading = .bytes (b :: bs) ∧
        (f.buffer.append (b :: bs)).pop = (none, buffer) ∧
        Awaits tokens deadline { f with buffer, readable := false, closed := false } p' met := by
  constructor
  · intro h
    cases h with
    | read hread' =>
        rw [hread, Prod.mk.injEq] at hread'
        exact .inl hread'.1.symm
    | again hread' hnone h =>
        rw [hread, Prod.mk.injEq] at hread'
        rcases hread' with ⟨rfl, rfl⟩
        exact .inr ⟨_, _, _, rfl, hnone, h⟩
  · rintro (rfl | ⟨b, bs, buffer, rfl, hnone, h⟩)
    · exact .read hread
    · exact .again hread hnone h

/-- A read that fails is the last one. -/
theorem eq_of_awaits {e : Fault} (hread : (p.read tokens deadline).1 = .fault e)
    (h : f.Awaits tokens deadline p met) : met = .fault e := by
  rcases (awaits_iff (Prod.ext hread rfl)).1 h with h | ⟨b, bs, buffer, hbytes, -⟩
  · exact h
  · cases hbytes

theorem meets_behind_iff {buffer : LineBuffer} (hunfaulted : f.faulted = false)
    (hreadable : f.readable = true) (hopen : f.closed = false)
    (hnone : f.buffer.pop = (none, buffer)) :
    f.Meets tokens deadline p reading ↔
      Awaits tokens deadline { f with buffer, readable := false } p reading := by
  constructor
  · rintro (⟨-, -, -, hnone', h⟩ | ⟨-, hunread, -⟩)
    · rw [hnone, Prod.mk.injEq] at hnone'
      exact hnone'.2 ▸ h
    · exact absurd (hunread.symm.trans hreadable) Bool.false_ne_true
  · exact .behind hunfaulted hreadable hopen hnone

theorem meets_fresh_iff (hunfaulted : f.faulted = false) (hreadable : f.readable = false) :
    f.Meets tokens deadline p reading ↔ f.Awaits tokens deadline p reading := by
  constructor
  · rintro (⟨-, hread, -, -, -⟩ | ⟨-, -, h⟩)
    · exact absurd (hreadable.symm.trans hread) Bool.false_ne_true
    · exact h
  · exact .fresh hunfaulted hreadable

/-- Behind a failure there is no read. -/
theorem not_meets_of_faulted (h : f.faulted = true) : ¬f.Meets tokens deadline p reading := by
  rintro (⟨hunfaulted, -, -, -, -⟩ | ⟨hunfaulted, -, -⟩) <;>
    exact Bool.false_ne_true (hunfaulted.symm.trans h)

/-- Nor is there one for a line that is left in the buffer, or behind the end. -/
theorem not_meets_of_left (hreadable : f.readable = true)
    (hleft : f.closed = true ∨ ∃ line buffer, f.buffer.pop = (some line, buffer)) :
    ¬f.Meets tokens deadline p reading := by
  rintro (⟨-, -, hopen, hnone, -⟩ | ⟨-, hunread, -⟩)
  · rcases hleft with hclosed | ⟨line, buffer, hsome⟩
    · exact Bool.false_ne_true (hopen.symm.trans hclosed)
    · rw [hsome] at hnone
      cases hnone
  · exact Bool.false_ne_true (hunread.symm.trans hreadable)

/-- What an answer to a request tells of the stream and leaves behind. -/
structure Tells (f : Framing) (meets : Reading → Prop) (a : Arrival) (f' : Framing) : Prop where
  /-- A read failed. -/
  failed : ∀ e, a = .fault e ↔ meets (.fault e)
  /-- An end will be reported behind a failure. -/
  pending : f'.faulted = a.isFault
  /-- An end is reported behind a failure. -/
  ended : f.faulted = true → a = .closed
  /-- A stream that has not ended does so by a read only. -/
  opened : f.closed = false → ¬meets (.bytes []) → f'.closed = false
  /-- As long as it has not, an end is reported behind a failure only. -/
  unended : f.closed = false → ¬meets (.bytes []) → a = .closed → f.faulted = true

/-- Only the two marks of the framing count. -/
theorem Tells.congr {f' : Framing} {meets meets' : Reading → Prop} {a : Arrival}
    (h : Tells f meets a f') (hclosed : g.closed = f.closed) (hfaulted : g.faulted = f.faulted)
    (hmeets : ∀ reading, meets' reading ↔ meets reading) : Tells g meets' a f' := by
  have heq : meets' = meets := funext fun reading => propext (hmeets reading)
  subst heq
  refine ⟨h.failed, h.pending, ?_, ?_, ?_⟩
  · rw [hfaulted]
    exact h.ended
  · rw [hclosed]
    exact h.opened
  · rw [hclosed, hfaulted]
    exact h.unended

/-- What comes out of the buffer behind the end is no failure. -/
theorem drain_tells (f : Framing) :
    (drain f).1.isFault = false ∧ (drain f).2.faulted = f.faulted := by
  unfold drain
  split <;> exact ⟨rfl, rfl⟩

/-- Reading goes on until something can be told, and the last reading is what is
    told of. -/
theorem await_tells (tokens : List String) (deadline : Nat) (hfaulted : f.faulted = false) :
    Tells f (f.Awaits tokens deadline p) (await tokens deadline f p).1
      (await tokens deadline f p).2.1 := by
  have hnot : ¬f.faulted = true := Bool.eq_false_iff.1 hfaulted
  fun_induction await tokens deadline f p with
  | case1 f p p' hread =>
      refine {
        failed := fun e => ?_
        pending := hfaulted
        ended := fun h => absurd h hnot
        opened := fun h _ => h
        unended := fun _ _ => Arrival.noConfusion }
      rw [awaits_iff hread]
      simp only [reduceCtorEq, false_and, exists_false, or_self]
  | case2 f p e p' hread =>
      refine {
        failed := fun e' => ?_
        pending := rfl
        ended := fun h => absurd h hnot
        opened := fun h _ => h
        unended := fun _ _ => Arrival.noConfusion }
      rw [awaits_iff hread]
      simp only [Arrival.fault.injEq, Reading.fault.injEq, reduceCtorEq, false_and, exists_false,
        or_false, eq_comm]
  | case3 f p p' hread hc =>
      refine {
        failed := fun e => ?_
        pending := hfaulted
        ended := fun _ => rfl
        opened := fun _ h => absurd (.read hread) h
        unended := fun _ h => absurd (.read hread) h }
      rw [awaits_iff hread]
      simp only [reduceCtorEq, Reading.bytes.injEq, false_and, exists_false, or_self]
  | case4 f p p' hread hc arrival f' hd =>
      -- The end is met, and what it brings out of the buffer is no failure.
      have hdrained := drain_tells { f with closed := true }
      rw [hd] at hdrained
      refine {
        failed := fun e => iff_of_false (Arrival.ne_fault hdrained.1 e) ?_
        pending := (hdrained.2.trans hfaulted).trans hdrained.1.symm
        ended := fun h => absurd h hnot
        opened := fun _ h => absurd (.read hread) h
        unended := fun _ h => absurd (.read hread) h }
      rw [awaits_iff hread]
      simp only [reduceCtorEq, Reading.bytes.injEq, false_and, exists_false, or_self,
        not_false_eq_true]
  | case5 f p b bs p' hread line buffer hp =>
      refine {
        failed := fun e => iff_of_false Arrival.noConfusion ?_
        pending := hfaulted
        ended := fun h => absurd h hnot
        opened := fun _ _ => rfl
        unended := fun _ _ => Arrival.noConfusion }
      rw [awaits_iff hread]
      rintro (he | ⟨c, cs, buffer', he, hnone, -⟩)
      · cases he
      · -- The read has completed a line, so there was no other one.
        cases he
        rw [hp] at hnone
        cases hnone
  | case6 f p b bs p' hread buffer hp ih =>
      have hnext := ih hfaulted hnot
      -- The reading that was met on the way is the only one that the rest lacks.
      have hmore : ∀ met, met ≠ .bytes (b :: bs) → (f.Awaits tokens deadline p met ↔
          Awaits tokens deadline { f with buffer, readable := false, closed := false } p' met) := by
        intro met hne
        rw [awaits_iff hread]
        constructor
        · rintro (he | ⟨c, cs, buffer', he, hnone, h⟩)
          · exact absurd he hne
          · cases he
            rw [hp, Prod.mk.injEq] at hnone
            exact hnone.2 ▸ h
        · exact fun h => .inr ⟨b, bs, buffer, rfl, hp, h⟩
      have hend := hmore (.bytes []) (by simp only [ne_eq, Reading.bytes.injEq, reduceCtorEq,
        not_false_eq_true])
      refine {
        failed := fun e => ?_
        pending := hnext.pending
        ended := fun h => absurd h hnot
        opened := fun _ h => hnext.opened rfl (mt hend.2 h)
        unended := fun _ h => hnext.unended rfl (mt hend.2 h) }
      rw [hnext.failed, hmore _ Reading.noConfusion]

/-- A request tells of a failed read when it meets one. An end is told behind a
    failure, and otherwise only when the stream has come to it. -/
theorem next_tells (tokens : List String) (deadline : Nat) (f : Framing) (p : Peer) :
    Tells f (f.Meets tokens deadline p) (next tokens deadline f p).1
      (next tokens deadline f p).2.1 := by
  unfold next
  by_cases hf : f.faulted = true
  · rw [if_pos hf]
    exact {
      failed := fun e => iff_of_false Arrival.noConfusion (not_meets_of_faulted hf)
      pending := rfl
      ended := fun _ => rfl
      opened := fun h _ => h
      unended := fun _ _ _ => hf }
  · have hunfaulted := Bool.eq_false_iff.2 hf
    rw [if_neg hf]
    by_cases hr : f.readable = true
    · rw [if_pos hr]
      by_cases hc : f.closed = true
      · -- The stream has ended before, so nothing is said of an open one.
        rw [if_pos hc]
        have hdrained := drain_tells f
        have hnot : ¬f.closed = false := fun h => Bool.false_ne_true (h.symm.trans hc)
        exact {
          failed := fun e => iff_of_false (Arrival.ne_fault hdrained.1 e)
            (not_meets_of_left hr (.inl hc))
          pending := (hdrained.2.trans hunfaulted).trans hdrained.1.symm
          ended := fun h => absurd h hf
          opened := fun h => absurd h hnot
          unended := fun h => absurd h hnot }
      · rw [if_neg hc]
        cases hp : f.buffer.pop with
        | mk popped buffer =>
            cases popped with
            | some line =>
                exact {
                  failed := fun e => iff_of_false Arrival.noConfusion
                    (not_meets_of_left hr (.inr ⟨line, buffer, hp⟩))
                  pending := hunfaulted
                  ended := fun h => absurd h hf
                  opened := fun h _ => h
                  unended := fun _ _ => Arrival.noConfusion }
            | none =>
                have hrest := await_tells tokens deadline
                  (f := { f with buffer, readable := false }) (p := p) hunfaulted
                exact hrest.congr rfl rfl fun reading =>
                  meets_behind_iff hunfaulted hr (Bool.eq_false_iff.2 hc) hp
    · rw [if_neg hr]
      have hrest := await_tells tokens deadline (p := p) hunfaulted
      exact hrest.congr rfl rfl fun reading => meets_fresh_iff hunfaulted (Bool.eq_false_iff.2 hr)

end Framing

end IrcHarness
