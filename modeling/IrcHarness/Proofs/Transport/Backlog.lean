import IrcHarness.Proofs.Transport.Requests

/-!
# Lines That Are There Already

A read may bring more lines than one. Those behind the first wait in the buffer,
and a collection that waits for no answer takes them as well. It makes no read for
them, so it takes exactly the lines that are there, and whatever comes next on the
stream stays where it is.

How many lines these are depends on how the bytes were cut into reads. What is
said here holds for every number, and the ones that are left are still to come.

## Theorems

* `receive_of_isIn`: A buffer with a line in it gives a line without a read.
* `not_isIn_of_leading`: A stream without a line has none in its buffer.
* `gather_left`: A collection goes on as long as the buffer holds a line.
-/

namespace IrcHarness

open StreamItem (ofBytes leading)

namespace Transport

variable {t : Transport}

/-- A buffer with a line in it gives a line at once, and the peer is not asked. -/
theorem receive_of_isIn (hs : t.framing.Sound) (h : Line.isIn t.unread = true) (deadline : Nat) :
    ∃ line t', t.receive deadline = (.line line, t') ∧ t'.peer = t.peer := by
  -- Only the last read can have left a line, and it was not the end.
  have hreadable : t.framing.readable = true := by
    by_contra hr
    have hnone := hs.partly (Bool.eq_false_iff.2 hr)
    exact Bool.false_ne_true (hnone.symm.trans h)
  have hopen := hs.not_closed hreadable
  have hfirst : ¬t.framing.faulted = true := Bool.eq_false_iff.1 hs.unfaulted
  cases hp : t.framing.buffer.pop with
  | mk popped buffer =>
      cases popped with
      | some line =>
          refine ⟨line, { t with framing := { t.framing with buffer } }, ?_, rfl⟩
          simp only [receive, Framing.next, if_neg hfirst, if_pos hreadable, if_neg hopen, hp]
      | none =>
          rcases LineBuffer.isIn_of_pop_none hs.searched hp with ⟨hbytes, hnone, -⟩
          rw [hbytes] at hnone
          exact absurd (hnone.symm.trans h) Bool.false_ne_true

/-- A stream without a line cannot have one in its buffer. -/
theorem not_isIn_of_leading {rest : List StreamItem} (hrest : Line.isIn (leading rest) = false)
    (hahead : t.ahead t.tokens = rest) : ¬Line.isIn t.unread = true := by
  have hlead := congrArg leading hahead
  rw [ahead, Framing.ahead, StreamItem.leading_ofBytes_append] at hlead
  rw [← hlead] at hrest
  exact Bool.eq_false_iff.1 (Line.isIn_eq_false_of_append hrest)

theorem judge_of_no_token {r : Request} (htoken : r.token = none) (taken : List Received)
    (line : MessageLine) : r.judge taken line.bytes = .keep line.received := by
  unfold Request.judge
  simp only [line.parses, htoken]
  rfl

/-- A collection that waits for no answer and has something ends when the buffer
    holds no line. -/
theorem gather_of_not_isIn {r : Request} (htoken : r.token = none) {taken : List Received}
    (htaken : taken ≠ []) (hin : ¬Line.isIn t.unread = true) :
    gather r taken t = (.ok taken, t) := by
  have hcomplete : r.isComplete taken t.unread = true := by
    simp only [Request.isComplete, htoken, Option.isNone_none,
      List.isEmpty_eq_false_iff.2 htaken, Bool.eq_false_iff.2 hin, Bool.not_false, Bool.or_true,
      Bool.and_self]
  rw [gather, if_pos hcomplete]

/-- It goes on as long as the buffer holds a line, and does not fail. What is
    behind these lines is still to come, and the peer was not asked for any. -/
theorem gather_left {r : Request} (htoken : r.token = none) {rest : List StreamItem}
    (hrest : Line.isIn (leading rest) = false) (lines : List MessageLine) {taken : List Received}
    (htaken : taken ≠ []) (hs : t.framing.Sound)
    (hahead : t.ahead t.tokens = ofBytes (MessageLine.wire lines) ++ rest) :
    ∃ (front back : List MessageLine) (t' : Transport), lines = front ++ back ∧
      gather r taken t = (.ok (taken ++ front.map MessageLine.received), t') ∧
      t'.framing.Sound ∧ t'.peer = t.peer ∧
      t'.ahead t'.tokens = ofBytes (MessageLine.wire back) ++ rest := by
  induction lines generalizing taken t with
  | nil =>
      refine ⟨[], [], t, rfl, ?_, hs, rfl, hahead⟩
      rw [gather_of_not_isIn htoken htaken (not_isIn_of_leading hrest hahead), List.map_nil,
        List.append_nil]
  | cons line lines ih =>
      by_cases hin : Line.isIn t.unread = true
      · -- The line is there already, and it is kept.
        have hopen : ¬r.isComplete taken t.unread = true := by
          simp only [Request.isComplete, hin, Bool.not_true, Bool.and_false, Bool.false_eq_true,
            not_false_eq_true]
        rcases receive_of_isIn hs hin (r.deadline t) with ⟨arrived, t₁, hreceive, hpeer₁⟩
        rw [MessageLine.wire_cons, StreamItem.ofBytes_append, List.append_assoc] at hahead
        rcases line_of_receive hs line.clean hahead hreceive with ⟨rfl, hs₁, -, hahead₁⟩
        have hne : taken ++ [line.received] ≠ [] := List.append_ne_nil_of_right_ne_nil _
          (List.cons_ne_nil _ _)
        rcases ih (t := t₁.noteLine "<-" (String.ofList (Utf8.decodeLossy line.bytes))) hne hs₁
          hahead₁ with ⟨front, back, t₂, hlines, hgather, hs₂, hpeer₂, hback⟩
        refine ⟨line :: front, back, t₂, congrArg (line :: ·) hlines, ?_, hs₂,
          hpeer₂.trans hpeer₁, hback⟩
        rw [gather_of_receive hopen hreceive]
        simp only [judge_of_no_token htoken]
        rw [hgather, List.append_assoc]
        rfl
      · -- Nothing more is there, so the collection does not wait for it.
        refine ⟨[], line :: lines, t, rfl, ?_, hs, rfl, hahead⟩
        rw [gather_of_not_isIn htoken htaken hin, List.map_nil, List.append_nil]

end Transport

end IrcHarness
