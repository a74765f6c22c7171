import IrcHarness.Proofs.Transport.Lines

/-!
# Lines Piece by Piece

A buffer is used in two ways: more bytes come, and a line is asked for. The bytes
may be cut anywhere, between the two bytes of an ending as well, and a line may be
asked for at any time, long before there is one or when several are waiting.

None of this shows in the lines. The memory of how far the buffer has been searched
only saves work, since no line is complete in the part that was searched, and so
every answer is the one that a search of the whole buffer gives. What was given out
and what is in the buffer are together all that came, and when the buffer has no line
to give, they are the lines and the tail into which the bytes fall by themselves
(`decoding_agrees`).

One use keeps all of that (`Decoded.append`, `Decoded.pop`), and the run is an
induction over the uses. When no more bytes come, the lines that are left are taken
off until there is none, and what has no ending is dropped.

## Main definitions

* `LineBuffer.Use`: Something that is done with a buffer.
* `LineBuffer.brought`: The bytes that came.
* `LineBuffer.run`: What the uses of a buffer give.
* `LineBuffer.popAfresh`: Take a line off without a memory.
* `LineBuffer.drain`: Take off all lines that are left.
* `LineBuffer.Decoded`: Where the bytes are that came.

## Theorems

* `Decoded.append`, `Decoded.pop`: What one use preserves.
* `run_popAfresh`: The memory does not show in any answer.
* `drain_of_searched`: What is left in the end is the tail.
* `decoding_agrees`: The lines of a run are those of the bytes that came.
-/

namespace IrcHarness

namespace LineBuffer

/-- Something that is done with a buffer. -/
inductive Use where
  /-- More bytes come. -/
  | append (bytes : List UInt8)
  /-- A line is asked for. -/
  | pop
deriving DecidableEq, Repr

/-- The bytes that a use brings. -/
def Use.bytes : Use → List UInt8
  | .append bytes => bytes
  | .pop => []

/-- The bytes that uses bring, one after the other. -/
def brought (uses : List Use) : List UInt8 :=
  uses.flatMap Use.bytes

/-- The answers that a buffer gives when it is asked for lines in some way, in
    their order, and what becomes of it. -/
def run (take : LineBuffer → Option (List UInt8) × LineBuffer) (b : LineBuffer) :
    List Use → List (Option (List UInt8)) × LineBuffer
  | [] => ([], b)
  | .append bytes :: uses => run take (b.append bytes) uses
  | .pop :: uses =>
    let rest := run take (take b).2 uses
    ((take b).1 :: rest.1, rest.2)

/-- Take the first line off a buffer, which is searched from its first byte on. -/
def popAfresh (b : LineBuffer) : Option (List UInt8) × LineBuffer :=
  pop ⟨b.bytes, 0⟩

/-- All lines of a buffer that will get no more bytes, taken off one after the
    other, and what is left when there is none. -/
def drain (b : LineBuffer) : List (List UInt8) × LineBuffer :=
  match _h : b.popAtEnd with
  | (none, rest) => ([], rest)
  | (some line, rest) => (line :: (drain rest).1, (drain rest).2)
termination_by Line.feeds b.bytes
decreasing_by all_goals exact feeds_lt_of_popAtEnd _h

/-- All bytes that came are in the lines that were given out or in the buffer, and
    the next search of the buffer overlooks none. -/
structure Decoded (came : List UInt8) (lines : List (List UInt8)) (b : LineBuffer) : Prop where
  /-- What was searched holds no complete line. -/
  searched : b.Searched
  /-- The lines and the buffer, put together again, are what came. -/
  rejoined : Line.wire lines ++ b.bytes = came
  /-- No ending is left in a line. -/
  clean : ∀ line ∈ lines, Line.isIn line = false

variable {b : LineBuffer} {came : List UInt8} {lines : List (List UInt8)}

theorem decoded_empty : Decoded [] [] empty :=
  ⟨searched_empty, rfl, fun _ h => absurd h List.not_mem_nil⟩

/-- Bytes that come are in the buffer first. -/
theorem Decoded.append (h : Decoded came lines b) (bytes : List UInt8) :
    Decoded (came ++ bytes) lines (b.append bytes) := by
  refine ⟨searched_append h.searched bytes, ?_, h.clean⟩
  rw [← h.rejoined, List.append_assoc]
  rfl

/-- A line that is given out leaves the buffer with its ending. -/
theorem Decoded.pop (h : Decoded came lines b) :
    Decoded came (lines ++ b.pop.1.toList) b.pop.2 := by
  cases hpop : b.pop with
  | mk answer rest =>
      cases answer with
      | none =>
          rcases isIn_of_pop_none h.searched hpop with ⟨hbytes, -, hsearched⟩
          refine ⟨hsearched, ?_, ?_⟩
          · rw [Option.toList_none, List.append_nil, hbytes, h.rejoined]
          · rw [Option.toList_none, List.append_nil]
            exact h.clean
      | some line =>
          rcases bytes_of_pop_some h.searched hpop with ⟨hbytes, hline, hsearched⟩
          refine ⟨hsearched, ?_, fun l hl => ?_⟩
          · rw [← h.rejoined, hbytes, Option.toList_some, Line.wire, List.flatMap_append,
              List.flatMap_singleton, List.append_assoc]
            rfl
          · rcases List.mem_append.1 hl with hl | hl
            · exact h.clean l hl
            · rw [Option.toList_some, List.mem_singleton] at hl
              exact hl ▸ hline

/-- The lines that a run gives out are put behind those that were given out before,
    as the bytes that it brings are put behind those that came before. -/
theorem Decoded.run (h : Decoded came lines b) (uses : List Use) :
    Decoded (came ++ brought uses) (lines ++ (run LineBuffer.pop b uses).1.reduceOption)
      (run LineBuffer.pop b uses).2 := by
  induction uses generalizing came lines b with
  | nil =>
      rw [brought, List.flatMap_nil, List.append_nil, LineBuffer.run, List.reduceOption_nil,
        List.append_nil]
      exact h
  | cons use uses ih =>
      cases use with
      | append bytes =>
          have hrest := ih (h.append bytes)
          rw [List.append_assoc] at hrest
          exact hrest
      | pop =>
          have hrest := ih h.pop
          rw [List.append_assoc, ← List.reduceOption_singleton, ← List.reduceOption_append] at hrest
          exact hrest

/-- The memory makes no difference to one answer. -/
theorem popAfresh_of_searched (h : b.Searched) : b.popAfresh = b.pop := by
  rw [popAfresh, pop_of_searched h, pop_of_searched (searched_of_zero b.bytes)]

/-- The memory makes no difference to any answer of a run. -/
theorem run_popAfresh (h : Decoded came lines b) (uses : List Use) :
    run popAfresh b uses = run pop b uses := by
  induction uses generalizing came lines b with
  | nil => rfl
  | cons use uses ih =>
      cases use with
      | append bytes => exact ih (h.append bytes)
      | pop => rw [run, run, popAfresh_of_searched h.searched, ih h.pop]

/-- A run that goes on goes on from the buffer that it has left. -/
theorem run_append (take : LineBuffer → Option (List UInt8) × LineBuffer) (b : LineBuffer)
    (front back : List Use) :
    run take b (front ++ back) =
      ((run take b front).1 ++ (run take (run take b front).2 back).1,
        (run take (run take b front).2 back).2) := by
  induction front generalizing b with
  | nil => rfl
  | cons use front ih =>
      cases use with
      | append bytes => exact ih (b.append bytes)
      | pop =>
          rw [List.cons_append, run, run, ih]
          rfl

/-- A buffer that was asked last, and had no line to give, holds none. -/
theorem isIn_of_run_none (h : Decoded [] [] b) {uses : List Use} (hlast : uses.getLast? = some .pop)
    (hnone : (run pop b uses).1.getLast? = some none) :
    Line.isIn (run pop b uses).2.bytes = false := by
  rcases List.getLast?_eq_some_iff.1 hlast with ⟨front, rfl⟩
  rw [run_append] at hnone ⊢
  have hsearched := (h.run front).searched
  cases hpop : (run pop b front).2.pop with
  | mk answer rest =>
      simp only [run, hpop, List.getLast?_concat, Option.some.injEq] at hnone ⊢
      exact (isIn_of_pop_none hsearched (hnone ▸ hpop)).2.1

theorem pop_of_popAtEnd_some {rest : LineBuffer} {line : List UInt8}
    (h : b.popAtEnd = (some line, rest)) : b.pop = (some line, rest) := by
  rw [popAtEnd] at h
  split at h
  · next hpop => rw [hpop, h]
  · cases h

theorem pop_of_popAtEnd_none {rest : LineBuffer} (h : b.popAtEnd = (none, rest)) :
    ∃ kept, b.pop = (none, kept) := by
  rw [popAtEnd] at h
  split at h
  · cases h
  · next kept hpop => exact ⟨kept, hpop⟩

/-- What is taken off in the end are the lines of the buffer, and nothing stays. -/
theorem drain_of_searched (h : b.Searched) : b.drain = ((Line.split b.bytes).1, empty) := by
  fun_induction drain b with
  | case1 b rest hend =>
      rcases pop_of_popAtEnd_none hend with ⟨kept, hpop⟩
      rcases isIn_of_pop_none h hpop with ⟨hbytes, hin, -⟩
      rw [eq_empty_of_popAtEnd_none hend, Line.split_of_not_isIn (hbytes ▸ hin)]
  | case2 b line rest hend ih =>
      rcases bytes_of_pop_some h (pop_of_popAtEnd_some hend) with ⟨hbytes, hline, hsearched⟩
      rw [ih hsearched, hbytes, Line.split_append_ending hline]

/-- However the bytes are cut that come to a buffer, and whenever it is asked for a
    line, it answers as one without a memory does. What it has given and what it
    holds are all bytes that came. When it had no line to give, it has given the
    lines of these bytes. When no more bytes come, taking lines off until there is
    none gives all the others, drops the tail alone, and leaves a buffer as it was in
    the beginning. -/
theorem decoding_agrees {uses : List Use} {answers : List (Option (List UInt8))} {b : LineBuffer}
    (h : run pop empty uses = (answers, b)) :
    run popAfresh empty uses = (answers, b) ∧
      Line.wire answers.reduceOption ++ b.bytes = brought uses ∧
      (uses.getLast? = some .pop → answers.getLast? = some none →
        Line.split (brought uses) = (answers.reduceOption, b.bytes)) ∧
      ∃ left tail, b.drain = (left, empty) ∧ b.bytes = Line.wire left ++ tail ∧
        ¬Line.ending <:+: tail ∧ Line.split (brought uses) = (answers.reduceOption ++ left, tail) := by
  have hrun := decoded_empty.run uses
  rw [h, List.nil_append, List.nil_append] at hrun
  refine ⟨(run_popAfresh decoded_empty uses).trans h, hrun.rejoined, fun hlast hnone => ?_, ?_⟩
  · have hin := isIn_of_run_none decoded_empty hlast (by rw [h]; exact hnone)
    rw [h] at hin
    exact Line.split_eq_iff.2 ⟨hrun.rejoined, hrun.clean, hin⟩
  · rcases Line.wire_split b.bytes with ⟨hbytes, htail, -⟩
    refine ⟨(Line.split b.bytes).1, (Line.split b.bytes).2, drain_of_searched hrun.searched, hbytes,
      ?_, ?_⟩
    · rw [← Line.isIn_iff_infix, htail]
      exact Bool.false_ne_true
    · rw [← hrun.rejoined, Line.split_wire_append hrun.clean]

/-- An ending that is cut in two, two lines at once and a tail without an ending. The
    lines are the same whether they are asked for or taken off in the end. -/
theorem decoding_agrees_cut_ending :
    run pop empty
        [.append [97, 13], .pop, .append [], .append [10, 98, 13, 10, 99], .pop, .pop, .pop]
        = ([none, some [97], some [98], none], ⟨[99], 1⟩) ∧
      run pop empty [.append [97, 13], .pop, .append [10, 98, 13, 10, 99]]
        = ([none], ⟨[97, 13, 10, 98, 13, 10, 99], 2⟩) ∧
      Line.split [97, 13, 10, 98, 13, 10, 99] = ([[97], [98]], [99]) ∧
      drain ⟨[97, 13, 10, 98, 13, 10, 99], 2⟩ = ([[97], [98]], empty) := by
  have hasked : run pop empty
      [.append [97, 13], .pop, .append [], .append [10, 98, 13, 10, 99], .pop, .pop, .pop]
        = ([none, some [97], some [98], none], ⟨[99], 1⟩) := by decide
  have hwaiting : run pop empty [.append [97, 13], .pop, .append [10, 98, 13, 10, 99]]
        = ([none], ⟨[97, 13, 10, 98, 13, 10, 99], 2⟩) := by decide
  have hsplit := (decoding_agrees hasked).2.2.1 rfl rfl
  rcases (decoding_agrees hwaiting).2.2.2 with ⟨left, tail, hdrain, -, -, hall⟩
  refine ⟨hasked, hwaiting, hsplit, ?_⟩
  -- The same bytes came, so what is left are all lines.
  have hleft : left = [[97], [98]] := congrArg Prod.fst (hall.symm.trans hsplit)
  rw [hdrain, hleft]

end LineBuffer

end IrcHarness
