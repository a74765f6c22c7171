/-!
# Lines of a Byte Stream

A peer sends bytes, and lines are what stands between two line endings of a
carriage return and a line feed. Either byte alone ends nothing. A read may
bring half a line, several lines, or the two bytes of an ending one by one, so
the bytes wait in a buffer until their line is complete.

The buffer remembers how far it has been searched, and the next search starts
one byte before that, where the first byte of an ending may be waiting for the
second. `Line.cut` is the search without a memory. Both agree as long as no
complete line stands in front of the remembered place (`pop_of_searched`),
which appending keeps true.

## Main definitions

* `Line.cut`: The first line of some bytes and what stands behind it.
* `Line.isIn`: Whether some bytes hold a complete line.
* `Line.split`: All lines of some bytes, and the tail without an ending.
* `Line.feeds`: The number of line feeds, of which each line has one.
* `LineBuffer`: Bytes that wait for their line to be complete.
* `LineBuffer.pop`, `LineBuffer.popAtEnd`: Take the first line off a buffer.
* `LineBuffer.Searched`: No line is complete in the part searched so far.

## Theorems

* `cut_eq_some_iff`: A line is cut off where the first ending stands.
* `isIn_iff`: There is a complete line exactly when one can be cut off.
* `pop_of_searched`: The memory makes no difference.
-/

namespace IrcHarness

namespace Line

/-- The first byte of a line ending. -/
def cr : UInt8 := 13

/-- The second byte of a line ending. -/
def lf : UInt8 := 10

/-- The ending of a line. -/
def ending : List UInt8 := [cr, lf]

/-- Whether some bytes start with a line ending. -/
def startsWithEnding : List UInt8 → Bool
  | a :: b :: _ => a == cr && b == lf
  | _ => false

/-- Whether some bytes hold a complete line. -/
def isIn : List UInt8 → Bool
  | [] => false
  | b :: rest => startsWithEnding (b :: rest) || isIn rest

/-- The first line of some bytes without its ending, and the bytes behind the
    ending. -/
def cut : List UInt8 → Option (List UInt8 × List UInt8)
  | [] => none
  | b :: rest =>
    if startsWithEnding (b :: rest) then some ([], rest.tail)
    else (cut rest).map fun parts => (b :: parts.1, parts.2)

theorem eq_of_startsWithEnding {bytes : List UInt8} (h : startsWithEnding bytes = true) :
    ∃ rest, bytes = cr :: lf :: rest := by
  match bytes with
  | [] => simp [startsWithEnding] at h
  | [_] => simp [startsWithEnding] at h
  | a :: b :: rest =>
      simp only [startsWithEnding, Bool.and_eq_true, beq_iff_eq] at h
      exact ⟨rest, by rw [h.1, h.2]⟩

theorem isIn_iff (bytes : List UInt8) : isIn bytes = true ↔ (cut bytes).isSome = true := by
  induction bytes with
  | nil => simp [isIn, cut]
  | cons b rest ih =>
      simp only [isIn, cut, Bool.or_eq_true]
      split
      · next h => simp [h]
      · next h => simp [h, ih]

theorem eq_of_cut {bytes line rest : List UInt8} (h : cut bytes = some (line, rest)) :
    bytes = line ++ cr :: lf :: rest := by
  induction bytes generalizing line with
  | nil => simp [cut] at h
  | cons b bytes ih =>
      simp only [cut] at h
      split at h
      · next hs =>
          rcases eq_of_startsWithEnding hs with ⟨tail, ht⟩
          simp only [List.cons.injEq] at ht
          simp only [ht.2, List.tail_cons, Option.some.injEq, Prod.mk.injEq] at h
          simp [← h.1, ← h.2, ht.1, ht.2]
      · rcases Option.map_eq_some_iff.1 h with ⟨⟨l, r⟩, hc, he⟩
        simp only [Prod.mk.injEq] at he
        rcases he with ⟨rfl, rfl⟩
        simp [ih hc]

theorem length_lt_of_cut {bytes line rest : List UInt8} (h : cut bytes = some (line, rest)) :
    rest.length < bytes.length := by
  rw [eq_of_cut h]
  simp only [List.length_append, List.length_cons]
  omega

/-- How many line feeds there are among some bytes. -/
def feeds (bytes : List UInt8) : Nat :=
  bytes.count lf

theorem feeds_append (a b : List UInt8) : feeds (a ++ b) = feeds a + feeds b :=
  List.count_append

theorem feeds_lt_of_cut {bytes line rest : List UInt8} (h : cut bytes = some (line, rest)) :
    feeds rest < feeds bytes := by
  rw [eq_of_cut h]
  simp only [feeds, List.count_append, List.count_cons, beq_self_eq_true, if_true]
  omega

theorem startsWithEnding_append {bytes : List UInt8} (h : 2 ≤ bytes.length)
    (more : List UInt8) : startsWithEnding (bytes ++ more) = startsWithEnding bytes := by
  match bytes with
  | [] => simp at h
  | [_] => simp at h
  | _ :: _ :: _ => rfl

theorem startsWithEnding_eq_false_of_append {a b : List UInt8}
    (h : startsWithEnding (a ++ b) = false) : startsWithEnding a = false := by
  match a with
  | [] => rfl
  | [_] => rfl
  | _ :: _ :: _ => exact h

/-- Lines that are complete stay where they are when more bytes come. -/
theorem cut_append {bytes line rest : List UInt8} (h : cut bytes = some (line, rest))
    (more : List UInt8) : cut (bytes ++ more) = some (line, rest ++ more) := by
  induction bytes generalizing line with
  | nil => simp [cut] at h
  | cons b bytes ih =>
      simp only [cut] at h
      split at h
      · next hs =>
          rcases eq_of_startsWithEnding hs with ⟨tail, ht⟩
          rw [List.cons_append, cut, ← List.cons_append]
          rw [startsWithEnding_append (by rw [ht]; simp), if_pos hs]
          simp only [List.cons.injEq] at ht
          simp only [ht.2, List.tail_cons, Option.some.injEq, Prod.mk.injEq] at h
          simp [← h.1, ← h.2, ht.2]
      · next hs =>
          rcases Option.map_eq_some_iff.1 h with ⟨⟨l, r⟩, hc, he⟩
          simp only [Prod.mk.injEq] at he
          rcases he with ⟨rfl, rfl⟩
          -- An ending follows, so whether one starts here is already decided.
          have hlen : 2 ≤ (b :: bytes).length := by
            have := length_lt_of_cut hc
            simp only [List.length_cons]
            omega
          rw [List.cons_append, cut, ← List.cons_append, startsWithEnding_append hlen, if_neg hs,
            ih hc]
          rfl

/-- A line is what stands in front of the first ending, and no ending starts
    within the line and the first byte of its ending. -/
theorem cut_eq_some_iff (bytes line rest : List UInt8) :
    cut bytes = some (line, rest) ↔
      bytes = line ++ cr :: lf :: rest ∧ isIn (line ++ [cr]) = false := by
  constructor
  · intro h
    refine ⟨eq_of_cut h, ?_⟩
    induction bytes generalizing line with
    | nil => simp [cut] at h
    | cons b bytes ih =>
        have hb := eq_of_cut h
        simp only [cut] at h
        split at h
        · simp only [Option.some.injEq, Prod.mk.injEq] at h
          simp [← h.1, isIn, startsWithEnding]
        · next hs =>
            rcases Option.map_eq_some_iff.1 h with ⟨⟨l, r⟩, hc, he⟩
            simp only [Prod.mk.injEq] at he
            rcases he with ⟨rfl, rfl⟩
            have hs' : startsWithEnding (b :: (l ++ [cr])) = false := by
              apply startsWithEnding_eq_false_of_append (b := lf :: r)
              rw [hb] at hs
              simpa using hs
            rw [List.cons_append, isIn, hs', ih l hc]
            rfl
  · rintro ⟨rfl, h⟩
    induction line with
    | nil => simp [cut, startsWithEnding]
    | cons b line ih =>
        simp only [List.cons_append, isIn, Bool.or_eq_false_iff] at h
        have hs : startsWithEnding (b :: (line ++ cr :: lf :: rest)) = false := by
          cases line with
          | nil => exact h.1
          | cons c line => exact h.1
        simp only [List.cons_append, cut, hs, ih h.2]
        rfl

/-- All lines of some bytes without their endings, and the bytes behind the
    last ending. -/
def split (bytes : List UInt8) : List (List UInt8) × List UInt8 :=
  match _h : cut bytes with
  | none => ([], bytes)
  | some (line, rest) => (line :: (split rest).1, (split rest).2)
termination_by bytes.length
decreasing_by all_goals exact length_lt_of_cut _h

end Line

/-- Bytes that wait for their line to be complete. -/
structure LineBuffer where
  /-- The bytes that came and were not taken as a line yet. -/
  bytes : List UInt8
  /-- How many of them have been searched for the end of a line. -/
  searched : Nat
deriving DecidableEq, Repr

namespace LineBuffer

/-- No bytes. -/
def empty : LineBuffer := ⟨[], 0⟩

/-- The buffer with more bytes at its end. -/
def append (b : LineBuffer) (bytes : List UInt8) : LineBuffer :=
  ⟨b.bytes ++ bytes, b.searched⟩

/-- The buffer without its bytes. The place of the search stays, and lines
    that end before it will not be seen. -/
def discard (b : LineBuffer) : LineBuffer :=
  ⟨[], b.searched⟩

/-- Take the first line off a buffer, if it holds a complete one behind the
    place of the search. -/
def pop (b : LineBuffer) : Option (List UInt8) × LineBuffer :=
  let start := min (b.searched - 1) b.bytes.length
  match Line.cut (b.bytes.drop start) with
  | some (line, rest) => (some (b.bytes.take start ++ line), ⟨rest, 0⟩)
  | none => (none, ⟨b.bytes, b.bytes.length⟩)

/-- Take the first line off a buffer that will get no more bytes. What is left
    when there is none never becomes a line and is dropped. -/
def popAtEnd (b : LineBuffer) : Option (List UInt8) × LineBuffer :=
  match b.pop with
  | (some line, rest) => (some line, rest)
  | (none, _) => (none, empty)

/-- No line is complete in the part of the buffer that has been searched. -/
def Searched (b : LineBuffer) : Prop :=
  b.searched ≤ b.bytes.length ∧ Line.isIn (b.bytes.take b.searched) = false

theorem searched_empty : empty.Searched := by
  simp [Searched, empty, Line.isIn]

theorem searched_append {b : LineBuffer} (h : b.Searched) (bytes : List UInt8) :
    (b.append bytes).Searched := by
  refine ⟨by have := h.1; simp [append]; omega, ?_⟩
  have : (b.bytes ++ bytes).take b.searched = b.bytes.take b.searched :=
    List.take_append_of_le_length h.1
  simpa [append, this] using h.2

theorem feeds_lt_of_pop {b b' : LineBuffer} {line : List UInt8}
    (h : b.pop = (some line, b')) : Line.feeds b'.bytes < Line.feeds b.bytes := by
  simp only [pop] at h
  split at h
  · next l rest hc =>
      have hlt := Line.feeds_lt_of_cut hc
      have hsub : Line.feeds (b.bytes.drop (min (b.searched - 1) b.bytes.length))
          ≤ Line.feeds b.bytes := (List.drop_sublist _ _).count_le _
      simp only [Prod.mk.injEq] at h
      rw [← h.2]
      exact Nat.lt_of_lt_of_le hlt hsub
  · simp at h

theorem feeds_lt_of_popAtEnd {b b' : LineBuffer} {line : List UInt8}
    (h : b.popAtEnd = (some line, b')) : Line.feeds b'.bytes < Line.feeds b.bytes := by
  simp only [popAtEnd] at h
  split at h
  · next l rest hp =>
      simp only [Prod.mk.injEq, Option.some.injEq] at h
      rcases h with ⟨rfl, rfl⟩
      exact feeds_lt_of_pop hp
  · simp at h

theorem eq_empty_of_popAtEnd_none {b b' : LineBuffer} (h : b.popAtEnd = (none, b')) :
    b' = empty := by
  simp only [popAtEnd] at h
  split at h
  · simp at h
  · simpa using h.symm

theorem bytes_of_pop_none {b b' : LineBuffer} (h : b.pop = (none, b')) : b'.bytes = b.bytes := by
  simp only [pop] at h
  split at h
  · simp at h
  · simp only [Prod.mk.injEq, true_and] at h
    rw [← h]

end LineBuffer

namespace Line

/-- Bytes in front of which no ending starts can be put before a search. -/
theorem cut_append_of_not_isIn (front : List UInt8) (c : UInt8) (bytes : List UInt8)
    (h : isIn (front ++ [c]) = false) :
    cut (front ++ c :: bytes) = (cut (c :: bytes)).map fun parts =>
      (front ++ parts.1, parts.2) := by
  induction front with
  | nil =>
      simp only [List.nil_append]
      cases cut (c :: bytes) <;> rfl
  | cons b front ih =>
      simp only [List.cons_append, isIn, Bool.or_eq_false_iff] at h
      have hs : startsWithEnding (b :: (front ++ c :: bytes)) = false := by
        cases front with
        | nil => exact h.1
        | cons d front => exact h.1
      rw [List.cons_append, cut, hs, ih h.2]
      simp only [Bool.false_eq_true, if_false]
      cases cut (c :: bytes) <;> rfl

end Line

namespace LineBuffer

/-- A search that skips the part searched so far finds what a search of
    everything finds. -/
theorem pop_of_searched {b : LineBuffer} (h : b.Searched) :
    b.pop = match Line.cut b.bytes with
      | some (line, rest) => (some line, ⟨rest, 0⟩)
      | none => (none, ⟨b.bytes, b.bytes.length⟩) := by
  have hstart : min (b.searched - 1) b.bytes.length = b.searched - 1 := by
    have := h.1
    omega
  simp only [pop, hstart]
  by_cases h0 : b.searched = 0
  · rw [h0]
    simp
  · have hlt : b.searched - 1 < b.bytes.length := by
      have := h.1
      omega
    -- Split the bytes at the place where the search starts, and let the last
    -- byte in front of it be seen twice.
    have hdrop : b.bytes.drop (b.searched - 1)
        = b.bytes[b.searched - 1] :: b.bytes.drop (b.searched - 1 + 1) :=
      List.drop_eq_getElem_cons hlt
    have htake : b.bytes.take (b.searched - 1) ++ [b.bytes[b.searched - 1]]
        = b.bytes.take b.searched := by
      rw [List.take_append_getElem hlt]
      congr 1
      omega
    have hcut := Line.cut_append_of_not_isIn (b.bytes.take (b.searched - 1))
      b.bytes[b.searched - 1] (b.bytes.drop (b.searched - 1 + 1)) (by rw [htake]; exact h.2)
    rw [← hdrop, List.take_append_drop] at hcut
    rw [hcut]
    cases Line.cut (b.bytes.drop (b.searched - 1)) <;> rfl

end LineBuffer

end IrcHarness
