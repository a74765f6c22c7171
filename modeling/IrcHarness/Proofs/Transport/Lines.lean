import IrcHarness.Transport.Line
import Mathlib

/-!
# Lines on the Wire

Lines that hold no ending can be told apart when each is followed by one: what
stands in front of the first ending is the first line, whatever comes behind.
A buffer whose searched part holds no complete line gives out exactly this
line, and keeps what stands behind it.

## Main definitions

* `Line.wire`: Lines as they are sent, each with its ending.

## Theorems

* `isIn_append_cr`: A carriage return in the end completes nothing.
* `cut_append_ending`: A line without an ending is cut off in front of its own.
* `wire_split`: Bytes are their lines and a tail.
* `split_eq_iff`: There is only one way to cut bytes at their endings.
* `isIn_iff_infix`: A complete line is there when an ending is.
* `bytes_of_pop_some`: A line that is taken off a buffer stood in its front.
* `isIn_of_pop_none`: A buffer that gives no line holds none.
-/

namespace IrcHarness

namespace Line

/-- Lines as they are sent. -/
def wire (lines : List (List UInt8)) : List UInt8 :=
  lines.flatMap (· ++ ending)

@[simp] theorem wire_nil : wire [] = [] := rfl

theorem wire_cons (line : List UInt8) (lines : List (List UInt8)) :
    wire (line :: lines) = line ++ ending ++ wire lines := rfl

theorem isIn_eq_false_iff (bytes : List UInt8) : isIn bytes = false ↔ cut bytes = none := by
  rw [Bool.eq_false_iff, ne_eq, isIn_iff, Option.not_isSome_iff_eq_none]

theorem isIn_append_left {a : List UInt8} (h : isIn a = true) (b : List UInt8) :
    isIn (a ++ b) = true := by
  rw [isIn_iff] at h ⊢
  rcases Option.isSome_iff_exists.1 h with ⟨⟨line, rest⟩, hc⟩
  rw [cut_append hc b]
  rfl

theorem isIn_eq_false_of_append {a b : List UInt8} (h : isIn (a ++ b) = false) :
    isIn a = false := by
  by_cases ha : isIn a = true
  · rw [isIn_append_left ha b] at h
    exact absurd h (by decide)
  · exact Bool.eq_false_iff.2 ha

theorem isIn_append_cr {line : List UInt8} (h : isIn line = false) :
    isIn (line ++ [cr]) = false := by
  induction line with
  | nil => decide
  | cons b line ih =>
      simp only [isIn, Bool.or_eq_false_iff] at h
      rw [List.cons_append, isIn, ih h.2, Bool.or_false]
      cases line with
      -- The carriage return is the second of two bytes, and no line feed.
      | nil => simp [startsWithEnding, cr, lf]
      | cons c line => exact h.1

theorem cut_append_ending {line : List UInt8} (h : isIn line = false) (rest : List UInt8) :
    cut (line ++ ending ++ rest) = some (line, rest) := by
  rw [cut_eq_some_iff]
  refine ⟨?_, isIn_append_cr h⟩
  rw [List.append_assoc]
  rfl

theorem isIn_append_ending (line rest : List UInt8) : isIn (line ++ ending ++ rest) = true := by
  induction line with
  | nil => simp [ending, isIn, startsWithEnding]
  | cons b line ih =>
      rw [List.cons_append, List.cons_append, isIn, ih, Bool.or_true]

/-- Bytes are their lines and a tail, which hold no endings. -/
theorem wire_split (bytes : List UInt8) :
    bytes = wire (split bytes).1 ++ (split bytes).2 ∧ isIn (split bytes).2 = false ∧
      ∀ line ∈ (split bytes).1, isIn line = false := by
  fun_induction split bytes with
  | case1 bytes hnone =>
      exact ⟨rfl, (isIn_eq_false_iff bytes).2 hnone, fun line h => absurd h List.not_mem_nil⟩
  | case2 bytes line rest hcut ih =>
      rcases ih with ⟨hrest, htail, hlines⟩
      refine ⟨?_, htail, ?_⟩
      · rw [wire_cons, List.append_assoc, ← hrest, eq_of_cut hcut, List.append_assoc]
        rfl
      · rintro l hl
        rcases List.mem_cons.1 hl with rfl | hl
        · exact isIn_eq_false_of_append ((cut_eq_some_iff bytes l rest).1 hcut).2
        · exact hlines l hl

/-- Bytes without a complete line are all tail. -/
theorem split_of_not_isIn {bytes : List UInt8} (h : isIn bytes = false) :
    split bytes = ([], bytes) := by
  rw [split]
  split
  · rfl
  · next line rest hsome =>
      rw [(isIn_eq_false_iff bytes).1 h] at hsome
      exact absurd hsome.symm (Option.some_ne_none _)

/-- A line that stands in front is the first of all lines. -/
theorem split_append_ending {line : List UInt8} (h : isIn line = false) (bytes : List UInt8) :
    split (line ++ ending ++ bytes) = (line :: (split bytes).1, (split bytes).2) := by
  have hcut := cut_append_ending h bytes
  rw [split]
  split
  · next hnone =>
      rw [hcut] at hnone
      exact absurd hnone (Option.some_ne_none _)
  · next line' rest hsome =>
      rw [hcut, Option.some.injEq, Prod.mk.injEq] at hsome
      rw [← hsome.1, ← hsome.2]

/-- Lines that stand in front are the first of all lines, and the tail is that of
    the other bytes. -/
theorem split_wire_append {lines : List (List UInt8)} (h : ∀ line ∈ lines, isIn line = false)
    (bytes : List UInt8) :
    split (wire lines ++ bytes) = (lines ++ (split bytes).1, (split bytes).2) := by
  induction lines with
  | nil => rfl
  | cons line lines ih =>
      rw [wire_cons, List.append_assoc, split_append_ending (h line List.mem_cons_self),
        ih fun l hl => h l (List.mem_cons_of_mem line hl)]
      rfl

/-- The lines and the tail of some bytes are the only ones that give the bytes when
    they are put together again, and that hold no endings. -/
theorem split_eq_iff {bytes tail : List UInt8} {lines : List (List UInt8)} :
    split bytes = (lines, tail) ↔
      wire lines ++ tail = bytes ∧ (∀ line ∈ lines, isIn line = false) ∧ isIn tail = false := by
  constructor
  · intro h
    rcases wire_split bytes with ⟨hbytes, htail, hlines⟩
    rw [h] at hbytes htail hlines
    exact ⟨hbytes.symm, hlines, htail⟩
  · rintro ⟨hbytes, hlines, htail⟩
    rw [← hbytes, split_wire_append hlines, split_of_not_isIn htail, List.append_nil]

/-- A complete line is an ending with whatever stands around it. -/
theorem isIn_iff_infix (bytes : List UInt8) : isIn bytes = true ↔ ending <:+: bytes := by
  constructor
  · intro h
    induction bytes with
    | nil => cases h
    | cons b bytes ih =>
        rw [isIn, Bool.or_eq_true] at h
        rcases h with h | h
        · rcases eq_of_startsWithEnding h with ⟨rest, hrest⟩
          rw [hrest]
          exact (List.prefix_append ending rest).isInfix
        · exact (ih h).trans (List.suffix_cons b bytes).isInfix
  · rintro ⟨front, back, rfl⟩
    exact isIn_append_ending front back

end Line

namespace LineBuffer

theorem searched_of_zero (bytes : List UInt8) : Searched ⟨bytes, 0⟩ := by
  refine ⟨Nat.zero_le _, ?_⟩
  simp [Line.isIn]

theorem bytes_of_pop_some {b b' : LineBuffer} {line : List UInt8} (hb : b.Searched)
    (h : b.pop = (some line, b')) :
    b.bytes = line ++ Line.ending ++ b'.bytes ∧ Line.isIn line = false ∧ b'.Searched := by
  rw [pop_of_searched hb] at h
  cases hc : Line.cut b.bytes with
  | none => simp [hc] at h
  | some parts =>
      rcases parts with ⟨front, rest⟩
      simp only [hc, Prod.mk.injEq, Option.some.injEq] at h
      rcases h with ⟨rfl, rfl⟩
      have hcut := (Line.cut_eq_some_iff b.bytes front rest).1 hc
      refine ⟨?_, Line.isIn_eq_false_of_append hcut.2, searched_of_zero rest⟩
      rw [hcut.1, List.append_assoc]
      rfl

theorem isIn_of_pop_none {b b' : LineBuffer} (hb : b.Searched) (h : b.pop = (none, b')) :
    b'.bytes = b.bytes ∧ Line.isIn b'.bytes = false ∧ b'.Searched := by
  rw [pop_of_searched hb] at h
  cases hc : Line.cut b.bytes with
  | some parts => simp [hc] at h
  | none =>
      simp only [hc, Prod.mk.injEq, true_and] at h
      -- Without a cut there is no complete line, up to the last byte.
      have hin : Line.isIn b.bytes = false := (Line.isIn_eq_false_iff b.bytes).2 hc
      rw [← h]
      refine ⟨rfl, hin, Nat.le_refl _, ?_⟩
      rw [List.take_length]
      exact hin

end LineBuffer

end IrcHarness
