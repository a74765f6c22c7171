import IrcHarness.Regex.Search
import Mathlib

/-!
# What the Search Finds

The search handles sets of positions as numbers. A position belongs to the set
that `ends` gives exactly when the expression matches a piece that ends there and
starts in the set it was given (`testBit_ends`), so the search finds a match
exactly when there is one.

A repetition is a number of copies in a row. The search makes the copies that are
needed one after the other, and then as many more as there are positions. That is
enough when there is no upper bound, for a copy that matches the empty piece can
be left out, and any other moves to the right.

## Main definitions

* `Regex.Copies`: So many matches in a row.

## Theorems

* `spans_times_iff`: A repetition is so many copies.
* `Copies.exists_le`: As many copies as there are characters are enough.
* `testBit_ends`: Where the search says that matches end.
* `occurs_iff`: The search finds a match exactly when there is one.
-/

namespace IrcHarness

namespace Regex

variable {text : List Char} {r : Regex} {i j k m n : Nat}

section Copies

/-- Positions of a match are in order and within the text. -/
theorem Spans.le (h : Spans text r i j) : i ≤ j ∧ j ≤ text.length := by
  induction h with
  | empty h => exact ⟨Nat.le_refl _, h⟩
  | chars h hc => exact ⟨Nat.le_succ _, (List.getElem?_eq_some_iff.1 h).1⟩
  | look h hl => exact ⟨Nat.le_refl _, h⟩
  | cat ha hb iha ihb => exact ⟨Nat.le_trans iha.1 ihb.1, ihb.2⟩
  | altLeft h ih => exact ih
  | altRight h ih => exact ih
  | timesNil h => exact ⟨Nat.le_refl _, h⟩
  | timesNeeded hm hr hs ihr ihs => exact ⟨Nat.le_trans ihr.1 ihs.1, ihs.2⟩
  | timesMore hm hr hs ihr ihs => exact ⟨Nat.le_trans ihr.1 ihs.1, ihs.2⟩
  | group h ih => exact ih

/-- So many matches in a row. -/
def Copies (text : List Char) (r : Regex) : Nat → Nat → Nat → Prop
  | 0, i, j => i = j ∧ j ≤ text.length
  | n + 1, i, j => ∃ k, Spans text r i k ∧ Copies text r n k j

theorem Copies.le (h : Copies text r n i j) : i ≤ j ∧ j ≤ text.length := by
  induction n generalizing i with
  | zero => exact ⟨Nat.le_of_eq h.1, h.2⟩
  | succ n ih =>
      rcases h with ⟨k, hspans, hrest⟩
      exact ⟨Nat.le_trans hspans.le.1 (ih hrest).1, (ih hrest).2⟩

theorem copies_add : Copies text r (m + n) i j ↔ ∃ k, Copies text r m i k ∧ Copies text r n k j := by
  induction m generalizing i with
  | zero =>
      rw [Nat.zero_add]
      constructor
      · intro h
        exact ⟨i, ⟨rfl, Nat.le_trans h.le.1 h.le.2⟩, h⟩
      · rintro ⟨k, ⟨rfl, _⟩, h⟩
        exact h
  | succ m ih =>
      rw [Nat.succ_add]
      constructor
      · rintro ⟨l, hspans, hrest⟩
        rcases ih.1 hrest with ⟨k, hm, hn⟩
        exact ⟨k, ⟨l, hspans, hm⟩, hn⟩
      · rintro ⟨k, ⟨l, hspans, hm⟩, hn⟩
        exact ⟨l, hspans, ih.2 ⟨k, hm, hn⟩⟩

/-- As many copies as the piece has characters are enough. -/
theorem Copies.exists_le (h : Copies text r n i j) : ∃ m, m ≤ j - i ∧ Copies text r m i j := by
  induction n generalizing i with
  | zero => exact ⟨0, Nat.zero_le _, h⟩
  | succ n ih =>
      rcases h with ⟨k, hspans, hrest⟩
      rcases ih hrest with ⟨m, hm, hcopies⟩
      have hik := hspans.le.1
      have hkj := hrest.le.1
      by_cases hmoves : i = k
      · -- The copy matches the empty piece and can be left out.
        rw [hmoves]
        exact ⟨m, hm, hcopies⟩
      · exact ⟨m + 1, by omega, k, hspans, hcopies⟩

/-- A repetition is a number of copies that its bounds allow. -/
theorem spans_times_iff {least : Nat} {most : Option Nat} {greedy : Bool} :
    Spans text (.times r least most greedy) i j ↔
      ∃ n, least ≤ n ∧ (∀ m, most = some m → n ≤ m) ∧ Copies text r n i j := by
  constructor
  · intro h
    generalize hs : Regex.times r least most greedy = s at h
    induction h generalizing least most with
    | timesNil hi =>
        cases hs
        exact ⟨0, Nat.le_refl 0, fun m _ => Nat.zero_le m, rfl, hi⟩
    | timesNeeded hm hr hrest ihr ihrest =>
        cases hs
        rcases ihrest rfl with ⟨n, hleast, hmost, hcopies⟩
        refine ⟨n + 1, Nat.succ_le_succ hleast, fun m hb => ?_, _, hr, hcopies⟩
        have hpos := hm m hb
        have hle := hmost (m - 1) (by rw [hb]; rfl)
        omega
    | timesMore hm hr hrest ihr ihrest =>
        cases hs
        rcases ihrest rfl with ⟨n, hleast, hmost, hcopies⟩
        refine ⟨n + 1, Nat.zero_le _, fun m hb => ?_, _, hr, hcopies⟩
        have hpos := hm m hb
        have hle := hmost (m - 1) (by rw [hb]; rfl)
        omega
    | empty | chars | look | cat | altLeft | altRight | group => cases hs
  · rintro ⟨n, hleast, hmost, hcopies⟩
    induction n generalizing least most i with
    | zero =>
        obtain rfl : least = 0 := Nat.le_zero.1 hleast
        rcases hcopies with ⟨rfl, hi⟩
        exact .timesNil hi
    | succ n ih =>
        rcases hcopies with ⟨k, hspans, hrest⟩
        have hpos : ∀ m, most = some m → 0 < m := fun m hb =>
          Nat.lt_of_lt_of_le (Nat.succ_pos n) (hmost m hb)
        have hfewer : ∀ m, most.map (· - 1) = some m → n ≤ m := by
          intro m hb
          rcases Option.map_eq_some_iff.1 hb with ⟨l, hl, rfl⟩
          have hle := hmost l hl
          omega
        cases least with
        | zero => exact .timesMore hpos hspans (ih (Nat.zero_le n) hfewer hrest)
        | succ least =>
            exact .timesNeeded hpos hspans (ih (Nat.le_of_succ_le_succ hleast) hfewer hrest)

end Copies

section Positions

theorem testBit_prepend_zero (b : Bool) (positions : Nat) : (prepend b positions).testBit 0 = b := by
  cases b <;> simp [prepend, Nat.testBit_zero]

theorem testBit_prepend_succ (b : Bool) (positions n : Nat) :
    (prepend b positions).testBit (n + 1) = positions.testBit n := by
  have hhalf : prepend b positions / 2 = positions := by
    unfold prepend
    split
    · omega
    · omega
  rw [Nat.testBit_succ, hhalf]

theorem testBit_charPositions (s : CharSet) (text : List Char) (i : Nat) :
    (charPositions s text).testBit i = true ↔ ∃ c, text[i]? = some c ∧ s.contains c = true := by
  induction text generalizing i with
  | nil => simp [charPositions]
  | cons c rest ih =>
      cases i with
      | zero =>
          rw [charPositions, testBit_prepend_zero]
          simp
      | succ i => rw [charPositions, testBit_prepend_succ, ih, List.getElem?_cons_succ]

theorem testBit_lookPositions (l : Look) (before : Option Char) (text : List Char) (i : Nat) :
    (lookPositions l before text).testBit i = true ↔
      i ≤ text.length ∧ l.holds (if i = 0 then before else text[i - 1]?) text[i]? = true := by
  induction text generalizing before i with
  | nil =>
      cases i with
      | zero =>
          rw [lookPositions, testBit_prepend_zero]
          simp
      | succ i =>
          rw [lookPositions, testBit_prepend_succ]
          simp
  | cons c rest ih =>
      cases i with
      | zero =>
          rw [lookPositions, testBit_prepend_zero]
          simp
      | succ i =>
          rw [lookPositions, testBit_prepend_succ, ih, List.length_cons, Nat.succ_le_succ_iff,
            if_neg (Nat.succ_ne_zero i), List.getElem?_cons_succ, Nat.add_sub_cancel]
          -- The first character is the one in front of the second position.
          cases i <;> rfl

theorem iterate_eq (f : Nat → Nat) (n positions : Nat) : iterate f n positions = f^[n] positions := by
  induction n generalizing positions with
  | zero => rfl
  | succ n ih =>
      rw [iterate, Function.iterate_succ_apply]
      by_cases h : f positions = positions
      · rw [if_pos h, h, Function.iterate_fixed h]
      · rw [if_neg h, ih]

/-- A map of sets that leads from a position to those where a match ends that
    starts there. -/
def Leads (text : List Char) (r : Regex) (f : Nat → Nat) : Prop :=
  ∀ positions j, (∀ i, positions.testBit i = true → i ≤ text.length) →
    ((f positions).testBit j = true ↔ ∃ i, positions.testBit i = true ∧ Spans text r i j)

variable {f : Nat → Nat} {positions : Nat}

/-- Such a map leads to positions of the text. -/
theorem Leads.within (hf : Leads text r f)
    (hwithin : ∀ i, positions.testBit i = true → i ≤ text.length) :
    ∀ i, (f positions).testBit i = true → i ≤ text.length := by
  intro i h
  rcases (hf positions i hwithin).1 h with ⟨_, _, hspans⟩
  exact hspans.le.2

/-- Applied again and again it leads to where so many copies end. -/
theorem Leads.testBit_iterate (hf : Leads text r f)
    (hwithin : ∀ i, positions.testBit i = true → i ≤ text.length) :
    (iterate f n positions).testBit j = true ↔
      ∃ i, positions.testBit i = true ∧ Copies text r n i j := by
  rw [iterate_eq]
  induction n generalizing positions with
  | zero =>
      constructor
      · intro h
        exact ⟨j, h, rfl, hwithin j h⟩
      · rintro ⟨i, h, rfl, _⟩
        exact h
  | succ n ih =>
      rw [Function.iterate_succ_apply, ih (hf.within hwithin)]
      constructor
      · rintro ⟨k, hk, hcopies⟩
        rcases (hf positions k hwithin).1 hk with ⟨i, hi, hspans⟩
        exact ⟨i, hi, k, hspans, hcopies⟩
      · rintro ⟨i, hi, k, hspans, hcopies⟩
        exact ⟨k, (hf positions k hwithin).2 ⟨i, hi, hspans⟩, hcopies⟩

/-- With what it started from it leads to where at most so many copies end. -/
theorem Leads.testBit_reach (hf : Leads text r f)
    (hwithin : ∀ i, positions.testBit i = true → i ≤ text.length) :
    (reach f n positions).testBit j = true ↔
      ∃ m, m ≤ n ∧ ∃ i, positions.testBit i = true ∧ Copies text r m i j := by
  rw [reach, iterate_eq]
  induction n generalizing positions with
  | zero =>
      constructor
      · intro h
        exact ⟨0, Nat.le_refl 0, j, h, rfl, hwithin j h⟩
      · rintro ⟨m, hm, i, h, hcopies⟩
        obtain rfl : m = 0 := Nat.le_zero.1 hm
        exact hcopies.1 ▸ h
  | succ n ih =>
      have hmore : ∀ i, (positions ||| f positions).testBit i = true → i ≤ text.length := by
        intro i h
        rw [Nat.testBit_or, Bool.or_eq_true] at h
        exact h.elim (hwithin i) (hf.within hwithin i)
      rw [Function.iterate_succ_apply, ih hmore]
      constructor
      · rintro ⟨m, hm, k, hk, hcopies⟩
        rw [Nat.testBit_or, Bool.or_eq_true] at hk
        rcases hk with hk | hk
        · exact ⟨m, Nat.le_succ_of_le hm, k, hk, hcopies⟩
        · rcases (hf positions k hwithin).1 hk with ⟨i, hi, hspans⟩
          exact ⟨m + 1, Nat.succ_le_succ hm, i, hi, k, hspans, hcopies⟩
      · rintro ⟨m, hm, i, hi, hcopies⟩
        cases m with
        | zero =>
            refine ⟨0, Nat.zero_le n, i, ?_, hcopies⟩
            rw [Nat.testBit_or, hi, Bool.true_or]
        | succ m =>
            rcases hcopies with ⟨k, hspans, hrest⟩
            refine ⟨m, Nat.le_of_succ_le_succ hm, k, ?_, hrest⟩
            rw [Nat.testBit_or, (hf positions k hwithin).2 ⟨i, hi, hspans⟩, Bool.or_true]

end Positions

section Ends

/-- Where the search says that matches end is where they end. -/
theorem testBit_ends (text : List Char) (r : Regex) :
    Leads text r ((place text r).ends (text.length + 1)) := by
  induction r with
  | empty =>
      intro positions j hwithin
      constructor
      · intro h
        exact ⟨j, h, .empty (hwithin j h)⟩
      · rintro ⟨i, h, hspans⟩
        cases hspans
        exact h
  | chars s =>
      intro positions j hwithin
      simp only [place, Placed.ends, Nat.testBit_shiftLeft, Nat.testBit_and, Bool.and_eq_true,
        decide_eq_true_eq, testBit_charPositions]
      constructor
      · rintro ⟨hj, h, c, hc, hmember⟩
        refine ⟨j - 1, h, ?_⟩
        have hstep := Spans.chars hc hmember
        rwa [Nat.sub_add_cancel hj] at hstep
      · rintro ⟨i, h, hspans⟩
        cases hspans with
        | chars hc hmember => exact ⟨Nat.succ_pos i, h, _, hc, hmember⟩
  | look l =>
      intro positions j hwithin
      simp only [place, Placed.ends, Nat.testBit_and, Bool.and_eq_true, testBit_lookPositions]
      constructor
      · rintro ⟨h, hj, hl⟩
        exact ⟨j, h, .look hj hl⟩
      · rintro ⟨i, h, hspans⟩
        cases hspans with
        | look hj hl => exact ⟨h, hj, hl⟩
  | cat a b iha ihb =>
      intro positions j hwithin
      rw [place, Placed.ends, ihb _ _ (iha.within hwithin)]
      constructor
      · rintro ⟨k, hk, hb⟩
        rcases (iha positions k hwithin).1 hk with ⟨i, hi, ha⟩
        exact ⟨i, hi, .cat ha hb⟩
      · rintro ⟨i, hi, hspans⟩
        cases hspans with
        | cat ha hb => exact ⟨_, (iha positions _ hwithin).2 ⟨i, hi, ha⟩, hb⟩
  | alt a b iha ihb =>
      intro positions j hwithin
      rw [place, Placed.ends, Nat.testBit_or, Bool.or_eq_true, iha positions j hwithin,
        ihb positions j hwithin]
      constructor
      · rintro (⟨i, hi, h⟩ | ⟨i, hi, h⟩)
        · exact ⟨i, hi, .altLeft h⟩
        · exact ⟨i, hi, .altRight h⟩
      · rintro ⟨i, hi, hspans⟩
        cases hspans with
        | altLeft h => exact .inl ⟨i, hi, h⟩
        | altRight h => exact .inr ⟨i, hi, h⟩
  | times r least most greedy ih =>
      intro positions j hwithin
      have hneeded : ∀ i, (iterate ((place text r).ends (text.length + 1)) least positions).testBit i
          = true → i ≤ text.length := by
        intro i h
        rcases (ih.testBit_iterate hwithin).1 h with ⟨_, _, hcopies⟩
        exact hcopies.le.2
      simp only [spans_times_iff]
      cases most with
      | none =>
          rw [place, Placed.ends]
          simp only [ih.testBit_reach hneeded, ih.testBit_iterate hwithin]
          constructor
          · rintro ⟨m, _, k, ⟨i, hi, hleast⟩, hrest⟩
            exact ⟨i, hi, least + m, Nat.le_add_right _ _, fun m hm => (by cases hm),
              copies_add.2 ⟨k, hleast, hrest⟩⟩
          · rintro ⟨i, hi, n, hn, _, hcopies⟩
            rw [← Nat.add_sub_of_le hn] at hcopies
            rcases copies_add.1 hcopies with ⟨k, hleast, hrest⟩
            -- There are not more of them than positions, once the empty ones are left out.
            rcases hrest.exists_le with ⟨m, hm, hfewer⟩
            have hj := hrest.le.2
            exact ⟨m, by omega, k, ⟨i, hi, hleast⟩, hfewer⟩
      | some most =>
          rw [place, Placed.ends]
          by_cases hlt : most < least
          · simp only [if_pos hlt, Nat.zero_testBit, Bool.false_eq_true, false_iff]
            rintro ⟨i, hi, n, hn, hmost, _⟩
            have hle := hmost most rfl
            omega
          · simp only [if_neg hlt, ih.testBit_reach hneeded, ih.testBit_iterate hwithin]
            constructor
            · rintro ⟨m, hm, k, ⟨i, hi, hleast⟩, hrest⟩
              refine ⟨i, hi, least + m, Nat.le_add_right _ _, fun b hb => ?_,
                copies_add.2 ⟨k, hleast, hrest⟩⟩
              have hsame := Option.some.inj hb
              omega
            · rintro ⟨i, hi, n, hn, hmost, hcopies⟩
              have hle := hmost most rfl
              rw [← Nat.add_sub_of_le hn] at hcopies
              rcases copies_add.1 hcopies with ⟨k, hleast, hrest⟩
              exact ⟨n - least, by omega, k, ⟨i, hi, hleast⟩, hrest⟩
  | group r ih =>
      intro positions j hwithin
      rw [place, ih positions j hwithin]
      constructor
      · rintro ⟨i, hi, h⟩
        exact ⟨i, hi, .group h⟩
      · rintro ⟨i, hi, hspans⟩
        cases hspans with
        | group h => exact ⟨i, hi, h⟩

/-- The search finds a match exactly when there is one. -/
theorem occurs_iff (r : Regex) (text : List Char) : r.occurs text = true ↔ Occurs text r := by
  have hall : ∀ i, (2 ^ (text.length + 1) - 1).testBit i = true ↔ i ≤ text.length := by
    intro i
    rw [Nat.testBit_two_pow_sub_one, decide_eq_true_eq, Nat.lt_succ_iff]
  have hends := testBit_ends text r (2 ^ (text.length + 1) - 1)
  have hocc : r.occurs text = true ↔
      (place text r).ends (text.length + 1) (2 ^ (text.length + 1) - 1) ≠ 0 := bne_iff_ne
  rw [hocc]
  constructor
  · intro h
    rcases Nat.exists_testBit_of_ne_zero h with ⟨j, hj⟩
    rcases (hends j fun i => (hall i).1).1 hj with ⟨i, _, hspans⟩
    exact ⟨i, j, hspans⟩
  · rintro ⟨i, j, hspans⟩ hnone
    have hi : i ≤ text.length := Nat.le_trans hspans.le.1 hspans.le.2
    have hj := (hends j fun i => (hall i).1).2 ⟨i, (hall i).2 hi, hspans⟩
    rw [hnone, Nat.zero_testBit] at hj
    exact Bool.false_ne_true hj

end Ends

end Regex

end IrcHarness
