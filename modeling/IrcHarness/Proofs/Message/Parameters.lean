import IrcHarness.Message.Parser
import IrcHarness.Proofs.Message.Writable

/-!
# The Parameters

What stands behind the command, read and written. Reading takes one word after
the other and stops at the end or at a word with a colon in front, which is no
word then but the rest of the line. So a parameter that needs a colon can only
be the last one, and that is all there is to ask.

`dropBlanks` decides which of the three happens, and `splitParams` is only
opened in the three lemmas that say so.

## Theorems

* `needsColon_eq_false_iff`: What needs no colon is a word without one.
* `splitParams_of_end`, `splitParams_of_colon`, `splitParams_of_word`: The
  three ways on.
* `splitParams_renderParams`: Written parameters read back.
* `needsColon_of_mem_splitParams`: Only the last of the parameters that were
  read needs a colon.
* `mem_of_mem_splitParams`: Reading brings no characters of its own.
-/

namespace IrcHarness

namespace Message

theorem isWordChar_eq_true_iff (c : Char) : isWordChar c = true ↔ c ≠ ' ' := by
  rw [isWordChar, decide_eq_true_eq]

/-- What needs no colon is a word that does not start with one. -/
theorem needsColon_eq_false_iff (p : List Char) :
    needsColon p = false ↔ p ≠ [] ∧ ' ' ∉ p ∧ p.head? ≠ some ':' := by
  rw [needsColon, Bool.or_eq_false_iff, Bool.or_eq_false_iff, decide_eq_false_iff_not,
    decide_eq_false_iff_not, List.contains_eq_mem, decide_eq_false_iff_not, and_assoc]

theorem dropBlanks_blank (cs : List Char) : dropBlanks (' ' :: cs) = dropBlanks cs := by
  rw [dropBlanks, List.dropWhile_cons_of_pos (by decide)]
  rfl

theorem dropBlanks_of_ne {c : Char} (cs : List Char) (h : c ≠ ' ') :
    dropBlanks (c :: cs) = c :: cs := by
  rw [dropBlanks, List.dropWhile_cons_of_neg (by rwa [decide_eq_true_eq])]

theorem mem_of_mem_dropBlanks {c : Char} {cs : List Char} (h : c ∈ dropBlanks cs) : c ∈ cs :=
  (List.dropWhile_sublist _).subset h

theorem splitParams_of_end {cs : List Char} (h : dropBlanks cs = []) : splitParams cs = [] := by
  rw [splitParams]
  split
  · rfl
  · next hc =>
      rw [h] at hc
      exact absurd hc (List.cons_ne_nil _ _).symm

theorem splitParams_of_colon {cs rest : List Char} (h : dropBlanks cs = ':' :: rest) :
    splitParams cs = [rest] := by
  rw [splitParams]
  split
  · next hc =>
      rw [h] at hc
      exact absurd hc (List.cons_ne_nil _ _)
  · next c r hc =>
      rw [h, List.cons.injEq] at hc
      rw [if_pos hc.1.symm, hc.2]

theorem splitParams_of_word {cs rest : List Char} {c : Char} (h : dropBlanks cs = c :: rest)
    (hc : c ≠ ':') :
    splitParams cs
      = (c :: rest.takeWhile isWordChar) :: splitParams (rest.dropWhile isWordChar) := by
  rw [splitParams]
  split
  · next hn =>
      rw [h] at hn
      exact absurd hn (List.cons_ne_nil _ _)
  · next d r hd =>
      rw [h, List.cons.injEq] at hd
      rw [← hd.1, ← hd.2, if_neg hc]

/-- A word ends where the text does or at a blank. -/
theorem span_word {w : List Char} (rest : List Char) (hw : ' ' ∉ w)
    (hrest : rest = [] ∨ rest.head? = some ' ') :
    (w ++ rest).takeWhile isWordChar = w ∧ (w ++ rest).dropWhile isWordChar = rest := by
  have hall : ∀ c ∈ w, isWordChar c = true := by
    intro c hc
    rw [isWordChar_eq_true_iff]
    rintro rfl
    exact hw hc
  rw [List.takeWhile_append_of_pos hall, List.dropWhile_append_of_pos hall]
  cases rest with
  | nil => exact ⟨List.append_nil w, rfl⟩
  | cons c rest =>
      have hc : c = ' ' := by
        rcases hrest with h | h
        · exact absurd h (List.cons_ne_nil c rest)
        · exact Option.some.inj h
      have hstop : ¬ isWordChar c = true := fun h => (isWordChar_eq_true_iff c).1 h hc
      rw [List.takeWhile_cons_of_neg hstop, List.dropWhile_cons_of_neg hstop]
      exact ⟨List.append_nil w, rfl⟩

theorem renderParams_head (ps : List (List Char)) :
    renderParams ps = [] ∨ (renderParams ps).head? = some ' ' := by
  cases ps with
  | nil => exact .inl rfl
  | cons p rest =>
      cases rest with
      | nil => exact .inr rfl
      | cons q qs => exact .inr rfl

/-- A written parameter that needs no colon is the next word. -/
theorem splitParams_word_append {p : List Char} (rest : List Char) (hp : needsColon p = false)
    (hrest : rest = [] ∨ rest.head? = some ' ') :
    splitParams (' ' :: (p ++ rest)) = p :: splitParams rest := by
  rw [needsColon_eq_false_iff] at hp
  rcases hp with ⟨hne, hblank, hcolon⟩
  cases p with
  | nil => exact absurd rfl hne
  | cons c w =>
      rw [List.mem_cons, not_or] at hblank
      have hc : c ≠ ':' := fun h => hcolon (congrArg some h)
      have hspan := span_word rest hblank.2 hrest
      have hdrop : dropBlanks (' ' :: (c :: w ++ rest)) = c :: (w ++ rest) := by
        rw [dropBlanks_blank, List.cons_append, dropBlanks_of_ne _ (Ne.symm hblank.1)]
      rw [splitParams_of_word hdrop hc, hspan.1, hspan.2]

/-- Written parameters read back when all but the last are words. -/
theorem splitParams_renderParams (ps : List (List Char))
    (h : ∀ p ∈ ps.dropLast, needsColon p = false) : splitParams (renderParams ps) = ps := by
  induction ps with
  | nil => exact splitParams_of_end rfl
  | cons p rest ih =>
      cases rest with
      | nil =>
          rw [renderParams]
          -- The last parameter may need a colon, and then it is all that is left.
          by_cases hp : needsColon p = true
          · rw [if_pos hp]
            refine splitParams_of_colon ?_
            rw [dropBlanks_blank]
            exact dropBlanks_of_ne p (by decide)
          · rw [if_neg hp, List.nil_append]
            rw [Bool.not_eq_true] at hp
            have hword := splitParams_word_append [] hp (.inl rfl)
            rw [List.append_nil] at hword
            rw [hword, splitParams_of_end rfl]
      | cons q qs =>
          rw [List.dropLast_cons_cons] at h
          have hp := h p List.mem_cons_self
          rw [renderParams, splitParams_word_append _ hp (renderParams_head (q :: qs))]
          · rw [ih fun r hr => h r (List.mem_cons_of_mem p hr)]
          · exact fun he => List.cons_ne_nil q qs he

/-- Only the last of the parameters that were read needs a colon. -/
theorem needsColon_of_mem_splitParams (cs p : List Char) (hp : p ∈ (splitParams cs).dropLast) :
    needsColon p = false := by
  fun_induction splitParams cs with
  | case1 => exact absurd hp List.not_mem_nil
  | case2 => exact absurd hp List.not_mem_nil
  | case3 cs c rest hdrop hc ih =>
      have hfirst : needsColon (c :: rest.takeWhile isWordChar) = false := by
        rw [needsColon_eq_false_iff]
        refine ⟨List.cons_ne_nil _ _, fun hmem => ?_, fun h => hc (Option.some.inj h)⟩
        rcases List.mem_cons.1 hmem with he | hmem
        · -- The first character is what stopped the blanks.
          have hstop := List.head?_dropWhile_not (fun d : Char => decide (d = ' ')) cs
          rw [show cs.dropWhile (fun d => decide (d = ' ')) = c :: rest from hdrop] at hstop
          simp only [List.head?_cons, ← he, decide_true, reduceCtorEq] at hstop
        · have hword := List.all_eq_true.1 List.all_takeWhile _ hmem
          exact (isWordChar_eq_true_iff ' ').1 hword rfl
      -- With nothing behind it, the word is the last parameter itself.
      cases hmore : splitParams (rest.dropWhile isWordChar) with
      | nil =>
          rw [hmore] at hp
          exact absurd hp List.not_mem_nil
      | cons q qs =>
          rw [hmore, List.dropLast_cons_cons] at hp
          rcases List.mem_cons.1 hp with rfl | hp
          · exact hfirst
          · exact ih (by rw [hmore]; exact hp)

/-- Reading brings no characters of its own. -/
theorem mem_of_mem_splitParams (cs p : List Char) (hp : p ∈ splitParams cs) (c : Char)
    (hc : c ∈ p) : c ∈ cs := by
  fun_induction splitParams cs with
  | case1 => exact absurd hp List.not_mem_nil
  | case2 cs rest hdrop =>
      rw [List.mem_singleton] at hp
      rw [hp] at hc
      refine mem_of_mem_dropBlanks ?_
      rw [hdrop]
      exact List.mem_cons_of_mem _ hc
  | case3 cs d rest hdrop _ ih =>
      have hrest : ∀ x ∈ rest, x ∈ cs := by
        intro x hx
        refine mem_of_mem_dropBlanks ?_
        rw [hdrop]
        exact List.mem_cons_of_mem d hx
      rcases List.mem_cons.1 hp with rfl | hp
      · rcases List.mem_cons.1 hc with rfl | hc
        · refine mem_of_mem_dropBlanks ?_
          rw [hdrop]
          exact List.mem_cons_self
        · exact hrest c ((List.takeWhile_sublist _).subset hc)
      · exact hrest c ((List.dropWhile_sublist _).subset (ih hp))

end Message

end IrcHarness
